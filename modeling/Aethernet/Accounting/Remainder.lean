import Mathlib

namespace accounting

variable {A : Type} (pool : UInt64) (share : A → UInt64) {l : List A}

/-- The amounts of the recipients, when `distributed` is already given away. -/
def assignRemainder : (distributed : UInt64) → List A → List (A × UInt64)
  | _, [] => []
  | distributed, [a] => [(a, pool - distributed)]
  | distributed, a :: b :: rest =>
    (a, share a) :: assignRemainder (distributed + share a) (b :: rest)

theorem map_fst_assignRemainder (distributed : UInt64) (l : List A) :
    (assignRemainder pool share distributed l).map Prod.fst = l := by
  induction l generalizing distributed with
  | nil => rfl
  | cons a rest ih =>
    cases rest with
    | nil => rfl
    | cons b rest => rw [assignRemainder, List.map_cons, ih]

theorem sum_assignRemainder {distributed : UInt64} (hne : l ≠ [])
    (hle : distributed.toNat + (l.map fun a => (share a).toNat).sum ≤ pool.toNat) :
    distributed.toNat + ((assignRemainder pool share distributed l).map fun p => p.2.toNat).sum =
      pool.toNat := by
  induction l generalizing distributed with
  | nil => exact absurd rfl hne
  | cons a rest ih =>
    rw [List.map_cons, List.sum_cons] at hle
    cases rest with
    | nil =>
      have hdistributed : distributed ≤ pool := UInt64.le_iff_toNat_le.mpr (by omega)
      rw [assignRemainder, List.map_singleton, List.sum_singleton, UInt64.toNat_sub_of_le _ _ hdistributed]
      omega
    | cons b rest =>
      have hlt := pool.toNat_lt
      have hadd : (distributed + share a).toNat = distributed.toNat + (share a).toNat := by
        rw [UInt64.toNat_add, Nat.mod_eq_of_lt]
        omega
      have hleft : (distributed + share a).toNat + ((b :: rest).map fun a => (share a).toNat).sum ≤
          pool.toNat := by
        omega
      have hrest := ih (List.cons_ne_nil b rest) hleft
      rw [assignRemainder, List.map_cons, List.sum_cons, ← add_assoc, ← hadd]
      exact hrest

theorem sum_assignRemainder_zero (hne : l ≠ []) (hle : (l.map fun a => (share a).toNat).sum ≤ pool.toNat) :
    ((assignRemainder pool share 0 l).map fun p => p.2.toNat).sum = pool.toNat := by
  have hstart : (0 : UInt64).toNat + (l.map fun a => (share a).toNat).sum ≤ pool.toNat := by
    rwa [UInt64.toNat_zero, zero_add]
  have hsum := sum_assignRemainder pool share hne hstart
  rwa [UInt64.toNat_zero, zero_add] at hsum

theorem assignRemainder_append_singleton (distributed : UInt64) (l : List A) (b : A) :
    assignRemainder pool share distributed (l ++ [b]) =
      l.map (fun a => (a, share a)) ++ [(b, pool - distributed - (l.map share).sum)] := by
  induction l generalizing distributed with
  | nil => simp [assignRemainder]
  | cons a rest ih =>
    have hcons : assignRemainder pool share distributed (a :: rest ++ [b]) =
        (a, share a) :: assignRemainder pool share (distributed + share a) (rest ++ [b]) := by
      cases rest <;> rfl
    rw [hcons, ih, List.map_cons, List.map_cons, List.sum_cons, sub_sub, sub_sub, add_assoc]
    rfl

theorem mem_assignRemainder_iff (hnodup : l.Nodup) {a : A} {x : UInt64} [DecidableEq A] :
    (a, x) ∈ assignRemainder pool share 0 l ↔
      a ∈ l ∧ x = share a + if l.getLast? = some a then pool - (l.map share).sum else 0 := by
  obtain rfl | ⟨init, b, rfl⟩ := l.eq_nil_or_concat
  · simp [assignRemainder]
  · rw [List.concat_eq_append] at hnodup ⊢
    have hlast : b ∉ init := fun h => (List.nodup_append.mp hnodup).2.2 b h b (List.mem_singleton_self b) rfl
    rw [assignRemainder_append_singleton, sub_zero, List.getLast?_concat, List.map_append, List.sum_append]
    simp only [List.mem_append, List.mem_map, List.mem_singleton, Prod.mk.injEq, Option.some.injEq,
      List.map_singleton, List.sum_singleton]
    by_cases ha : b = a
    · subst ha
      have hrest : share b + (pool - ((init.map share).sum + share b)) = pool - (init.map share).sum := by abel
      rw [if_pos rfl, hrest]
      constructor
      · rintro (⟨a, hmem, rfl, -⟩ | ⟨-, rfl⟩)
        · exact absurd hmem hlast
        · exact ⟨.inr rfl, rfl⟩
      · rintro ⟨-, rfl⟩
        exact .inr ⟨rfl, rfl⟩
    · rw [if_neg ha, add_zero]
      constructor
      · rintro (⟨a, hmem, rfl, rfl⟩ | ⟨rfl, -⟩)
        · exact ⟨.inl hmem, rfl⟩
        · exact absurd rfl ha
      · rintro ⟨hmem | rfl, rfl⟩
        · exact .inl ⟨a, hmem, rfl, rfl⟩
        · exact absurd rfl ha

section Proportional

variable (weight : A → ℚ)

def proportional (total : ℚ) (a : A) : UInt64 := UInt64.ofNat ⌊(pool.toNat : ℚ) * (weight a / total)⌋₊

theorem sum_proportional_le (hnonneg : ∀ a ∈ l, 0 ≤ weight a) :
    (l.map fun a => (proportional pool weight (l.map weight).sum a).toNat).sum ≤ pool.toNat := by
  have hround : ∀ a ∈ l, ((proportional pool weight (l.map weight).sum a).toNat : ℚ) ≤
      pool.toNat * (weight a / (l.map weight).sum) := by
    intro a ha
    have htotal : 0 ≤ (l.map weight).sum := List.sum_nonneg (by simpa using hnonneg)
    refine le_trans ?_ (Nat.floor_le (mul_nonneg (Nat.cast_nonneg _) (div_nonneg (hnonneg a ha) htotal)))
    exact_mod_cast Nat.mod_le _ _
  have hsum : ((l.map fun a => (proportional pool weight (l.map weight).sum a).toNat).sum : ℚ) ≤
      pool.toNat := by
    calc ((l.map fun a => (proportional pool weight (l.map weight).sum a).toNat).sum : ℚ)
        = (l.map fun a => ((proportional pool weight (l.map weight).sum a).toNat : ℚ)).sum := by
          rw [Nat.cast_list_sum, List.map_map]
          rfl
      _ ≤ (l.map fun a => (pool.toNat : ℚ) * (weight a / (l.map weight).sum)).sum :=
          List.sum_le_sum hround
      _ = pool.toNat * ((l.map weight).sum / (l.map weight).sum) := by
          rw [List.sum_map_mul_left]
          simp [div_eq_mul_inv, List.sum_map_mul_right]
      _ ≤ pool.toNat := mul_le_of_le_one_right (Nat.cast_nonneg _) (div_self_le_one _)
  exact_mod_cast hsum

theorem toNat_proportional {total : ℚ} {a : A} (hnonneg : 0 ≤ weight a) (hle : weight a ≤ total) :
    (proportional pool weight total a).toNat = ⌊(pool.toNat : ℚ) * (weight a / total)⌋₊ := by
  refine Nat.mod_eq_of_lt (lt_of_le_of_lt ?_ pool.toNat_lt)
  refine Nat.floor_le_of_le (mul_le_of_le_one_right (Nat.cast_nonneg _) ?_)
  exact div_le_one_of_le₀ hle (hnonneg.trans hle)

end Proportional

/-- The equal share of `n` recipients, rounded down. -/
def equalShare (n : ℕ) : UInt64 := UInt64.ofNat (pool.toNat / n)

theorem sum_equalShare_le (l : List A) :
    (l.map fun _ => (equalShare pool l.length).toNat).sum ≤ pool.toNat := by
  rw [List.map_const', List.sum_replicate, smul_eq_mul]
  calc l.length * (equalShare pool l.length).toNat
      ≤ l.length * (pool.toNat / l.length) := by
        refine Nat.mul_le_mul_left _ ?_
        exact Nat.mod_le _ _
    _ ≤ pool.toNat := Nat.mul_div_le _ _

end accounting
