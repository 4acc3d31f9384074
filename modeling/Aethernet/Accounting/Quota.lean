import Aethernet.Accounting.Remainder
import Aethernet.Golang.Int

namespace accounting

variable {A : Type} [DecidableEq A] (pool : UInt64) (weight : A → ℚ) (S : Finset A)

def quota (a : A) : UInt64 :=
  if ∑ b ∈ S, weight b = 0 then equalShare pool S.card else proportional pool weight (∑ b ∈ S, weight b) a

def leftover : UInt64 := pool - ∑ a ∈ S, quota pool weight S a

/-- No share needs rounding. -/
def ExactSplit : Prop :=
  if ∑ b ∈ S, weight b = 0 then S.card ∣ pool.toNat
  else ∀ a ∈ S, ∃ n : ℕ, (pool.toNat : ℚ) * (weight a / ∑ b ∈ S, weight b) = n

def allotment (last : Option A) (a : A) : UInt64 :=
  if a ∈ S then quota pool weight S a + if last = some a then leftover pool weight S else 0 else 0

omit [DecidableEq A] in
theorem whole_of_sum_floor {S : Finset A} {x : A → ℚ} {n : ℕ} (hnonneg : ∀ a ∈ S, 0 ≤ x a)
    (hle : ∑ a ∈ S, x a ≤ n) (hfloor : ∑ a ∈ S, ⌊x a⌋₊ = n) : ∀ a ∈ S, x a = ⌊x a⌋₊ := by
  have hterm : ∀ a ∈ S, (⌊x a⌋₊ : ℚ) ≤ x a := fun a ha => Nat.floor_le (hnonneg a ha)
  have hsum : ∑ a ∈ S, (⌊x a⌋₊ : ℚ) = ∑ a ∈ S, x a := by
    refine le_antisymm (Finset.sum_le_sum hterm) ?_
    rw [← Nat.cast_sum, hfloor]
    exact hle
  exact fun a ha => ((Finset.sum_eq_sum_iff_of_le hterm).mp hsum a ha).symm

variable {pool weight S}

theorem allotment_of_pool_eq_zero (last : Option A) (a : A) : allotment 0 weight S last a = 0 := by
  have hquota : ∀ b, quota 0 weight S b = 0 := by
    intro b
    simp [quota, equalShare, proportional]
  simp [allotment, leftover, hquota]

theorem getD_ofInserts_assignRemainder (share : A → UInt64) {l : List A} (hnodup : l.Nodup) (a : A) :
    (Finmap.ofInserts ((assignRemainder pool share 0 l).filter fun p => 0 < p.2)).getD a 0 =
      if a ∈ l then share a + if l.getLast? = some a then pool - (l.map share).sum else 0 else 0 := by
  have hkeys : (((assignRemainder pool share 0 l).filter fun p => 0 < p.2).map Prod.fst).Nodup := by
    refine List.Nodup.sublist (List.filter_sublist.map Prod.fst) ?_
    rwa [map_fst_assignRemainder]
  refine Finmap.getD_ofInserts_eq hkeys fun x => ?_
  rw [List.mem_filter, mem_assignRemainder_iff pool share hnodup, decide_eq_true_eq, UInt64.pos_iff_ne_zero]
  refine and_congr_left fun hne => ?_
  by_cases ha : a ∈ l
  · rw [if_pos ha, and_iff_right ha]
  · rw [if_neg ha]
    exact iff_of_false (fun h => ha h.1) hne

section Nonneg

variable (hnonneg : ∀ a, 0 ≤ weight a)
include hnonneg

omit [DecidableEq A] hnonneg in
theorem sum_exact_shares (pool : UInt64) (htotal : ∑ b ∈ S, weight b ≠ 0) :
    ∑ a ∈ S, (pool.toNat : ℚ) * (weight a / ∑ b ∈ S, weight b) = pool.toNat := by
  rw [← Finset.mul_sum, ← Finset.sum_div, div_self htotal, mul_one]

omit [DecidableEq A] in
theorem toNat_quota_of_ne {a : A} (htotal : ∑ b ∈ S, weight b ≠ 0) (ha : a ∈ S) :
    (quota pool weight S a).toNat = ⌊(pool.toNat : ℚ) * (weight a / ∑ b ∈ S, weight b)⌋₊ := by
  rw [quota, if_neg htotal]
  exact toNat_proportional pool weight (hnonneg a) (Finset.single_le_sum (fun b _ => hnonneg b) ha)

omit [DecidableEq A] hnonneg in
theorem toNat_quota_of_eq (htotal : ∑ b ∈ S, weight b = 0) (a : A) :
    (quota pool weight S a).toNat = pool.toNat / S.card := by
  rw [quota, if_pos htotal, equalShare, UInt64.toNat_ofNat']
  exact Nat.mod_eq_of_lt ((Nat.div_le_self _ _).trans_lt pool.toNat_lt)

omit [DecidableEq A] in
theorem sum_toNat_quota_le (pool : UInt64) (S : Finset A) : ∑ a ∈ S, (quota pool weight S a).toNat ≤ pool.toNat := by
  by_cases htotal : ∑ b ∈ S, weight b = 0
  · simp only [toNat_quota_of_eq htotal, Finset.sum_const, smul_eq_mul]
    exact Nat.mul_div_le _ _
  · have hround : ∀ a ∈ S, ((quota pool weight S a).toNat : ℚ) ≤
        pool.toNat * (weight a / ∑ b ∈ S, weight b) := by
      intro a ha
      rw [toNat_quota_of_ne hnonneg htotal ha]
      exact Nat.floor_le (mul_nonneg (Nat.cast_nonneg _)
        (div_nonneg (hnonneg a) (Finset.sum_nonneg fun b _ => hnonneg b)))
    have hsum := Finset.sum_le_sum hround
    rw [sum_exact_shares pool htotal] at hsum
    exact_mod_cast hsum

omit [DecidableEq A] in
theorem toNat_leftover (pool : UInt64) (S : Finset A) :
    (leftover pool weight S).toNat = pool.toNat - ∑ a ∈ S, (quota pool weight S a).toNat := by
  have hle := sum_toNat_quota_le hnonneg pool S
  have hsum : (∑ a ∈ S, quota pool weight S a).toNat = ∑ a ∈ S, (quota pool weight S a).toNat := by
    rw [← S.sum_map_toList, ← S.sum_map_toList] at *
    exact golang.toNat_sum_map_of_lt _ _ (hle.trans_lt pool.toNat_lt)
  rw [leftover, UInt64.toNat_sub_of_le _ _ (UInt64.le_iff_toNat_le.mpr (hsum.trans_le hle)), hsum]

omit [DecidableEq A] in
theorem leftover_eq_zero_iff : leftover pool weight S = 0 ↔ ExactSplit pool weight S := by
  have hle := sum_toNat_quota_le hnonneg pool S
  have hfull : leftover pool weight S = 0 ↔ ∑ a ∈ S, (quota pool weight S a).toNat = pool.toNat := by
    rw [← UInt64.toNat_inj, toNat_leftover hnonneg pool S, UInt64.toNat_zero]
    omega
  rw [hfull, ExactSplit]
  by_cases htotal : ∑ b ∈ S, weight b = 0
  · simp only [toNat_quota_of_eq htotal, Finset.sum_const, smul_eq_mul, if_pos htotal]
    exact ⟨Dvd.intro _, Nat.mul_div_cancel'⟩
  · have hquota : ∑ a ∈ S, (quota pool weight S a).toNat =
        ∑ a ∈ S, ⌊(pool.toNat : ℚ) * (weight a / ∑ b ∈ S, weight b)⌋₊ :=
      Finset.sum_congr rfl fun a ha => toNat_quota_of_ne hnonneg htotal ha
    have hexact := sum_exact_shares pool htotal
    rw [hquota, if_neg htotal]
    constructor
    · intro hfloor a ha
      refine ⟨_, whole_of_sum_floor (fun a _ => ?_) hexact.le hfloor a ha⟩
      exact mul_nonneg (Nat.cast_nonneg _) (div_nonneg (hnonneg a) (Finset.sum_nonneg fun b _ => hnonneg b))
    · intro hwhole
      have hcast : ∑ a ∈ S, (⌊(pool.toNat : ℚ) * (weight a / ∑ b ∈ S, weight b)⌋₊ : ℚ) = pool.toNat := by
        refine Eq.trans (Finset.sum_congr rfl fun a ha => ?_) hexact
        obtain ⟨n, hn⟩ := hwhole a ha
        rw [hn, Nat.floor_natCast]
      exact_mod_cast hcast

theorem allotment_eq_iff {a b : A} (ha : a ∈ S) :
    (∀ c, allotment pool weight S (some a) c = allotment pool weight S (some b) c) ↔
      a = b ∨ ExactSplit pool weight S := by
  rw [← leftover_eq_zero_iff hnonneg]
  constructor
  · intro h
    refine or_iff_not_imp_left.mpr fun hne => ?_
    have hlast := h a
    have hne' : some b ≠ some a := fun heq => hne (Option.some.inj heq).symm
    rwa [allotment, allotment, if_pos ha, if_pos ha, if_pos rfl, if_neg hne', add_right_inj] at hlast
  · rintro (rfl | hnone) c
    · rfl
    · simp [allotment, hnone]

section Subset

variable {S' : Finset A} (hsub : S ⊆ S') (hzero : ∀ a ∈ S', a ∉ S → weight a = 0)
  (htotal : ∑ b ∈ S, weight b ≠ 0)
include hsub hzero htotal

omit hnonneg [DecidableEq A] in
theorem exactSplit_iff_of_subset : ExactSplit pool weight S' ↔ ExactSplit pool weight S := by
  have hsum : ∑ b ∈ S', weight b = ∑ b ∈ S, weight b := (Finset.sum_subset hsub hzero).symm
  rw [ExactSplit, ExactSplit, hsum, if_neg htotal, if_neg htotal]
  refine ⟨fun h a ha => h a (hsub ha), fun h a ha => ?_⟩
  by_cases hmem : a ∈ S
  · exact h a hmem
  · exact ⟨0, by rw [hzero a ha hmem, zero_div, mul_zero, Nat.cast_zero]⟩

theorem allotment_of_exactSplit (hexact : ExactSplit pool weight S) (last : Option A) (a : A) :
    allotment pool weight S' last a = if a ∈ S then quota pool weight S a else 0 := by
  have hsum : ∑ b ∈ S', weight b = ∑ b ∈ S, weight b := (Finset.sum_subset hsub hzero).symm
  have hnone : leftover pool weight S' = 0 :=
    (leftover_eq_zero_iff hnonneg).mpr ((exactSplit_iff_of_subset hsub hzero htotal).mpr hexact)
  have hquota : quota pool weight S' a = quota pool weight S a := by
    rw [quota, quota, hsum, if_neg htotal, if_neg htotal]
  rw [allotment, hnone, ite_self, add_zero, hquota]
  by_cases hmem : a ∈ S
  · rw [if_pos hmem, if_pos (hsub hmem)]
  · rw [if_neg hmem]
    by_cases hmem' : a ∈ S'
    · rw [if_pos hmem', quota, if_neg htotal, proportional, hzero a hmem' hmem, zero_div, mul_zero, Nat.floor_zero]
      rfl
    · rw [if_neg hmem']

end Subset

/-- A newcomer who is the last gets nothing exactly when it has no weight and the others split the pool
    without rounding. -/
theorem allotment_newcomer_eq_zero_iff {w : A} (hpool : pool ≠ 0) (hw : w ∉ S) :
    allotment pool weight (insert w S) (some w) w = 0 ↔
      weight w = 0 ∧ ∑ b ∈ S, weight b ≠ 0 ∧ ExactSplit pool weight S := by
  have hmem : w ∈ insert w S := Finset.mem_insert_self w S
  have hsub : S ⊆ insert w S := Finset.subset_insert w S
  have hzero : weight w = 0 → ∀ a ∈ insert w S, a ∉ S → weight a = 0 := by
    intro hweight a ha hnot
    rwa [(Finset.mem_insert.mp ha).resolve_right hnot]
  have hboth : allotment pool weight (insert w S) (some w) w = 0 ↔
      (quota pool weight (insert w S) w).toNat = 0 ∧ ExactSplit pool weight (insert w S) := by
    have hle := sum_toNat_quota_le hnonneg pool (insert w S)
    have hleft := toNat_leftover hnonneg pool (insert w S)
    have hself := Finset.single_le_sum (f := fun a => (quota pool weight (insert w S) a).toNat)
      (fun a _ => Nat.zero_le _) hmem
    have hlt := pool.toNat_lt
    rw [← leftover_eq_zero_iff hnonneg, allotment, if_pos hmem, if_pos rfl, ← UInt64.toNat_inj, ← UInt64.toNat_inj,
      UInt64.toNat_add, UInt64.toNat_zero]
    omega
  rw [hboth]
  by_cases htotal : ∑ b ∈ insert w S, weight b = 0
  · -- equal shares that are whole are not zero
    refine iff_of_false ?_ ?_
    · rintro ⟨hquota, hexact⟩
      rw [toNat_quota_of_eq htotal] at hquota
      rw [ExactSplit, if_pos htotal] at hexact
      have hpool' := Nat.div_mul_cancel hexact
      rw [hquota, Nat.zero_mul] at hpool'
      exact hpool (UInt64.toNat_inj.mp hpool'.symm)
    · rintro ⟨-, hne, -⟩
      have hle := Finset.sum_le_sum_of_subset_of_nonneg hsub fun b _ _ => hnonneg b
      rw [htotal] at hle
      exact hne (le_antisymm hle (Finset.sum_nonneg fun b _ => hnonneg b))
  · rw [toNat_quota_of_ne hnonneg htotal hmem]
    constructor
    · rintro ⟨hfloor, hexact⟩
      have hweight : weight w = 0 := by
        have hwhole := hexact
        rw [ExactSplit, if_neg htotal] at hwhole
        obtain ⟨n, hn⟩ := hwhole w hmem
        rw [hn, Nat.floor_natCast] at hfloor
        rw [hfloor, Nat.cast_zero] at hn
        have hpool' : (pool.toNat : ℚ) ≠ 0 := Nat.cast_ne_zero.mpr fun h => hpool (UInt64.toNat_inj.mp h)
        exact (div_eq_zero_iff.mp ((mul_eq_zero.mp hn).resolve_left hpool')).resolve_right htotal
      have htotal' : ∑ b ∈ S, weight b ≠ 0 := by
        rwa [Finset.sum_insert hw, hweight, zero_add] at htotal
      exact ⟨hweight, htotal', (exactSplit_iff_of_subset hsub (hzero hweight) htotal').mp hexact⟩
    · rintro ⟨hweight, htotal', hexact⟩
      refine ⟨?_, (exactSplit_iff_of_subset hsub (hzero hweight) htotal').mpr hexact⟩
      rw [hweight, zero_div, mul_zero, Nat.floor_zero]

end Nonneg

end accounting
