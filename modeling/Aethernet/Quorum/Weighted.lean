import Mathlib

namespace quorum

variable {S K : Type} [DecidableEq K] (key : S → K) (weight : S → ℕ)

variable (seats : List S) (k : K)

def keyedWeight : ℕ := ((seats.find? fun s => key s = k).map weight).getD 0

def heldUnder : ℕ := (seats.map fun s => if key s = k then weight s else 0).sum

theorem keyedWeight_le_heldUnder : keyedWeight key weight seats k ≤ heldUnder key weight seats k := by
  induction seats with
  | nil => rfl
  | cons s seats ih =>
    rw [heldUnder, List.map_cons, List.sum_cons]
    by_cases hkey : key s = k
    · simp [keyedWeight, hkey]
    · simpa [keyedWeight, heldUnder, hkey] using ih

theorem sum_heldUnder (keys : Finset K) : ∑ k ∈ keys, heldUnder key weight seats k =
      (seats.map fun s => if key s ∈ keys then weight s else 0).sum := by
  induction seats with
  | nil => simp [heldUnder]
  | cons s seats ih =>
    simp only [heldUnder, List.map_cons, List.sum_cons, Finset.sum_add_distrib, Finset.sum_ite_eq] at ih ⊢
    rw [ih]

variable (p : S → Prop) [DecidablePred p]

theorem sum_map_ite_le : (seats.map fun s => if p s then weight s else 0).sum ≤ (seats.map weight).sum := by
  refine List.sum_le_sum fun s _ => ?_
  split_ifs
  · exact le_rfl
  · exact Nat.zero_le _

theorem sum_keyedWeight_le {voters : List K} (hnodup : voters.Nodup) :
    (voters.map (keyedWeight key weight seats)).sum ≤ (seats.map weight).sum :=
  calc (voters.map (keyedWeight key weight seats)).sum
      ≤ (voters.map (heldUnder key weight seats)).sum :=
        List.sum_le_sum fun k _ => keyedWeight_le_heldUnder key weight seats k
    _ = ∑ k ∈ voters.toFinset, heldUnder key weight seats k := (List.sum_toFinset _ hnodup).symm
    _ = (seats.map fun s => if key s ∈ voters.toFinset then weight s else 0).sum :=
        sum_heldUnder key weight seats _
    _ ≤ (seats.map weight).sum := sum_map_ite_le weight seats _

theorem sum_map_ite_eq_sum_filter :
    (seats.map fun s => if p s then weight s else 0).sum = ((seats.filter fun s => p s).map weight).sum := by
  induction seats with
  | nil => rfl
  | cons s seats ih =>
    rw [List.map_cons, List.sum_cons, List.filter_cons, ih]
    by_cases hs : p s
    · rw [if_pos hs, if_pos (decide_eq_true hs), List.map_cons, List.sum_cons]
    · rw [if_neg hs, if_neg (by simpa using hs), zero_add]

section Groups

variable {A G : Type} [DecidableEq G] {voter : A → K} {group : A → G} {stake : A → ℕ} {key weight}

theorem heldUnder_le_card_mul {votes : List A} (honce : (votes.map fun v => (voter v, group v)).Nodup)
    {bound : ℕ} {k : K}
    (hstake : ∀ v ∈ votes, voter v = k → stake v ≤ bound) :
    heldUnder voter stake votes k ≤ ((votes.filter fun v => voter v = k).map group).toFinset.card * bound := by
  rw [heldUnder, sum_map_ite_eq_sum_filter]
  have hmem : ∀ v ∈ votes.filter (fun v => voter v = k), v ∈ votes ∧ voter v = k :=
    fun v hv => by simpa using List.mem_filter.mp hv
  -- the groups of one voter are distinct
  have hnodup : ((votes.filter fun v => voter v = k).map group).Nodup := by
    refine List.Nodup.of_map (fun g => (k, g)) ?_
    have hpairs : ((votes.filter fun v => voter v = k).map group).map (fun g => (k, g)) =
        (votes.filter fun v => voter v = k).map fun v => (voter v, group v) := by
      rw [List.map_map]
      exact List.map_congr_left fun v hv => by rw [Function.comp_apply, (hmem v hv).2]
    rw [hpairs]
    exact (List.filter_sublist.map _).nodup honce
  have hsum := List.sum_le_card_nsmul ((votes.filter fun v => voter v = k).map stake) bound (by
    simp only [List.mem_map]
    rintro _ ⟨v, hv, rfl⟩
    exact hstake v (hmem v hv).1 (hmem v hv).2)
  rwa [List.length_map, smul_eq_mul, ← List.length_map group, ← List.toFinset_card_of_nodup hnodup] at hsum

theorem sum_stake_le_sum_card_mul {votes : List A} (honce : (votes.map fun v => (voter v, group v)).Nodup)
    {bound : K → ℕ}
    (hstake : ∀ v ∈ votes, stake v ≤ bound (voter v)) {keys : Finset K} (hkeys : ∀ v ∈ votes, voter v ∈ keys) :
    (votes.map stake).sum ≤
      ∑ k ∈ keys, ((votes.filter fun v => voter v = k).map group).toFinset.card * bound k := by
  have hall : (votes.map stake).sum = (votes.map fun v => if voter v ∈ keys then stake v else 0).sum := by
    refine congrArg List.sum (List.map_congr_left fun v hv => ?_)
    rw [if_pos (hkeys v hv)]
  rw [hall, ← sum_heldUnder]
  refine Finset.sum_le_sum fun k _ => heldUnder_le_card_mul honce ?_
  rintro v hv rfl
  exact hstake v hv

end Groups

theorem sum_map_le_of_subperm {A : Type} {p q : List A} (h : p.Subperm q) (f : A → ℕ) :
    (p.map f).sum ≤ (q.map f).sum := by
  obtain ⟨r, hr⟩ := Multiset.le_iff_exists_add.mp (Multiset.coe_le.mpr h)
  have hsum : ((q : Multiset A).map f).sum = ((p : Multiset A).map f).sum + (r.map f).sum := by
    rw [hr, Multiset.map_add, Multiset.sum_add]
  rw [Multiset.map_coe, Multiset.map_coe, Multiset.sum_coe, Multiset.sum_coe] at hsum
  omega

omit [DecidableEq K] in
theorem nodup_map_of_subperm {A : Type} {p q : List A} (h : p.Subperm q) {f : A → K}
    (hnodup : (q.map f).Nodup) : (p.map f).Nodup := by
  obtain ⟨r, hperm, hsub⟩ := h
  exact (hperm.map f).nodup_iff.mp ((hsub.map f).nodup hnodup)

theorem not_reached_and_blocked {θ : ℚ} {yes no total : ℕ} (hpos : 0 < total) (hle : yes + no ≤ total)
    (hyes : θ ≤ (yes : ℚ) / total) (hno : 1 - θ < (no : ℚ) / total) : False := by
  have htotal : (0 : ℚ) < total := by exact_mod_cast hpos
  have hsum : (yes : ℚ) / total + (no : ℚ) / total ≤ 1 := by
    rw [← add_div, div_le_one htotal]
    exact_mod_cast hle
  linarith

end quorum
