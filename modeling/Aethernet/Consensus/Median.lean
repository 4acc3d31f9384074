import Aethernet.Consensus.Tally

open golang Finmap

namespace aethernet.consensus

variable (threshold : UInt64) {cumW : UInt64}

namespace VotingRound

variable {entries : List (UInt64 ×ₗ UInt64)}

theorem pickMedian_mem (cumW last : UInt64) (hne : entries ≠ []) :
    ∃ e ∈ entries, pickMedian threshold cumW last entries = (ofLex e).1 := by
  induction entries generalizing cumW last with
  | nil => exact absurd rfl hne
  | cons e rest ih =>
    rw [pickMedian]
    by_cases hover : threshold < cumW + (ofLex e).2
    · exact ⟨e, List.mem_cons_self, if_pos hover⟩
    · simp only [if_neg hover]
      cases rest with
      | nil => exact ⟨e, List.mem_cons_self, rfl⟩
      | cons e' rest =>
        obtain ⟨picked, hmem, hpicked⟩ := ih (cumW + (ofLex e).2) (ofLex e).1 (List.cons_ne_nil _ _)
        exact ⟨picked, List.mem_cons_of_mem e hmem, hpicked⟩

theorem pickMedian_eq_zero_iff (hcum : ¬ threshold < cumW) (zeros : List UInt64) {others : List (UInt64 ×ₗ UInt64)}
    (hothers : ∀ e ∈ others, (ofLex e).1 ≠ 0) :
    pickMedian threshold cumW 0 (zeros.map (fun w => toLex (0, w)) ++ others) = 0 ↔
      others = [] ∨ ∃ k, threshold < cumW + (zeros.take k).sum := by
  induction zeros generalizing cumW with
  | nil =>
    constructor
    · intro hzero
      by_contra hnot
      obtain ⟨e, hmem, hpicked⟩ := pickMedian_mem threshold cumW 0 fun hnil => hnot (.inl hnil)
      exact hothers e hmem (hpicked.symm.trans hzero)
    · rintro (rfl | ⟨k, hover⟩)
      · rfl
      · rw [List.take_nil, List.sum_nil, add_zero] at hover
        exact absurd hover hcum
  | cons w zeros ih =>
    by_cases hover : threshold < cumW + w
    · refine iff_of_true (if_pos hover) (.inr ⟨1, ?_⟩)
      rwa [List.take_succ_cons, List.take_zero, List.sum_singleton]
    · have hstep : pickMedian threshold (cumW + w) 0 (zeros.map (fun w => toLex (0, w)) ++ others) = 0 ↔
          others = [] ∨ ∃ k, threshold < cumW + ((w :: zeros).take k).sum := by
        rw [ih hover]
        refine or_congr_right ⟨?_, ?_⟩
        · rintro ⟨k, hk⟩
          refine ⟨k + 1, ?_⟩
          rwa [List.take_succ_cons, List.sum_cons, ← add_assoc]
        · rintro ⟨_ | k, hk⟩
          · rw [List.take_zero, List.sum_nil, add_zero] at hk
            exact absurd hk hcum
          · refine ⟨k, ?_⟩
            rwa [List.take_succ_cons, List.sum_cons, ← add_assoc] at hk
      rw [← hstep]
      exact iff_of_eq (congrArg (· = 0) (if_neg hover))

def weightWhere (entries : List (UInt64 ×ₗ UInt64)) (p : UInt64 → Bool) : ℕ :=
  (entries.map fun e => if p (ofLex e).1 then (ofLex e).2.toNat else 0).sum

theorem weightWhere_cons (e : UInt64 ×ₗ UInt64) (rest : List (UInt64 ×ₗ UInt64)) (p : UInt64 → Bool) :
    weightWhere (e :: rest) p = (if p (ofLex e).1 then (ofLex e).2.toNat else 0) + weightWhere rest p := by
  simp [weightWhere]

theorem pickMedian_spec (last : UInt64) (hsorted : entries.Pairwise (· ≤ ·))
    (hroom : cumW.toNat + weightWhere entries (fun _ => true) < 2 ^ 64) (hcum : cumW ≤ threshold)
    (hover : threshold.toNat < cumW.toNat + weightWhere entries fun _ => true) :
    ∃ e ∈ entries, pickMedian threshold cumW last entries = (ofLex e).1 ∧
      cumW.toNat + weightWhere entries (· < (ofLex e).1) ≤ threshold.toNat ∧
      threshold.toNat < cumW.toNat + weightWhere entries (· ≤ (ofLex e).1) := by
  induction entries generalizing cumW last with
  | nil => exact absurd hover (Nat.not_lt.mpr (UInt64.le_iff_toNat_le.mp hcum))
  | cons e rest ih =>
    obtain ⟨hfirst, hrest⟩ := List.pairwise_cons.mp hsorted
    have hvalue : ∀ e' ∈ rest, (ofLex e).1 ≤ (ofLex e').1 := fun e' he' => Prod.Lex.monotone_fst e e' (hfirst e' he')
    have hnone : weightWhere rest (· < (ofLex e).1) = 0 := by
      refine List.sum_eq_zero fun x hx => ?_
      obtain ⟨e', he', rfl⟩ := List.mem_map.mp hx
      simp [hvalue e' he']
    simp only [weightWhere_cons, if_true] at hroom hover ⊢
    have hadd : (cumW + (ofLex e).2).toNat = cumW.toNat + (ofLex e).2.toNat := by
      rw [UInt64.toNat_add, Nat.mod_eq_of_lt (by omega)]
    by_cases hhere : threshold < cumW + (ofLex e).2
    · refine ⟨e, List.mem_cons_self, if_pos hhere, ?_, ?_⟩
      · rw [hnone]
        simpa using UInt64.le_iff_toNat_le.mp hcum
      · have hlt := UInt64.lt_iff_toNat_lt.mp hhere
        simp only [le_refl, decide_true, if_true]
        omega
    · have hnext : cumW + (ofLex e).2 ≤ threshold := not_lt.mp hhere
      obtain ⟨e', he', hpick, hbelow, hupto⟩ := ih (ofLex e).1 hrest (by omega) hnext (by omega)
      refine ⟨e', List.mem_cons_of_mem e he', (if_neg hhere).trans hpick, ?_, ?_⟩
      · split_ifs <;> omega
      · simp only [hvalue e' he', decide_true, if_true]
        omega

/-- The weight of the approving voters whose verified value passes the test. -/
def approvedWeight (record : VoteRecord) (p : UInt64 → Bool) : ℕ :=
  record.votes.sumOver fun voterID approved =>
    if approved && p (ofLex (weightedValue record voterID)).1 then (ofLex (weightedValue record voterID)).2.toNat else 0

/-- What the loop over the votes appends for one of them. -/
def entryOf (record : VoteRecord) (voterID : AgentID) (approved : Bool) : Option (UInt64 ×ₗ UInt64) :=
  if approved then some (weightedValue record voterID) else none

section Entries

variable {record : VoteRecord} {entries : List (UInt64 ×ₗ UInt64)}

theorem mem_collect_entryOf {e : UInt64 ×ₗ UInt64} : e ∈ record.votes.collect (entryOf record) ↔
    ∃ voterID, record.votes.lookup voterID = some true ∧ e = weightedValue record voterID := by
  rw [collect, Multiset.mem_filterMap]
  constructor
  · rintro ⟨⟨voterID, approved⟩, hmem, hentry⟩
    cases approved with
    | false => cases hentry
    | true => exact ⟨voterID, lookup_eq_some_iff.mpr hmem, (Option.some.inj hentry).symm⟩
  · rintro ⟨voterID, hlookup, rfl⟩
    exact ⟨⟨voterID, true⟩, lookup_eq_some_iff.mp hlookup, rfl⟩

theorem weightWhere_of_collect (hentries : (entries : Multiset _) = record.votes.collect (entryOf record))
    (p : UInt64 → Bool) : weightWhere entries p = approvedWeight record p := by
  rw [weightWhere, ← Multiset.sum_coe, ← Multiset.map_coe, hentries, sum_map_collect]
  refine congrArg record.votes.sumOver (funext₂ fun voterID approved => ?_)
  cases approved with
  | false => rfl
  | true => simp [entryOf]

theorem computeWeightedMedian_of_sorted (hentries : (entries : Multiset _) = record.votes.collect (entryOf record))
    (hsorted : entries.Pairwise (· ≤ ·)) :
    pickMedian ((entries.map fun e => (ofLex e).2).sum / 2) 0 0 entries = computeWeightedMedian record := by
  have hsame : entries = sortSlice (record.votes.collect (entryOf record)) := by
    refine List.Perm.eq_of_pairwise (fun a b _ _ hab hba => le_antisymm hab hba) hsorted (sortSlice_sorted _) ?_
    rw [← Multiset.coe_eq_coe, hentries, coe_sortSlice]
  rw [hsame]
  rfl

theorem approvedWeight_pos (hvotes : ∃ voterID, record.votes.lookup voterID = some true) :
    0 < approvedWeight record fun _ => true := by
  obtain ⟨voterID, hlookup⟩ := hvotes
  have hweight : (ofLex (weightedValue record voterID)).2 ≠ 0 := by
    simp only [weightedValue]
    split_ifs with hzero
    · exact (by decide : (1 : UInt64) ≠ 0)
    · exact hzero
  rw [approvedWeight, sumOver, ← Multiset.cons_erase (lookup_eq_some_iff.mp hlookup), Multiset.map_cons,
    Multiset.sum_cons]
  exact Nat.add_pos_left (Nat.pos_of_ne_zero fun hzero => hweight (UInt64.toNat_inj.mp hzero)) _

end Entries

/-- The record after these votes. -/
def withVotes (record : VoteRecord) (l : List Ballot) : VoteRecord :=
  l.foldl (fun record b => withVote record b.voter b.verdict b.value) record

theorem withVotes_eq_of_perm {l l' : List Ballot} (hperm : l.Perm l') (hnodup : (l.map Ballot.voter).Nodup)
    (record : VoteRecord) : withVotes record l = withVotes record l' := by
  refine hperm.foldl_eq' (fun b hb b' hb' record => ?_) record
  by_cases hvoter : b.voter = b'.voter
  · rw [List.inj_on_of_nodup_map hnodup hb hb' hvoter]
  · simp [withVote, insert_insert_of_ne _ hvoter]

def sampleOpened : VoteRecord where
  eventID := "e1"
  boundSnapshot := some
    { voteWeightByKey := fun key => List.lookup key [("alice", 4), ("bob", 3), ("carol", 2), ("dave", 0)]
      setVersion := 1
      activeWeight := 9 }

def sampleBallots : List Ballot :=
  [⟨"alice", true, 7⟩, ⟨"bob", false, 3⟩, ⟨"carol", true, 5⟩, ⟨"dave", true, 5⟩, ⟨"erin", true, 9⟩]

end VotingRound

variable (src : ValidatorSetSource) (l : List Ballot)

namespace Ballot

def zeroWeights : List UInt64 :=
  sortSlice ((l.filter fun b => b.verdict && b.value = 0).map
    (fun b => src.medianWeight b.voter) : Multiset UInt64)

def approveWeight : UInt64 :=
  ((l.filter (·.verdict)).map fun b => src.medianWeight b.voter).sum

/-- Every approving ballot is without a verified value, or the weights of those that are, added up from
    the smallest, at some point exceed half of the approving weight. -/
def ZeroMajority : Prop :=
  (∀ b ∈ l, b.verdict = true → b.value = 0) ∨
    ∃ k, approveWeight src l / 2 < ((zeroWeights src l).take k).sum

def valuedEntries : List (UInt64 ×ₗ UInt64) :=
  (l.filter fun b => b.verdict && b.value ≠ 0).map fun b => toLex (b.value, src.medianWeight b.voter)

theorem coe_entriesOf : (entriesOf src l : Multiset (UInt64 ×ₗ UInt64)) =
      ((l.filter fun b => b.verdict && b.value = 0).map fun b => toLex (0, src.medianWeight b.voter) :
        List (UInt64 ×ₗ UInt64)) + valuedEntries src l := by
  induction l with
  | nil => rfl
  | cons b l ih =>
    simp only [entriesOf, valuedEntries] at ih ⊢
    cases hverdict : b.verdict with
    | false => simpa [hverdict] using ih
    | true =>
      by_cases hvalue : b.value = 0
      · simp [hverdict, hvalue, ← Multiset.cons_coe, ih]
      · simp [hverdict, hvalue, ← Multiset.cons_coe, ih]

theorem value_ne_zero_of_mem {src : ValidatorSetSource} {l : List Ballot} {e : UInt64 ×ₗ UInt64}
    (he : e ∈ sortSlice (valuedEntries src l : Multiset (UInt64 ×ₗ UInt64))) : (ofLex e).1 ≠ 0 := by
  rw [← Multiset.mem_coe, coe_sortSlice, Multiset.mem_coe] at he
  obtain ⟨b, hb, rfl⟩ := List.mem_map.mp he
  have hfilter := (List.mem_filter.mp hb).2
  simp only [Bool.and_eq_true, decide_eq_true_eq] at hfilter
  exact hfilter.2

theorem sortSlice_entriesOf : sortSlice (entriesOf src l : Multiset (UInt64 ×ₗ UInt64)) =
      (zeroWeights src l).map (fun w => toLex (0, w)) ++
        sortSlice (valuedEntries src l : Multiset (UInt64 ×ₗ UInt64)) := by
  refine List.Perm.eq_of_pairwise (fun a b _ _ hab hba => le_antisymm hab hba) (sortSlice_sorted _) ?_ ?_
  · rw [List.pairwise_append]
    refine ⟨?_, sortSlice_sorted _, ?_⟩
    · rw [List.pairwise_map]
      refine (sortSlice_sorted _).imp fun hle => ?_
      exact Prod.Lex.toLex_le_toLex.mpr (.inr ⟨rfl, hle⟩)
    · intro a ha b hb
      obtain ⟨w, -, rfl⟩ := List.mem_map.mp ha
      refine Prod.Lex.toLex_le_toLex.mpr (.inl ?_)
      exact lt_of_le_of_ne (UInt64.zero_le) (value_ne_zero_of_mem hb).symm
  · rw [← Multiset.coe_eq_coe, coe_sortSlice, ← Multiset.coe_add, coe_sortSlice, ← Multiset.map_coe,
      zeroWeights, coe_sortSlice, coe_entriesOf, Multiset.map_coe, List.map_map]
    rfl

theorem sum_sortSlice_entriesOf :
    ((sortSlice (entriesOf src l : Multiset (UInt64 ×ₗ UInt64))).map fun e => (ofLex e).2).sum =
      approveWeight src l := by
  rw [← Multiset.sum_coe, ← Multiset.map_coe, coe_sortSlice, Multiset.map_coe, Multiset.sum_coe, entriesOf,
    List.map_map]
  rfl

theorem medianOf_eq_zero_iff : medianOf src l = 0 ↔ ZeroMajority src l := by
  have hnil : sortSlice (valuedEntries src l : Multiset (UInt64 ×ₗ UInt64)) = [] ↔
      ∀ b ∈ l, b.verdict = true → b.value = 0 := by
    rw [← Multiset.coe_eq_zero, coe_sortSlice, Multiset.coe_eq_zero, valuedEntries, List.map_eq_nil_iff,
      List.filter_eq_nil_iff]
    simp
  unfold medianOf
  simp only [sum_sortSlice_entriesOf]
  rw [sortSlice_entriesOf, VotingRound.pickMedian_eq_zero_iff _ (by simp) _ fun _ => value_ne_zero_of_mem,
    hnil, ZeroMajority]
  simp

end Ballot

end aethernet.consensus
