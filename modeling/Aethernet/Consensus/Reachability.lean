import Aethernet.Consensus.Agreement
import Aethernet.ValidatorLifecycle.Steps

open golang aethernet event validatorlifecycle transition Finmap

namespace aethernet.consensus

open Ballot

section Approval

variable {config : ConsensusConfig} {src : ValidatorSetSource} {θ : ℚ} {l : List Ballot}

/-- Some first part of the ballots has enough voters, and enough weight as the code adds it up. -/
def Reaches (config : ConsensusConfig) (src : ValidatorSetSource) (θ : ℚ) (l : List Ballot) : Prop :=
  ∃ p, p ≠ [] ∧ p <+: l ∧ config.minParticipants ≤ p.length ∧
    θ * src.activeWeight.toNat ≤ (tallyOf src p).yesWeight.toNat

theorem noWeight_of_approving (hyes : ∀ b ∈ l, b.verdict = true) : (tallyOf src l).noWeight = 0 := by
  refine List.sum_eq_zero fun w hw => ?_
  obtain ⟨b, hb, rfl⟩ := List.mem_map.mp hw
  rw [hyes b hb]
  rfl

theorem decisionOf_of_approving (hpos : 0 < src.activeWeight) (hθ : config.supermajorityThreshold = .exact θ)
    (hone : θ ≤ 1) (hyes : ∀ b ∈ l, b.verdict = true) :
    decisionOf config src l =
      if config.minParticipants ≤ l.length ∧ θ * src.activeWeight.toNat ≤ (tallyOf src l).yesWeight.toNat then some true
      else none := by
  have hne : src.activeWeight ≠ 0 := UInt64.pos_iff_ne_zero.mp hpos
  have htotal : (0 : ℚ) < src.activeWeight.toNat := by exact_mod_cast UInt64.lt_iff_toNat_lt.mp hpos
  have hblocked : ¬ 1 - θ < 0 := not_lt.mpr (sub_nonneg.mpr hone)
  simp only [decisionOf, VotingRound.decide, if_neg hne, hpos, and_true, true_and, hθ, Threshold.exact,
    decide_eq_true_eq, noWeight_of_approving hyes, UInt64.toNat_zero, Nat.cast_zero, zero_div, hblocked, if_false,
    le_div_iff₀ htotal]
  split_ifs <;> simp_all

theorem outcome_of_approving (hpos : 0 < src.activeWeight) (hθ : config.supermajorityThreshold = .exact θ)
    (hone : θ ≤ 1) (hyes : ∀ b ∈ l, b.verdict = true) {o : Option Bool}
    (houtcome : Outcome (decisionOf config src) l o) : o = some true ↔ Reaches config src θ l := by
  have hdecides : ∀ p, p <+: l → decisionOf config src p =
      if config.minParticipants ≤ p.length ∧ θ * src.activeWeight.toNat ≤ (tallyOf src p).yesWeight.toNat then some true
      else none :=
    fun p hpre => decisionOf_of_approving hpos hθ hone fun b hb => hyes b (hpre.subset hb)
  rcases houtcome with ⟨rfl, hundecided⟩ | ⟨p, d, rfl, hpre, hfirst⟩
  · refine iff_of_false nofun ?_
    rintro ⟨p, hne, hpre, hreached⟩
    have hnone := hundecided p hne hpre
    rw [hdecides p hpre, if_pos hreached] at hnone
    cases hnone
  · have hdecision := hfirst.decides
    rw [hdecides p hpre] at hdecision
    obtain ⟨hreached, hd⟩ := Option.ite_none_right_eq_some.mp hdecision
    exact iff_of_true (congrArg some (Option.some.inj hd).symm) ⟨p, hfirst.ne_nil, hpre, hreached⟩

theorem yesOf_of_approving (hyes : ∀ b ∈ l, b.verdict = true) :
    yesOf src l = (l.map fun b => (src.weightOf b.voter).toNat).sum := by
  refine congrArg List.sum (List.map_congr_left fun b hb => ?_)
  rw [hyes b hb, if_pos rfl]

theorem reaches_iff_of_bounded (hbounded : src.Bounded) (hyes : ∀ b ∈ l, b.verdict = true)
    (hnodup : (l.map Ballot.voter).Nodup) :
    Reaches config src θ l ↔ l ≠ [] ∧ config.minParticipants ≤ l.length ∧
      θ * src.activeWeight.toNat ≤ (l.map fun b => (src.weightOf b.voter).toNat).sum := by
  rw [← yesOf_of_approving hyes]
  constructor
  · rintro ⟨p, hne, hpre, hmin, hweight⟩
    have hsub := hpre.sublist.subperm
    rw [(toNat_tallyOf hbounded (quorum.nodup_map_of_subperm hsub hnodup)).1] at hweight
    have hlength : (p.length : ℤ) ≤ l.length := by exact_mod_cast hpre.length_le
    have hmore : (yesOf src p : ℚ) ≤ yesOf src l := by exact_mod_cast quorum.sum_map_le_of_subperm hsub _
    refine ⟨?_, hmin.trans hlength, hweight.trans hmore⟩
    rintro rfl
    exact hne (List.prefix_nil.mp hpre)
  · rintro ⟨hne, hmin, hweight⟩
    refine ⟨l, hne, List.prefix_rfl, hmin, ?_⟩
    rwa [(toNat_tallyOf hbounded hnodup).1]

end Approval

variable (sha256 : List UInt8 → List UInt8) (r : Reducer) (eventID : EventID)

namespace VotingRound

/-- The ballots of the voters to whom the snapshot gives a weight. -/
def weighted (src : ValidatorSetSource) (ballots : List Ballot) : List Ballot :=
  ballots.filter fun b => (src.voteWeightByKey b.voter).isSome

/-- Whether the whole committee can approve. A node is bound to the snapshot of a reducer whose active weight is
    positive, its committees come from the same reducer, and it has no votes on the event yet. When every member of the
    committee votes yes, the event is finalized with verdict true exactly if there is a round to vote in and some first
    part of the members who have a weight has enough voters and the share of the whole active weight that the threshold
    asks for. If no sum of weights wraps, that is all members with a weight together. -/
theorem committee_finalizes_iff {r : Reducer} {order : List ValidatorSeat} (hvisits : r.seats.Visits order)
    (hpos : 0 < r.snapshot.totalActiveWeight) {node : VotingRound} {eventID : EventID} {θ : ℚ}
    (hθ : node.config.supermajorityThreshold = .exact θ) (hone : θ ≤ 1)
    (hset : node.validatorSet = some (snapshotSource r.snapshot order))
    (hcommittee : node.committeeSource = some fun eventID => some (r.selectForRound sha256 eventID))
    (hfresh : eventID ∉ node.records) {ballots : List Ballot} (hyes : ∀ b ∈ ballots, b.verdict = true)
    (hnodup : (ballots.map Ballot.voter).Nodup)
    (hmembers : ∀ key, key ∈ ballots.map Ballot.voter ↔ (r.selectForRound sha256 eventID).getD key false = true) :
    let src := snapshotSource r.snapshot order
    ((node.registerAll eventID ballots).outcome eventID = some true ↔
      1 ≤ node.config.maxRounds ∧ Reaches node.config src θ (weighted src ballots)) ∧
    (r.snapshot.totalActiveWeight.toNat = r.seats.sumBy r.snapshot.voteWeight →
      (Reaches node.config src θ (weighted src ballots) ↔ weighted src ballots ≠ [] ∧
        node.config.minParticipants ≤ (weighted src ballots).length ∧
        θ * r.snapshot.totalActiveWeight.toNat ≤
          ((weighted src ballots).map fun b => (src.weightOf b.voter).toNat).sum)) := by
  intro src
  have hsub : (weighted src ballots).Sublist ballots := List.filter_sublist
  have hyes' : ∀ b ∈ weighted src ballots, b.verdict = true := fun b hb => hyes b (hsub.subset hb)
  have hnodup' : ((weighted src ballots).map Ballot.voter).Nodup := hnodup.sublist (hsub.map _)
  have heligible : ∀ b ∈ ballots,
      (src.voteWeightByKey b.voter).isSome = true ↔ node.Eligible eventID b.voter := by
    intro b hb
    have hmember : node.inCommittee eventID b.voter = true := by
      rw [inCommittee, hcommittee]
      exact (hmembers b.voter).mp (List.mem_map_of_mem hb)
    rw [Eligible, computeWeight, hset]
    simp only [hmember, and_true, weightFromSnapshot, src]
    cases (snapshotSource r.snapshot order).voteWeightByKey b.voter <;> simp
  refine ⟨?_, fun hactive => reaches_iff_of_bounded (snapshotSource_bounded hvisits hactive) hyes' hnodup'⟩
  have hholds := Holds.fresh hset hfresh
  by_cases hrounds : 1 ≤ node.config.maxRounds
  · rw [registerAll_filter heligible, and_iff_right hrounds]
    refine outcome_of_approving hpos hθ hone hyes' ?_
    exact hholds.outcome_registerAll hrounds hnodup' fun b hb =>
      (heligible b (hsub.subset hb)).mp (List.mem_filter.mp hb).2
  · refine iff_of_false ?_ fun h => hrounds h.1
    rw [hholds.outcome_of_no_rounds (UInt64.not_le.mp hrounds)]
    exact (Option.some_ne_none true).symm

section Sample

/-- The seat with this number joins with this stake, or enters probation, or has its stake changed. -/
def numberedSeatEvent (kind : LifecycleEventKind) (stakeAmount : UInt64) (i : ℕ) : LifecycleEvent where
  kind := kind
  eventID := "event"
  causalTS := 1
  seatID := String.ofList [Char.ofNat (65 + i)]
  operatorKey := String.ofList ['k', Char.ofNat (65 + i)]
  stakeAmount := stakeAmount
  isGenesis := true

/-- A number of seats on probation, all of weight ten. -/
def seatsOnProbation (n : ℕ) : Reducer :=
  Reducer.applyAll (fun _ => []) ((List.range n).flatMap fun i =>
    [numberedSeatEvent .join 20 i, numberedSeatEvent .reinstate 20 i]) {}

/-- A node with the default configuration, bound to the validator set of the reducer and its committees. -/
def committeeNode : VotingRound where
  config := { supermajorityThreshold := .exact (667 / 1000), maxRounds := 10, minParticipants := 3 }
  validatorSet := some (snapshotSource r.snapshot r.snapshot.participatingSeats)
  committeeSource := some fun eventID => some (r.selectForRound sha256 eventID)

/-- Every member of the committee of an event votes yes. -/
def committeeBallots : List Ballot :=
  (sortSlice (r.selectForRound sha256 eventID).keys.val).map fun key => { voter := key, verdict := true, value := 1 }

theorem voters_committeeBallots :
    (committeeBallots sha256 r eventID).map Ballot.voter = sortSlice (r.selectForRound sha256 eventID).keys.val := by
  rw [committeeBallots, List.map_map]
  exact List.map_id _

theorem mem_voters_committeeBallots (key : AgentID) : key ∈ (committeeBallots sha256 r eventID).map Ballot.voter ↔
      (r.selectForRound sha256 eventID).getD key false = true := by
  rw [voters_committeeBallots, ← Multiset.mem_coe, coe_sortSlice, Finset.mem_val, mem_keys, getD]
  cases hlookup : (r.selectForRound sha256 eventID).lookup key with
  | none => simp [lookup_eq_none.mp hlookup]
  | some member =>
    obtain ⟨p, hp, rfl⟩ := exists_mem_of_lookup_ofInserts hlookup
    obtain ⟨seatID, -, hseat⟩ := List.mem_filterMap.mp hp
    obtain ⟨seat, -, rfl⟩ := Option.map_eq_some_iff.mp hseat
    exact iff_of_true (mem_of_lookup_eq_some hlookup) rfl

theorem committee_of_three_finalizes :
    ((committeeNode id (seatsOnProbation 3)).registerAll "e"
      (committeeBallots id (seatsOnProbation 3) "e")).outcome "e" = some true := by
  have hvisits : (seatsOnProbation 3).seats.Visits (seatsOnProbation 3).snapshot.participatingSeats := by
    unfold Visits
    decide +kernel
  have hnodup : ((committeeBallots id (seatsOnProbation 3) "e").map Ballot.voter).Nodup := by
    rw [voters_committeeBallots, ← Multiset.coe_nodup, coe_sortSlice]
    exact Finset.nodup _
  have hthreshold : (committeeNode id (seatsOnProbation 3)).config.supermajorityThreshold = .exact (667 / 1000) := rfl
  obtain ⟨hfinalizes, hweight⟩ := committee_finalizes_iff id hvisits (by decide +kernel) hthreshold
    (by norm_num) rfl rfl
    notMem_empty (fun b hb => by obtain ⟨key, -, rfl⟩ := List.mem_map.mp hb; rfl) hnodup
    (mem_voters_committeeBallots id (seatsOnProbation 3) "e")
  refine hfinalizes.mpr ⟨by decide, (hweight (by decide +kernel)).mpr ?_⟩
  decide +kernel

/-- Of 32 equal seats 21 are selected, and their votes do not reach the threshold. Of three seats of which one has lost
    its stake the two others bring the whole weight, and are too few. -/
theorem committee_cannot_finalize :
    let many := seatsOnProbation 32
    let few := Reducer.applyAll (fun _ => []) [numberedSeatEvent .stakeUpdate 0 2] (seatsOnProbation 3)
    many.snapshot.totalActiveWeight = 320 ∧ (committeeBallots id many "e").length = 21 ∧
    ((committeeNode id many).registerAll "e" (committeeBallots id many "e")).outcome "e" = none ∧
    few.snapshot.totalActiveWeight = 20 ∧ (committeeBallots id few "e").length = 3 ∧
    ((committeeNode id few).registerAll "e" (committeeBallots id few "e")).outcome "e" = none := by
  decide +kernel

end Sample

end VotingRound

end aethernet.consensus
