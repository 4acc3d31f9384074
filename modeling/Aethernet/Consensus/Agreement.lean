import Aethernet.Consensus.Tally
import Aethernet.Quorum.Weighted
import Aethernet.ValidatorLifecycle.Snapshot

open golang aethernet event validatorlifecycle transition consensus.Ballot

namespace aethernet.consensus

/-- The snapshot as the `ValidatorSetSource` of a voting round; `order` is the order in which the loop of
    `VoteWeightByKey` visits the seats. -/
def snapshotSource (vs : ValidatorSnapshot) (order : List ValidatorSeat) : ValidatorSetSource where
  voteWeightByKey := vs.voteWeightByKey order
  setVersion := vs.version
  activeWeight := vs.totalActiveWeight

/-- No two seats have the same operator key. -/
def DistinctKeys (vs : ValidatorSnapshot) : Prop :=
  ∀ id id' seat seat', vs.seats.lookup id = some seat → vs.seats.lookup id' = some seat' →
    seat.operatorKey = seat'.operatorKey → id = id'

section Source

variable {vs : ValidatorSnapshot} {order order' : List ValidatorSeat}

theorem voteWeightByKey_eq_of_visits (hkeys : DistinctKeys vs) (h : vs.seats.Visits order)
    (h' : vs.seats.Visits order') (operatorKey : PublicKey) :
    vs.voteWeightByKey order operatorKey = vs.voteWeightByKey order' operatorKey := by
  unfold ValidatorSnapshot.voteWeightByKey
  congr 1
  refine h.find?_eq h' fun id id' seat seat' hlookup hlookup' hkey hkey' => ?_
  exact hkeys id id' seat seat' hlookup hlookup' ((of_decide_eq_true hkey).trans (of_decide_eq_true hkey').symm)

theorem snapshotSource_eq_of_visits (hkeys : DistinctKeys vs) (h : vs.seats.Visits order)
    (h' : vs.seats.Visits order') : snapshotSource vs order = snapshotSource vs order' := by
  have hweights : vs.voteWeightByKey order = vs.voteWeightByKey order' :=
    funext (voteWeightByKey_eq_of_visits hkeys h h')
  rw [snapshotSource, snapshotSource, hweights]

def ValidatorSetSource.Bounded (src : ValidatorSetSource) : Prop :=
  ∀ voters : List AgentID, voters.Nodup →
    (voters.map fun voter => (src.weightOf voter).toNat).sum ≤ src.activeWeight.toNat

theorem snapshotSource_bounded (h : vs.seats.Visits order)
    (hactive : vs.totalActiveWeight.toNat = vs.seats.sumBy vs.voteWeight) :
    (snapshotSource vs order).Bounded := by
  intro voters hnodup
  have hweight : (fun voter => ((snapshotSource vs order).weightOf voter).toNat) =
      quorum.keyedWeight ValidatorSeat.operatorKey vs.voteWeight order := by
    funext voter
    simp only [ValidatorSetSource.weightOf, snapshotSource, ValidatorSnapshot.voteWeightByKey,
      quorum.keyedWeight]
    cases order.find? fun seat => seat.operatorKey = voter <;> rfl
  rw [hweight, snapshotSource, hactive, ← h.sum_map]
  exact quorum.sum_keyedWeight_le _ _ order hnodup

end Source

section Decisions

open Ballot

variable {src : ValidatorSetSource} {config : ConsensusConfig} {θ : ℚ} {l p q : List Ballot}

def yesOf (src : ValidatorSetSource) (l : List Ballot) : ℕ :=
  (l.map fun b => if b.verdict then (src.weightOf b.voter).toNat else 0).sum

def noOf (src : ValidatorSetSource) (l : List Ballot) : ℕ :=
  (l.map fun b => if b.verdict then 0 else (src.weightOf b.voter).toNat).sum

variable (hbounded : src.Bounded)

include hbounded

theorem yesOf_add_noOf_le (hnodup : (l.map voter).Nodup) : yesOf src l + noOf src l ≤ src.activeWeight.toNat := by
  have hsum : yesOf src l + noOf src l = ((l.map voter).map fun voter =>
      (src.weightOf voter).toNat).sum := by
    rw [yesOf, noOf, ← List.sum_map_add, List.map_map]
    congr 1
    refine List.map_congr_left fun b _ => ?_
    cases b.verdict <;> simp
  rw [hsum]
  exact hbounded _ hnodup

theorem toNat_tallyOf (hnodup : (l.map voter).Nodup) :
    (tallyOf src l).yesWeight.toNat = yesOf src l ∧ (tallyOf src l).noWeight.toNat = noOf src l := by
  have hle := yesOf_add_noOf_le hbounded hnodup
  have hlt := src.activeWeight.toNat_lt
  have hyes : (fun b : Ballot => (if b.verdict then src.weightOf b.voter else 0).toNat) =
      fun b => if b.verdict then (src.weightOf b.voter).toNat else 0 := by
    funext b
    cases b.verdict <;> rfl
  have hno : (fun b : Ballot => (if b.verdict then 0 else src.weightOf b.voter).toNat) =
      fun b => if b.verdict then 0 else (src.weightOf b.voter).toNat := by
    funext b
    cases b.verdict <;> rfl
  refine ⟨?_, ?_⟩
  · rw [tallyOf, yesOf, ← hyes]
    refine toNat_sum_map_of_lt l _ ?_
    rw [hyes]
    exact lt_of_le_of_lt (le_trans (Nat.le_add_right _ _) hle) hlt
  · rw [tallyOf, noOf, ← hno]
    refine toNat_sum_map_of_lt l _ ?_
    rw [hno]
    exact lt_of_le_of_lt (le_trans (Nat.le_add_left _ _) hle) hlt

theorem decisionOf_exact (hpos : 0 < src.activeWeight)
    (hθ : config.supermajorityThreshold = .exact θ) (hnodup : (l.map voter).Nodup) :
    decisionOf config src l =
      if config.minParticipants ≤ l.length then
        if θ ≤ (yesOf src l : ℚ) / src.activeWeight.toNat then some true
        else if 1 - θ < (noOf src l : ℚ) / src.activeWeight.toNat then some false
        else none
      else none := by
  obtain ⟨hyes, hno⟩ := toNat_tallyOf hbounded hnodup
  have hne : src.activeWeight ≠ 0 := UInt64.pos_iff_ne_zero.mp hpos
  simp [decisionOf, VotingRound.decide, if_neg hne, hpos, hθ, Threshold.exact, hyes, hno]

theorem decisionOf_ne_none_of_subperm (hpos : 0 < src.activeWeight)
    (hθ : config.supermajorityThreshold = .exact θ) (hnodup : (q.map voter).Nodup)
    (hsub : p.Subperm q) (hp : decisionOf config src p ≠ none) : decisionOf config src q ≠ none := by
  have hnodup' : (p.map voter).Nodup := quorum.nodup_map_of_subperm hsub hnodup
  have htotal : (0 : ℚ) < src.activeWeight.toNat := by exact_mod_cast UInt64.lt_iff_toNat_lt.mp hpos
  have hyes : (yesOf src p : ℚ) / src.activeWeight.toNat ≤ (yesOf src q : ℚ) / src.activeWeight.toNat :=
    div_le_div_of_nonneg_right (by exact_mod_cast quorum.sum_map_le_of_subperm hsub _) htotal.le
  have hno : (noOf src p : ℚ) / src.activeWeight.toNat ≤ (noOf src q : ℚ) / src.activeWeight.toNat :=
    div_le_div_of_nonneg_right (by exact_mod_cast quorum.sum_map_le_of_subperm hsub _) htotal.le
  have hlength : (p.length : ℤ) ≤ q.length := by exact_mod_cast hsub.length_le
  rw [decisionOf_exact hbounded hpos hθ hnodup'] at hp
  rw [decisionOf_exact hbounded hpos hθ hnodup]
  split_ifs at hp with hmin hreached hblocked
  · rw [if_pos (hmin.trans hlength), if_pos (hreached.trans hyes)]
    exact Option.some_ne_none _
  · rw [if_pos (hmin.trans hlength), if_pos (hblocked.trans_le hno)]
    split_ifs <;> exact Option.some_ne_none _
  · exact absurd rfl hp
  · exact absurd rfl hp

theorem decisionOf_eq_of_subperm (hpos : 0 < src.activeWeight)
    (hθ : config.supermajorityThreshold = .exact θ) (hnodup : (l.map voter).Nodup)
    (hp : p.Subperm l) (hq : q.Subperm l) {d d' : Bool} (hdecides : decisionOf config src p = some d)
    (hdecides' : decisionOf config src q = some d') : d = d' := by
  -- an approving and a rejecting part would hold more than the active weight
  have hexclude : ∀ p q : List Ballot, p.Subperm l → q.Subperm l →
      decisionOf config src p = some true → decisionOf config src q = some false → False := by
    intro p q hp hq hyes hno
    rw [decisionOf_exact hbounded hpos hθ (quorum.nodup_map_of_subperm hp hnodup)] at hyes
    rw [decisionOf_exact hbounded hpos hθ (quorum.nodup_map_of_subperm hq hnodup)] at hno
    have hreached : θ ≤ (yesOf src p : ℚ) / src.activeWeight.toNat := by
      by_contra hnot
      split_ifs at hyes
      cases hyes
    have hblocked : 1 - θ < (noOf src q : ℚ) / src.activeWeight.toNat := by
      by_contra hnot
      split_ifs at hno
      cases hno
    have hle := yesOf_add_noOf_le hbounded hnodup
    have hyesle : yesOf src p ≤ yesOf src l := quorum.sum_map_le_of_subperm hp _
    have hnole : noOf src q ≤ noOf src l := quorum.sum_map_le_of_subperm hq _
    exact quorum.not_reached_and_blocked (UInt64.lt_iff_toNat_lt.mp hpos) (by omega) hreached hblocked
  cases d <;> cases d'
  · rfl
  · exact (hexclude q p hq hp hdecides' hdecides).elim
  · exact (hexclude p q hp hq hdecides hdecides').elim
  · rfl

end Decisions

variable {eventID : EventID} {vr : VotingRound}

namespace VotingRound

/-- A list of votes fed to `RegisterVote` one by one; refusals are ignored. -/
def registerAll (eventID : EventID) (ballots : List Ballot) (vr : VotingRound) : VotingRound :=
  ballots.foldl (fun vr b => (vr.registerVote eventID b.voter b.verdict b.value).2) vr

theorem registerVote_of_not_eligible {b : Ballot} (hnot : ¬ vr.Eligible eventID b.voter) :
    (vr.registerVote eventID b.voter b.verdict b.value).2 = vr := by
  unfold registerVote
  cases hweight : vr.computeWeight b.voter with
  | error err => rfl
  | ok w =>
    cases hcommittee : vr.inCommittee eventID b.voter with
    | false => rfl
    | true => exact absurd ⟨⟨w, hweight⟩, hcommittee⟩ hnot

theorem registerAll_filter {ballots : List Ballot} {p : Ballot → Bool}
    (heligible : ∀ b ∈ ballots, p b = true ↔ vr.Eligible eventID b.voter) :
    vr.registerAll eventID ballots = vr.registerAll eventID (ballots.filter p) := by
  induction ballots generalizing vr with
  | nil => rfl
  | cons b ballots ih =>
    have hrest : ∀ b' ∈ ballots, p b' = true ↔ vr.Eligible eventID b'.voter :=
      fun b' hb' => heligible b' (List.mem_cons_of_mem b hb')
    cases hp : p b with
    | false =>
      have hnot : ¬ vr.Eligible eventID b.voter := by
        rw [← heligible b List.mem_cons_self, hp]
        simp
      rw [List.filter_cons_of_neg (by simp [hp]), ← ih hrest, registerAll, List.foldl_cons,
        registerVote_of_not_eligible hnot]
      rfl
    | true =>
      rw [List.filter_cons_of_pos hp]
      refine ih fun b' hb' => (hrest b' hb').trans (SameSetup.eligible ?_ eventID b'.voter).symm
      exact sameSetup_registerVote eventID b vr

/-- The final verdict on an event, none while it is not finalized. -/
def outcome (vr : VotingRound) (eventID : EventID) : Option Bool :=
  match vr.records.lookup eventID with
  | none => none
  | some record => if record.finalized then some record.finalVerdict else none

theorem outcome_eq (vr : VotingRound) (eventID : EventID) :
    vr.outcome eventID =
      if (vr.recordOf eventID).finalized then some (vr.recordOf eventID).finalVerdict else none := by
  rw [outcome, recordOf]
  cases vr.records.lookup eventID <;> rfl

theorem recordOf_registerAll_of_closed
    (hclosed : (vr.recordOf eventID).finalized = true ∨ vr.config.maxRounds < (vr.recordOf eventID).round)
    (ballots : List Ballot) : (vr.registerAll eventID ballots).recordOf eventID = vr.recordOf eventID := by
  induction ballots generalizing vr with
  | nil => rfl
  | cons b ballots ih =>
    have hnot : ¬ vr.Accepts eventID b.voter := by
      rintro ⟨-, hopen, hrounds, -⟩
      rcases hclosed with hfinal | hlate
      · rw [hfinal] at hopen
        cases hopen
      · exact UInt64.not_lt.mpr hrounds hlate
    have hstep := recordOf_registerVote_of_not_accepts hnot
    have hsetup := sameSetup_registerVote eventID b vr
    rw [← hstep, ← hsetup.config] at hclosed
    exact (ih hclosed).trans hstep

variable {src : ValidatorSetSource}

theorem Holds.outcome_of_finalized {l : List Ballot} (h : Holds src eventID vr l)
    (hfinal : (vr.recordOf eventID).finalized = true) (ballots : List Ballot) :
    Outcome (decisionOf vr.config src) (l ++ ballots)
      ((vr.registerAll eventID ballots).outcome eventID) := by
  rw [outcome_eq, recordOf_registerAll_of_closed (.inl hfinal), if_pos hfinal]
  rcases h.tracks.status with ⟨hopen, -⟩ | ⟨-, hfirst, -⟩
  · rw [hfinal] at hopen
    cases hopen
  · exact .inr ⟨l, _, rfl, List.prefix_append l ballots, hfirst⟩

theorem Holds.outcome_registerAll {l ballots : List Ballot} (h : Holds src eventID vr l)
    (hrounds : 1 ≤ vr.config.maxRounds) (hnodup : ((l ++ ballots).map voter).Nodup)
    (heligible : ∀ b ∈ ballots, vr.Eligible eventID b.voter) :
    Outcome (decisionOf vr.config src) (l ++ ballots)
      ((vr.registerAll eventID ballots).outcome eventID) := by
  induction ballots generalizing vr l with
  | nil =>
    rcases h.tracks.status with ⟨hopen, hundecided⟩ | ⟨hfinal, -⟩
    · refine .inl ⟨?_, by rwa [List.append_nil]⟩
      rw [registerAll, List.foldl_nil, outcome_eq, hopen]
      rfl
    · exact h.outcome_of_finalized hfinal []
  | cons b ballots ih =>
    obtain ⟨hsetup, ⟨hnot, -⟩ | ⟨-, hholds⟩⟩ := h.registerVote b
    · -- the voter is eligible and new, so only a finalized record refuses
      refine h.outcome_of_finalized ?_ (b :: ballots)
      by_contra hopen
      refine hnot ⟨heligible b List.mem_cons_self, by simpa using hopen, ?_, ?_⟩
      · rwa [h.tracks.round]
      · rw [h.tracks.votes, mem_votesOf]
        rw [List.map_append, List.nodup_append] at hnodup
        exact fun hmem => hnodup.2.2 _ hmem _ (by simp) rfl
    · have hsplit : l ++ b :: ballots = (l ++ [b]) ++ ballots := by simp
      rw [hsplit] at hnodup ⊢
      rw [← hsetup.config] at hrounds ⊢
      exact ih hholds hrounds hnodup fun b' hb' =>
        (hsetup.eligible eventID b'.voter).mpr (heligible b' (List.mem_cons_of_mem b hb'))

theorem Holds.outcome_of_no_rounds (h : Holds src eventID vr [])
    (hrounds : vr.config.maxRounds < 1) (ballots : List Ballot) :
    (vr.registerAll eventID ballots).outcome eventID = none := by
  have hopen : (vr.recordOf eventID).finalized = false := by
    rcases h.tracks.status with ⟨hopen, -⟩ | ⟨-, hfirst, -⟩
    · exact hopen
    · exact absurd rfl hfirst.ne_nil
  rw [← h.tracks.round] at hrounds
  rw [outcome_eq, recordOf_registerAll_of_closed (.inr hrounds), hopen]
  rfl

/-- Verdict agreement. Two nodes are bound to the same snapshot, in which operator keys are distinct and
    the active weight is the positive sum of the seats' vote weights, and have no votes on the event yet;
    they compare weight ratios with the same rational threshold. Whatever the order in which the votes
    of distinct eligible voters arrive at each of them, either both leave the event open or both finalize
    it with the same verdict. -/
theorem outcome_registerAll_eq {vs : ValidatorSnapshot} {order₁ order₂ : List ValidatorSeat}
    (hvisits₁ : vs.seats.Visits order₁) (hvisits₂ : vs.seats.Visits order₂) (hkeys : DistinctKeys vs)
    (hactive : vs.totalActiveWeight.toNat = vs.seats.sumBy vs.voteWeight) (hpos : 0 < vs.totalActiveWeight)
    {node₁ node₂ : VotingRound} {eventID : EventID} {θ : ℚ}
    (hθ : node₁.config.supermajorityThreshold = .exact θ) (hconfig : node₂.config = node₁.config)
    (hset₁ : node₁.validatorSet = some (snapshotSource vs order₁))
    (hset₂ : node₂.validatorSet = some (snapshotSource vs order₂))
    (hfresh₁ : eventID ∉ node₁.records) (hfresh₂ : eventID ∉ node₂.records)
    {ballots₁ ballots₂ : List Ballot} (hperm : ballots₁.Perm ballots₂)
    (hvoters : (ballots₁.map voter).Nodup)
    (heligible₁ : ∀ b ∈ ballots₁, node₁.Eligible eventID b.voter)
    (heligible₂ : ∀ b ∈ ballots₂, node₂.Eligible eventID b.voter) :
    (node₁.registerAll eventID ballots₁).outcome eventID =
      (node₂.registerAll eventID ballots₂).outcome eventID := by
  rw [← snapshotSource_eq_of_visits hkeys hvisits₁ hvisits₂] at hset₂
  have hbounded := snapshotSource_bounded hvisits₁ hactive
  have hholds₁ := Holds.fresh hset₁ hfresh₁
  have hholds₂ := Holds.fresh hset₂ hfresh₂
  by_cases hrounds : 1 ≤ node₁.config.maxRounds
  · have houtcome₁ := hholds₁.outcome_registerAll hrounds hvoters heligible₁
    have houtcome₂ := hholds₂.outcome_registerAll (hconfig.symm ▸ hrounds)
      ((hperm.map voter).nodup_iff.mp hvoters) heligible₂
    rw [hconfig] at houtcome₂
    refine Outcome.agree hperm houtcome₁ houtcome₂ ?_ ?_
    · intro p q hpq hq
      exact decisionOf_ne_none_of_subperm hbounded hpos hθ (quorum.nodup_map_of_subperm hq hvoters) hpq
    · intro p q d d' hp hq
      exact decisionOf_eq_of_subperm hbounded hpos hθ hvoters hp hq
  · have hrounds := UInt64.not_le.mp hrounds
    rw [hholds₁.outcome_of_no_rounds hrounds ballots₁,
      hholds₂.outcome_of_no_rounds (hconfig.symm ▸ hrounds) ballots₂]

def sampleSeat (id : ValidatorID) (operatorKey : PublicKey) : ValidatorSeat where
  id := id
  status := .active
  operatorKey := operatorKey
  keyHistory := []
  stakeAmount := 10
  joinEventID := ""
  joinCausalTS := 0
  isGenesis := true
  weight := 10
  effectiveFromVersion := 1

def sampleSnapshot : ValidatorSnapshot :=
  Reducer.snapshot
    { seats := (((∅ : Map ValidatorID ValidatorSeat).insert "a" (sampleSeat "a" "ka")).insert "b"
        (sampleSeat "b" "kb")).insert "c" (sampleSeat "c" "kc")
      version := 1 }

def sampleOrder : List ValidatorSeat := [sampleSeat "c" "kc", sampleSeat "b" "kb", sampleSeat "a" "ka"]

theorem sampleOrder_visits : sampleSnapshot.seats.Visits sampleOrder :=
  ((Finmap.Visits.empty.insert (sampleSeat "a" "ka") (k := "a") Finmap.notMem_empty).insert
    (sampleSeat "b" "kb") (k := "b") (by decide)).insert (sampleSeat "c" "kc") (k := "c") (by decide)

theorem sampleSnapshot_distinctKeys : DistinctKeys sampleSnapshot := by
  intro id id' seat seat' hid hid' hkey
  have hseats : ∀ id seat, sampleSnapshot.seats.lookup id = some seat →
      (id, seat.operatorKey) ∈ [("a", "ka"), ("b", "kb"), ("c", "kc")] := by
    intro id seat hid
    simp only [sampleSnapshot, Reducer.snapshot, Finmap.lookup_insert_eq] at hid
    split_ifs at hid with hc hb ha
    · cases hid; subst hc; decide
    · cases hid; subst hb; decide
    · cases hid; subst ha; decide
    · simp at hid
  have h := hseats id seat hid
  have h' := hseats id' seat' hid'
  rw [hkey] at h
  simp only [List.mem_cons, Prod.mk.injEq, List.not_mem_nil, or_false] at h h'
  rcases h with ⟨rfl, h⟩ | ⟨rfl, h⟩ | ⟨rfl, h⟩ <;> rcases h' with ⟨rfl, h'⟩ | ⟨rfl, h'⟩ | ⟨rfl, h'⟩ <;>
    first | rfl | exact absurd (h.symm.trans h') (by decide)

def sampleNode : VotingRound where
  config := { supermajorityThreshold := .exact (2 / 3), maxRounds := 10, minParticipants := 2 }
  validatorSet := some (snapshotSource sampleSnapshot sampleOrder)

/-- Two approvals and a rejection, in two orders. -/
theorem outcome_registerAll_eq_threeVotes :
    (sampleNode.registerAll "e" [⟨"ka", true, 5⟩, ⟨"kb", true, 6⟩, ⟨"kc", false, 0⟩]).outcome "e" =
      (sampleNode.registerAll "e" [⟨"kc", false, 0⟩, ⟨"kb", true, 6⟩, ⟨"ka", true, 5⟩]).outcome "e" := by
  have heligible : ∀ voter ∈ ["ka", "kb", "kc"], sampleNode.Eligible "e" voter := by
    intro voter hvoter
    simp only [List.mem_cons, List.not_mem_nil, or_false] at hvoter
    rcases hvoter with rfl | rfl | rfl <;> exact ⟨⟨10, rfl⟩, rfl⟩
  refine outcome_registerAll_eq sampleOrder_visits sampleOrder_visits sampleSnapshot_distinctKeys rfl
    (by decide) rfl rfl rfl rfl (by decide) (by decide) (List.reverse_perm _).symm (by decide) ?_ ?_ <;>
  · intro b hb
    simp only [List.mem_cons, List.not_mem_nil, or_false] at hb
    rcases hb with rfl | rfl | rfl <;> exact heligible _ (by decide)

end VotingRound

end aethernet.consensus
