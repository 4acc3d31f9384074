import Aethernet.Consensus.Voting
import Aethernet.Transition.FirstDecision

open golang aethernet.event transition Finmap

namespace aethernet.consensus

/-- A vote as `RegisterVote` gets it. -/
structure Ballot where
  voter : AgentID
  verdict : Bool
  value : UInt64

variable (src : ValidatorSetSource) (voter : AgentID)

/-- The weight a snapshot gives a voter, zero when it gives none. -/
def ValidatorSetSource.weightOf : UInt64 :=
  (src.voteWeightByKey voter).getD 0

def ValidatorSetSource.medianWeight : UInt64 :=
  if src.weightOf voter = 0 then 1 else src.weightOf voter

variable (l : List Ballot) (b : Ballot)

namespace Ballot

/-- The votes map after these ballots. -/
def votesOf : Map AgentID Bool := l.foldl (fun m b => m.insert b.voter b.verdict) ∅

def valuesOf : Map AgentID UInt64 := l.foldl (fun m b => m.insert b.voter b.value) ∅

/-- The weights of these ballots under a snapshot. -/
def tallyOf : VotingRound.Tally where
  totalWeight := (l.map fun b => src.weightOf b.voter).sum
  yesWeight := (l.map fun b => if b.verdict then src.weightOf b.voter else 0).sum
  noWeight := (l.map fun b => if b.verdict then 0 else src.weightOf b.voter).sum

def decisionOf (config : ConsensusConfig) (src : ValidatorSetSource) (l : List Ballot) : Option Bool :=
  VotingRound.decide config src.activeWeight l.length (tallyOf src l)

def entriesOf : List (UInt64 ×ₗ UInt64) :=
  (l.filter (·.verdict)).map fun b => toLex (b.value, src.medianWeight b.voter)

def medianOf : UInt64 :=
  let entries := sortSlice (entriesOf src l : Multiset (UInt64 ×ₗ UInt64))
  VotingRound.pickMedian ((entries.map fun e => (ofLex e).2).sum / 2) 0 0 entries

section Maps

theorem votesOf_append : votesOf (l ++ [b]) = (votesOf l).insert b.voter b.verdict := by
  simp [votesOf, List.foldl_append]

theorem valuesOf_append : valuesOf (l ++ [b]) = (valuesOf l).insert b.voter b.value := by
  simp [valuesOf, List.foldl_append]

theorem votesOf_eq : votesOf l = ofInserts (l.map fun b => (b.voter, b.verdict)) := by
  rw [ofInserts, List.foldl_map, votesOf]

theorem mem_votesOf (voter : AgentID) : voter ∈ votesOf l ↔ voter ∈ l.map Ballot.voter := by
  rw [votesOf_eq, mem_ofInserts, List.map_map]
  rfl

theorem nodup_append_iff {l : List Ballot} {b : Ballot} :
    ((l ++ [b]).map Ballot.voter).Nodup ↔ (l.map Ballot.voter).Nodup ∧ b.voter ∉ l.map Ballot.voter := by
  rw [List.map_append, List.map_singleton, List.nodup_append_comm]
  simp [and_comm]

variable {l} (hnodup : (l.map Ballot.voter).Nodup)
include hnodup

theorem entries_votesOf :
    (votesOf l).entries = (l.map fun b => ⟨b.voter, b.verdict⟩ : List (Sigma fun _ : AgentID => Bool)) := by
  rw [votesOf_eq, entries_ofInserts (by rwa [List.map_map]), List.map_map]
  rfl

theorem len_votesOf : (votesOf l).len = l.length := by
  rw [len, entries_votesOf hnodup, Multiset.coe_card, List.length_map]

theorem sumOver_votesOf {M : Type} [AddCommMonoid M] (f : AgentID → Bool → M) :
    (votesOf l).sumOver f = (l.map fun b => f b.voter b.verdict).sum := by
  rw [sumOver, entries_votesOf hnodup, Multiset.map_coe, Multiset.sum_coe, List.map_map]
  rfl

theorem collect_votesOf {A : Type} (f : AgentID → Bool → Option A) :
    (votesOf l).collect f = (l.filterMap fun b => f b.voter b.verdict : List A) := by
  rw [collect, entries_votesOf hnodup, Multiset.filterMap_coe, List.filterMap_map]
  rfl

theorem getD_valuesOf {b : Ballot} (hb : b ∈ l) : (valuesOf l).getD b.voter 0 = b.value := by
  have hvalues : valuesOf l = ofInserts (l.map fun b => (b.voter, b.value)) := by
    rw [ofInserts, List.foldl_map, valuesOf]
  have hlookup := (lookup_ofInserts_iff (by rwa [List.map_map])).mpr
    (List.mem_map_of_mem (f := fun b : Ballot => (b.voter, b.value)) hb)
  rw [getD, hvalues, hlookup, Option.getD_some]

end Maps

end Ballot

open Ballot

/-- The record holds exactly these ballots, in this order of arrival: either none of the prefixes
    decides and the record is open, or the last ballot brought the decision the record keeps. -/
structure VoteRecord.Tracks (config : ConsensusConfig) (src : ValidatorSetSource) (record : VoteRecord)
    (l : List Ballot) : Prop where
  bound : record.boundSnapshot = some src
  activeWeight : record.totalActiveWeight = src.activeWeight
  round : record.round = 1
  nodup : (l.map Ballot.voter).Nodup
  votes : record.votes = votesOf l
  values : record.verifiedValues = valuesOf l
  status : (record.finalized = false ∧ Undecided (decisionOf config src) l) ∨
    (record.finalized = true ∧ FirstDecides (decisionOf config src) l record.finalVerdict ∧
      record.finalVerifiedValue = if record.finalVerdict then medianOf src l else 0)

variable {record : VoteRecord} (vr : VotingRound) (eventID : EventID)

namespace VotingRound

variable {src : ValidatorSetSource} {l : List Ballot} {b : Ballot}

theorem tally_eq_tallyOf {vr : VotingRound}
    (hbound : record.boundSnapshot = some src) (hnodup : (l.map Ballot.voter).Nodup)
    (hvotes : record.votes = votesOf l) : vr.tally record = tallyOf src l := by
  have hweight : ∀ voter, ((vr.computeWeightForRecord record voter).toOption).getD 0 =
      src.weightOf voter := by
    intro voter
    rw [computeWeightForRecord, hbound, ValidatorSetSource.weightOf]
    simp only [weightFromSnapshot]
    cases src.voteWeightByKey voter <;> rfl
  simp [tally, hweight, hvotes, sumOver_votesOf hnodup, tallyOf]

theorem computeWeightedMedian_eq_medianOf
    (hbound : record.boundSnapshot = some src) (hnodup : (l.map Ballot.voter).Nodup)
    (hvotes : record.votes = votesOf l) (hvalues : record.verifiedValues = valuesOf l) :
    computeWeightedMedian record = medianOf src l := by
  have hentries : (record.votes.collect fun voterID approved =>
      if approved then some (weightedValue record voterID) else none) = (entriesOf src l : Multiset _) := by
    rw [hvotes, collect_votesOf hnodup, entriesOf, ← List.filterMap_eq_map, ← List.filterMap_eq_filter,
      List.filterMap_filterMap]
    congr 1
    refine List.filterMap_congr fun b hb => ?_
    have hvalue : record.verifiedValues.getD b.voter 0 = b.value := hvalues ▸ getD_valuesOf hnodup hb
    cases hverdict : b.verdict with
    | false => simp [Option.guard, hverdict]
    | true =>
      simp only [weightedValue, hbound, hvalue, Option.bind_some, if_true]
      simp only [Option.guard, hverdict, if_true, Option.bind_some, Function.comp_apply,
        ValidatorSetSource.medianWeight, ValidatorSetSource.weightOf]
      rfl
  rw [computeWeightedMedian, hentries]
  rfl

theorem tracks_tallyVotesLocked {vr : VotingRound}
    (hbound : record.boundSnapshot = some src) (hactive : record.totalActiveWeight = src.activeWeight)
    (hround : record.round = 1) (hrounds : record.round ≤ vr.config.maxRounds) (hopen : record.finalized = false)
    (hnodup : ((l ++ [b]).map Ballot.voter).Nodup) (hvotes : record.votes = votesOf (l ++ [b]))
    (hvalues : record.verifiedValues = valuesOf (l ++ [b])) (hundecided : Undecided (decisionOf vr.config src) l) :
    (tallyVotesLocked false record vr).1.Tracks vr.config src (l ++ [b]) := by
  have htally : vr.tally record = tallyOf src (l ++ [b]) := tally_eq_tallyOf hbound hnodup hvotes
  have hdecide : decide vr.config record.totalActiveWeight record.votes.len (tallyOf src (l ++ [b])) =
      decisionOf vr.config src (l ++ [b]) := by
    rw [decisionOf, hactive, hvotes, len_votesOf hnodup]
  simp only [tallyVotesLocked, hopen, Bool.false_eq_true, if_false, UInt64.not_lt.mpr hrounds, htally,
    hdecide]
  cases hdecision : decisionOf vr.config src (l ++ [b]) with
  | none => exact ⟨hbound, hactive, hround, hnodup, hvotes, hvalues,
      .inl ⟨rfl, hundecided.append hdecision⟩⟩
  | some verdict =>
    refine ⟨hbound, hactive, hround, hnodup, hvotes, hvalues,
      .inr ⟨rfl, ⟨l, b, rfl, hundecided, hdecision⟩, ?_⟩⟩
    cases verdict with
    | false => rfl
    | true => exact computeWeightedMedian_eq_medianOf hbound hnodup hvotes hvalues

/-- What votes do not change in a round. -/
structure SameSetup (vr vr' : VotingRound) : Prop where
  config : vr'.config = vr.config
  registry : vr'.registry = vr.registry
  validatorSet : vr'.validatorSet = vr.validatorSet
  committeeSource : vr'.committeeSource = vr.committeeSource

theorem SameSetup.refl : SameSetup vr vr := ⟨rfl, rfl, rfl, rfl⟩

theorem SameSetup.trans {vr vr' vr'' : VotingRound} (h : SameSetup vr vr') (h' : SameSetup vr' vr'') :
    SameSetup vr vr'' :=
  ⟨h'.config.trans h.config, h'.registry.trans h.registry, h'.validatorSet.trans h.validatorSet,
    h'.committeeSource.trans h.committeeSource⟩

theorem SameSetup.newRecord {vr vr' : VotingRound} (h : SameSetup vr vr') (eventID : EventID) :
    vr'.newRecord eventID = vr.newRecord eventID := by
  rw [VotingRound.newRecord, VotingRound.newRecord, h.validatorSet]

theorem sameSetup_tallyVotesLocked (advanceRound : Bool) (record : VoteRecord) (vr : VotingRound) :
    SameSetup vr (tallyVotesLocked advanceRound record vr).2 ∧
    (tallyVotesLocked advanceRound record vr).2.records = vr.records := by
  unfold tallyVotesLocked
  split
  · exact ⟨.refl vr, rfl⟩
  split
  · exact ⟨.refl vr, rfl⟩
  dsimp only
  split <;> exact ⟨⟨rfl, rfl, rfl, rfl⟩, rfl⟩

/-- The voter has a weight and sits in the committee of the event. -/
def Eligible (voter : AgentID) : Prop :=
  (∃ w, vr.computeWeight voter = .ok w) ∧ vr.inCommittee eventID voter = true

theorem SameSetup.eligible {vr vr' : VotingRound} (h : SameSetup vr vr') (eventID : EventID)
    (voter : AgentID) : vr'.Eligible eventID voter ↔ vr.Eligible eventID voter := by
  simp [Eligible, computeWeight, computeWeightFromRegistry, inCommittee, h.validatorSet, h.registry, h.committeeSource]

/-- The checks of `RegisterVote`. -/
def Accepts (voter : AgentID) : Prop :=
  vr.Eligible eventID voter ∧ (vr.recordOf eventID).finalized = false ∧
    (vr.recordOf eventID).round ≤ vr.config.maxRounds ∧ voter ∉ (vr.recordOf eventID).votes

/-- The round in which `RegisterVote` tallies: the record is open and the vote is in the store. -/
def beforeTally (b : Ballot) (vr : VotingRound) : VotingRound :=
  putVote eventID b.voter b.verdict { vr with records := vr.records.insert eventID (vr.recordOf eventID) }

theorem sameSetup_beforeTally (b : Ballot) (vr : VotingRound) :
    SameSetup vr (vr.beforeTally eventID b) := ⟨rfl, rfl, rfl, rfl⟩

/-- `RegisterVote` refuses the vote, at most opening a record, or adds it and tallies. -/
theorem registerVote_cases (b : Ballot) (vr : VotingRound) :
    (¬ vr.Accepts eventID b.voter ∧ (∃ err, (vr.registerVote eventID b.voter b.verdict b.value).1 = .error err) ∧
      ((vr.registerVote eventID b.voter b.verdict b.value).2 = vr ∨
        (vr.registerVote eventID b.voter b.verdict b.value).2 =
          { vr with records := vr.records.insert eventID (vr.recordOf eventID) })) ∨
    (vr.Accepts eventID b.voter ∧ vr.registerVote eventID b.voter b.verdict b.value =
      (.ok (), tallyRecord false eventID (withVote (vr.recordOf eventID) b.voter b.verdict b.value)
        (vr.beforeTally eventID b))) := by
  unfold registerVote
  cases hweight : vr.computeWeight b.voter with
  | error err =>
    exact .inl ⟨fun h => by simpa [hweight] using h.1.1, ⟨_, rfl⟩, .inl rfl⟩
  | ok w =>
    cases hcommittee : vr.inCommittee eventID b.voter with
    | false => exact .inl ⟨fun h => by simpa [hcommittee] using h.1.2, ⟨_, rfl⟩, .inl rfl⟩
    | true =>
      cases hfinal : (vr.recordOf eventID).finalized with
      | true =>
        refine .inl ⟨fun h => by simpa [hfinal] using h.2.1, ?_⟩
        simp only [hfinal, Bool.not_true, Bool.false_eq_true, if_false, if_true]
        exact ⟨⟨_, rfl⟩, .inr trivial⟩
      | false =>
        by_cases hrounds : vr.config.maxRounds < (vr.recordOf eventID).round
        · refine .inl ⟨fun h => UInt64.not_lt.mpr h.2.2.1 hrounds, ?_⟩
          simp only [hfinal, Bool.not_true, Bool.false_eq_true, if_false, if_pos hrounds]
          exact ⟨⟨_, rfl⟩, .inr trivial⟩
        · by_cases hvoted : b.voter ∈ (vr.recordOf eventID).votes
          · refine .inl ⟨fun h => h.2.2.2 hvoted, ?_⟩
            simp only [hfinal, Bool.not_true, Bool.false_eq_true, if_false, if_neg hrounds, if_pos hvoted]
            exact ⟨⟨_, rfl⟩, .inr trivial⟩
          · refine .inr ⟨⟨⟨⟨w, hweight⟩, hcommittee⟩, hfinal, UInt64.not_lt.mp hrounds, hvoted⟩, ?_⟩
            simp [hfinal, if_neg hrounds, if_neg hvoted, beforeTally]

theorem sameSetup_registerVote (b : Ballot) (vr : VotingRound) :
    SameSetup vr (vr.registerVote eventID b.voter b.verdict b.value).2 := by
  obtain ⟨-, -, hsame | hopened⟩ | ⟨-, hregister⟩ := registerVote_cases eventID b vr
  · rw [hsame]
    exact .refl vr
  · rw [hopened]
    exact ⟨rfl, rfl, rfl, rfl⟩
  · rw [hregister, tallyRecord]
    have hafter := (sameSetup_tallyVotesLocked false (withVote (vr.recordOf eventID) b.voter b.verdict b.value)
      (vr.beforeTally eventID b)).1
    exact ((sameSetup_beforeTally eventID b vr).trans hafter).trans ⟨rfl, rfl, rfl, rfl⟩

theorem recordOf_registerVote_of_ne {votedID eventID : EventID} (hne : eventID ≠ votedID) (b : Ballot) :
    (vr.registerVote votedID b.voter b.verdict b.value).2.recordOf eventID = vr.recordOf eventID ∧
    SameSetup vr (vr.registerVote votedID b.voter b.verdict b.value).2 := by
  obtain ⟨-, -, hsame | hopened⟩ | ⟨-, hregister⟩ := registerVote_cases votedID b vr
  · rw [hsame]
    exact ⟨rfl, .refl vr⟩
  · rw [hopened]
    refine ⟨?_, ⟨rfl, rfl, rfl, rfl⟩⟩
    rw [recordOf, lookup_insert_of_ne _ hne]
    rfl
  · have hbefore := sameSetup_beforeTally votedID b vr
    have hlookup : (vr.beforeTally votedID b).records.lookup eventID = vr.records.lookup eventID :=
      lookup_insert_of_ne _ hne
    generalize withVote (vr.recordOf votedID) b.voter b.verdict b.value = record at hregister
    obtain ⟨hsetup, hrecords⟩ := sameSetup_tallyVotesLocked false record (vr.beforeTally votedID b)
    rw [hregister, tallyRecord]
    refine ⟨?_, (hbefore.trans hsetup).trans ⟨rfl, rfl, rfl, rfl⟩⟩
    rw [recordOf, recordOf, lookup_insert_of_ne _ hne, hrecords, hlookup]
    congr 1
    exact (hbefore.trans hsetup).newRecord eventID

/-- The round is bound to this snapshot and the record of the event holds exactly these ballots. -/
structure Holds (src : ValidatorSetSource) (eventID : EventID) (vr : VotingRound) (l : List Ballot) :
    Prop where
  validatorSet : vr.validatorSet = some src
  tracks : (vr.recordOf eventID).Tracks vr.config src l

variable {eventID : EventID}

theorem Holds.fresh {vr : VotingRound}
    (hset : vr.validatorSet = some src) (hfresh : eventID ∉ vr.records) : Holds src eventID vr [] := by
  refine ⟨hset, ?_⟩
  rw [recordOf, lookup_eq_none.mpr hfresh, Option.getD_none, newRecord, hset]
  exact ⟨rfl, rfl, rfl, List.nodup_nil, rfl, rfl, .inl ⟨rfl, .nil⟩⟩

theorem recordOf_insert (eventID : EventID) (record : VoteRecord) :
    recordOf { vr with records := vr.records.insert eventID record } eventID = record := by
  rw [recordOf, lookup_insert, Option.getD_some]

theorem recordOf_registerVote_of_not_accepts {vr : VotingRound} (hnot : ¬ vr.Accepts eventID b.voter) :
    (vr.registerVote eventID b.voter b.verdict b.value).2.recordOf eventID = vr.recordOf eventID := by
  obtain ⟨-, -, hsame | hopened⟩ | ⟨haccepts, -⟩ := registerVote_cases eventID b vr
  · rw [hsame]
  · rw [hopened, recordOf_insert]
  · exact absurd haccepts hnot

/-- What one vote does to the ballots the record holds. -/
theorem Holds.registerVote {vr : VotingRound} (h : Holds src eventID vr l) (b : Ballot) :
    SameSetup vr (vr.registerVote eventID b.voter b.verdict b.value).2 ∧
    ((¬ vr.Accepts eventID b.voter ∧
        Holds src eventID (vr.registerVote eventID b.voter b.verdict b.value).2 l) ∨
      (vr.Accepts eventID b.voter ∧
        Holds src eventID (vr.registerVote eventID b.voter b.verdict b.value).2 (l ++ [b]))) := by
  obtain ⟨hnot, -, hsame | hopened⟩ | ⟨haccepts, hregister⟩ := registerVote_cases eventID b vr
  · rw [hsame]
    exact ⟨.refl vr, .inl ⟨hnot, h⟩⟩
  · rw [hopened]
    refine ⟨⟨rfl, rfl, rfl, rfl⟩, .inl ⟨hnot, h.validatorSet, ?_⟩⟩
    rw [recordOf_insert]
    exact h.tracks
  · have ⟨_, hopen, hrounds, hfresh⟩ := haccepts
    have htracks := h.tracks
    have hsetup := sameSetup_beforeTally eventID b vr
    generalize vr.recordOf eventID = record at *
    have hundecided : Undecided (decisionOf vr.config src) l := by
      rcases htracks.status with ⟨-, hundecided⟩ | ⟨hfinal, -⟩
      · exact hundecided
      · rw [hopen] at hfinal
        cases hfinal
    have hnew : b.voter ∉ l.map Ballot.voter := by
      rwa [htracks.votes, mem_votesOf] at hfresh
    rw [hregister, tallyRecord]
    generalize vr.beforeTally eventID b = before at *
    have hafter := (sameSetup_tallyVotesLocked false (withVote record b.voter b.verdict b.value) before).1
    refine ⟨(hsetup.trans hafter).trans ⟨rfl, rfl, rfl, rfl⟩, .inr ⟨haccepts, ?_, ?_⟩⟩
    · exact (hsetup.trans hafter).validatorSet.trans h.validatorSet
    · rw [recordOf_insert]
      have hconfig : (tallyVotesLocked false (withVote record b.voter b.verdict b.value) before).2.config =
          before.config := hafter.config
      simp only [hconfig]
      refine tracks_tallyVotesLocked htracks.bound htracks.activeWeight htracks.round ?_ hopen
        (nodup_append_iff.mpr ⟨htracks.nodup, hnew⟩) ?_ ?_ ?_
      · rw [hsetup.config]
        exact hrounds
      · rw [votesOf_append, ← htracks.votes]
        rfl
      · rw [valuesOf_append, ← htracks.values]
        rfl
      · rw [hsetup.config]
        exact hundecided

end VotingRound

end aethernet.consensus
