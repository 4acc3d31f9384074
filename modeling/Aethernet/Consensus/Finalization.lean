import Aethernet.Consensus.Agreement

open golang aethernet.event transition

namespace aethernet.consensus.VotingRound

open Ballot

/-- What the votes of a record decide under the weights of the round. -/
def decision (vr : VotingRound) (record : VoteRecord) : Option Bool :=
  decide vr.config record.totalActiveWeight record.votes.len (vr.tally record)

/-- `RegisterVote` accepts the vote and the votes of the record then decide. -/
def Decides (vr : VotingRound) (eventID : EventID) (b : Ballot) : Prop :=
  vr.Accepts eventID b.voter ∧
    (vr.decision (withVote (vr.recordOf eventID) b.voter b.verdict b.value)).isSome

/-- The votes of an open record decide under the weights of the round as they are now. -/
def TallyDecides (vr : VotingRound) (eventID : EventID) : Prop :=
  ∃ record, vr.records.lookup eventID = some record ∧ record.finalized = false ∧
    record.round ≤ vr.config.maxRounds ∧ (vr.decision record).isSome

section Tally

variable {vr vr' : VotingRound} {record : VoteRecord}

theorem SameSetup.decision (h : SameSetup vr vr') {record' : VoteRecord}
    (hbound : record'.boundSnapshot = record.boundSnapshot)
    (hactive : record'.totalActiveWeight = record.totalActiveWeight) (hvotes : record'.votes = record.votes) :
    vr'.decision record' = vr.decision record := by
  simp [VotingRound.decision, tally, computeWeightForRecord, computeWeight, computeWeightFromRegistry, hbound, hactive,
    hvotes, h.config, h.validatorSet, h.registry]

/-- What a tally keeps of a record. -/
structure SameBallots (record record' : VoteRecord) : Prop where
  boundSnapshot : record'.boundSnapshot = record.boundSnapshot
  totalActiveWeight : record'.totalActiveWeight = record.totalActiveWeight
  votes : record'.votes = record.votes
  callbackFired : record'.callbackFired = record.callbackFired

theorem sameBallots_tallyVotesLocked (advanceRound : Bool) (record : VoteRecord) (vr : VotingRound) :
    SameBallots record (tallyVotesLocked advanceRound record vr).1 := by
  unfold tallyVotesLocked
  split
  · exact ⟨rfl, rfl, rfl, rfl⟩
  split
  · exact ⟨rfl, rfl, rfl, rfl⟩
  dsimp only
  split <;> exact ⟨rfl, rfl, rfl, rfl⟩

theorem finalized_tallyVotesLocked (advanceRound : Bool) (hopen : record.finalized = false)
    (hrounds : record.round ≤ vr.config.maxRounds) :
    (tallyVotesLocked advanceRound record vr).1.finalized = (vr.decision record).isSome ∧
      (vr.decision record = none → advanceRound = false →
        (tallyVotesLocked advanceRound record vr).1.round = record.round) := by
  simp only [tallyVotesLocked, hopen, Bool.false_eq_true, if_false, UInt64.not_lt.mpr hrounds]
  rw [decision]
  cases decide vr.config record.totalActiveWeight record.votes.len (vr.tally record) with
  | none =>
    refine ⟨rfl, ?_⟩
    rintro - rfl
    rfl
  | some verdict => exact ⟨rfl, fun h => absurd h (Option.some_ne_none verdict)⟩

end Tally

section Registration

variable {vr : VotingRound} {eventID : EventID} {b : Ballot} (id : EventID)

theorem registerVote_of_accepts (haccepts : vr.Accepts eventID b.voter) :
    (vr.registerVote eventID b.voter b.verdict b.value).1 = .ok () ∧
    (vr.registerVote eventID b.voter b.verdict b.value).2.records.lookup eventID = some
      (tallyVotesLocked false (withVote (vr.recordOf eventID) b.voter b.verdict b.value)
        (vr.beforeTally eventID b)).1 := by
  obtain ⟨hnot, -⟩ | ⟨-, hregister⟩ := registerVote_cases eventID b vr
  · exact absurd haccepts hnot
  · rw [hregister]
    exact ⟨rfl, Finmap.lookup_insert _⟩

theorem recordOf_registerVote_of_accepts (haccepts : vr.Accepts eventID b.voter) :
    (vr.registerVote eventID b.voter b.verdict b.value).2.recordOf eventID =
      (tallyVotesLocked false (withVote (vr.recordOf eventID) b.voter b.verdict b.value)
        (vr.beforeTally eventID b)).1 := by
  rw [recordOf, (registerVote_of_accepts haccepts).2, Option.getD_some]

theorem finalized_of_accepts (haccepts : vr.Accepts eventID b.voter) :
    ((vr.registerVote eventID b.voter b.verdict b.value).2.recordOf eventID).finalized =
        (vr.decision (withVote (vr.recordOf eventID) b.voter b.verdict b.value)).isSome ∧
      (vr.decision (withVote (vr.recordOf eventID) b.voter b.verdict b.value) = none →
        ((vr.registerVote eventID b.voter b.verdict b.value).2.recordOf eventID).round =
          (vr.recordOf eventID).round) := by
  have hopen : (withVote (vr.recordOf eventID) b.voter b.verdict b.value).finalized = false := haccepts.2.1
  have hrounds : (withVote (vr.recordOf eventID) b.voter b.verdict b.value).round ≤
      (vr.beforeTally eventID b).config.maxRounds := haccepts.2.2.1
  obtain ⟨hfinal, hround⟩ := finalized_tallyVotesLocked false hopen hrounds
  rw [recordOf_registerVote_of_accepts haccepts]
  exact ⟨hfinal, fun hnone => hround hnone rfl⟩

theorem finalized_registerVote_iff :
    ((vr.registerVote eventID b.voter b.verdict b.value).2.recordOf id).finalized = true ↔
      (vr.recordOf id).finalized = true ∨ (id = eventID ∧ vr.Decides eventID b) := by
  by_cases heq : id = eventID
  · subst heq
    by_cases haccepts : vr.Accepts id b.voter
    · rw [(finalized_of_accepts haccepts).1, haccepts.2.1, Decides]
      simp [haccepts]
    · rw [recordOf_registerVote_of_not_accepts haccepts, Decides]
      simp [haccepts]
  · rw [(recordOf_registerVote_of_ne vr heq b).1]
    simp [heq]

theorem recordOf_registerVote_cases (vr : VotingRound) (eventID : EventID) (b : Ballot) (id : EventID) :
    (vr.registerVote eventID b.voter b.verdict b.value).2.recordOf id = vr.recordOf id ∧
        ¬ (id = eventID ∧ vr.Accepts eventID b.voter) ∨
      (id = eventID ∧ vr.Accepts eventID b.voter) ∧ SameBallots (withVote (vr.recordOf id) b.voter b.verdict b.value)
        ((vr.registerVote eventID b.voter b.verdict b.value).2.recordOf id) := by
  by_cases heq : id = eventID
  · subst heq
    by_cases haccepts : vr.Accepts id b.voter
    · rw [recordOf_registerVote_of_accepts haccepts]
      exact .inr ⟨⟨rfl, haccepts⟩, sameBallots_tallyVotesLocked _ _ _⟩
    · exact .inl ⟨recordOf_registerVote_of_not_accepts haccepts, fun h => haccepts h.2⟩
  · exact .inl ⟨(recordOf_registerVote_of_ne vr heq b).1, fun h => heq h.1⟩

theorem callbackFired_registerVote : ((vr.registerVote eventID b.voter b.verdict b.value).2.recordOf id).callbackFired =
      (vr.recordOf id).callbackFired := by
  obtain ⟨hsame, -⟩ | ⟨-, hsame⟩ := recordOf_registerVote_cases vr eventID b id
  · rw [hsame]
  · exact hsame.callbackFired

theorem mem_votes_registerVote_iff (vr : VotingRound) (eventID : EventID) (b : Ballot) (id : EventID)
    (voter : AgentID) :
    voter ∈ ((vr.registerVote eventID b.voter b.verdict b.value).2.recordOf id).votes ↔
      voter ∈ (vr.recordOf id).votes ∨ (id = eventID ∧ voter = b.voter ∧ vr.Accepts eventID b.voter) := by
  obtain ⟨hsame, hnot⟩ | ⟨hadded, hsame⟩ := recordOf_registerVote_cases vr eventID b id
  · rw [hsame]
    tauto
  · rw [hsame.votes, withVote, Finmap.mem_insert]
    tauto

end Registration

section TallyVotes

variable {vr : VotingRound} {eventID : EventID}

theorem recordOf_tallyVotes_of_ne {id : EventID} (hne : id ≠ eventID) :
    (vr.tallyVotes eventID).2.recordOf id = vr.recordOf id := by
  unfold tallyVotes
  cases hlookup : vr.records.lookup eventID with
  | none => rfl
  | some record =>
    obtain ⟨hsetup, hrecords⟩ := sameSetup_tallyVotesLocked true record vr
    dsimp only [tallyRecord]
    rw [recordOf, recordOf, Finmap.lookup_insert_of_ne _ hne, hrecords]
    congr 1
    exact hsetup.newRecord id

theorem finalized_tallyVotes_iff (id : EventID) :
    ((vr.tallyVotes eventID).2.recordOf id).finalized = true ↔
      (vr.recordOf id).finalized = true ∨ (id = eventID ∧ vr.TallyDecides eventID) := by
  by_cases heq : id = eventID
  · subst heq
    cases hlookup : vr.records.lookup id with
    | none => simp [tallyVotes, hlookup, TallyDecides]
    | some record =>
      have hrecord : vr.recordOf id = record := by rw [recordOf, hlookup, Option.getD_some]
      have hafter : (vr.tallyVotes id).2.recordOf id = (tallyVotesLocked true record vr).1 := by
        rw [tallyVotes, hlookup]
        exact recordOf_insert _ id _
      rw [hafter, hrecord]
      cases hfinal : record.finalized with
      | true => simp [tallyVotesLocked, hfinal]
      | false =>
        by_cases hrounds : record.round ≤ vr.config.maxRounds
        · rw [(finalized_tallyVotesLocked true hfinal hrounds).1]
          simp [TallyDecides, hlookup, hfinal, hrounds]
        · simp [tallyVotesLocked, hfinal, UInt64.not_le.mp hrounds, TallyDecides, hlookup, hrounds]
  · rw [recordOf_tallyVotes_of_ne heq]
    simp [heq]

theorem callbackFired_tallyVotes (id : EventID) :
    ((vr.tallyVotes eventID).2.recordOf id).callbackFired = (vr.recordOf id).callbackFired := by
  by_cases heq : id = eventID
  · subst heq
    cases hlookup : vr.records.lookup id with
    | none => rw [tallyVotes, hlookup]
    | some record =>
      have hafter : (vr.tallyVotes id).2.recordOf id = (tallyVotesLocked true record vr).1 := by
        rw [tallyVotes, hlookup]
        exact recordOf_insert _ id _
      rw [hafter, (sameBallots_tallyVotesLocked _ _ _).callbackFired, recordOf, hlookup, Option.getD_some]
  · rw [recordOf_tallyVotes_of_ne heq]

end TallyVotes

instance (vr : VotingRound) (eventID : EventID) (voter : AgentID) : Decidable (vr.Eligible eventID voter) :=
  decidable_of_iff ((vr.computeWeight voter).isOk ∧ vr.inCommittee eventID voter = true) <| by
    rw [Eligible]
    cases vr.computeWeight voter <;> simp [Except.isOk, Except.toBool]

section Reload

variable {vr₀ vr : VotingRound} {eventID : EventID} {l ballots : List Ballot}

def decisionIn (vr : VotingRound) (eventID : EventID) (l : List Ballot) : Option Bool :=
  vr.decision { vr.newRecord eventID with votes := votesOf l }

/-- The record is open, none of its votes so far decided, and it holds exactly these. -/
structure Collects (vr₀ : VotingRound) (eventID : EventID) (vr : VotingRound) (l : List Ballot) : Prop where
  setup : SameSetup vr₀ vr
  boundSnapshot : (vr.recordOf eventID).boundSnapshot = (vr₀.newRecord eventID).boundSnapshot
  totalActiveWeight : (vr.recordOf eventID).totalActiveWeight = (vr₀.newRecord eventID).totalActiveWeight
  round : (vr.recordOf eventID).round = 1
  votes : (vr.recordOf eventID).votes = votesOf l
  stillOpen : (vr.recordOf eventID).finalized = false
  undecided : Undecided (vr₀.decisionIn eventID) l

theorem Collects.fresh (hsetup : SameSetup vr₀ vr) (hfresh : vr.recordOf eventID = vr₀.newRecord eventID) :
    Collects vr₀ eventID vr [] := by
  refine ⟨hsetup, ?_, ?_, ?_, ?_, ?_, .nil⟩ <;> rw [hfresh] <;> rfl

theorem Collects.accepts (h : Collects vr₀ eventID vr l) (hrounds : 1 ≤ vr₀.config.maxRounds) {b : Ballot}
    (heligible : vr₀.Eligible eventID b.voter) (hnew : b.voter ∉ l.map Ballot.voter) :
    vr.Accepts eventID b.voter := by
  refine ⟨(h.setup.eligible eventID b.voter).mpr heligible, h.stillOpen, ?_, ?_⟩
  · rwa [h.round, h.setup.config]
  · rwa [h.votes, mem_votesOf]

theorem Collects.registerVote (h : Collects vr₀ eventID vr l) {b : Ballot}
    (haccepts : vr.Accepts eventID b.voter) :
    ((vr.registerVote eventID b.voter b.verdict b.value).2.recordOf eventID).finalized =
        (vr₀.decisionIn eventID (l ++ [b])).isSome ∧
      (vr₀.decisionIn eventID (l ++ [b]) = none →
        Collects vr₀ eventID (vr.registerVote eventID b.voter b.verdict b.value).2 (l ++ [b])) := by
  have hvotes : (withVote (vr.recordOf eventID) b.voter b.verdict b.value).votes = votesOf (l ++ [b]) := by
    rw [votesOf_append, ← h.votes]
    rfl
  have hdecision : vr.decision (withVote (vr.recordOf eventID) b.voter b.verdict b.value) =
      vr₀.decisionIn eventID (l ++ [b]) :=
    h.setup.decision h.boundSnapshot h.totalActiveWeight hvotes
  obtain ⟨hfinal, hround⟩ := finalized_of_accepts haccepts
  rw [hdecision] at hfinal hround
  refine ⟨hfinal, fun hnone => ?_⟩
  have hsame := sameBallots_tallyVotesLocked false (withVote (vr.recordOf eventID) b.voter b.verdict b.value)
    (vr.beforeTally eventID b)
  rw [← recordOf_registerVote_of_accepts haccepts] at hsame
  refine ⟨h.setup.trans (sameSetup_registerVote eventID b vr), hsame.boundSnapshot.trans h.boundSnapshot,
    hsame.totalActiveWeight.trans h.totalActiveWeight, (hround hnone).trans h.round, hsame.votes.trans hvotes, ?_,
    h.undecided.append hnone⟩
  rw [hfinal, hnone]
  rfl

theorem Collects.finalized_registerAll (h : Collects vr₀ eventID vr l) (hrounds : 1 ≤ vr₀.config.maxRounds)
    (hnodup : ((l ++ ballots).map Ballot.voter).Nodup) (heligible : ∀ b ∈ ballots, vr₀.Eligible eventID b.voter) :
    ((vr.registerAll eventID ballots).recordOf eventID).finalized = true ↔
      ¬ Undecided (vr₀.decisionIn eventID) (l ++ ballots) := by
  induction ballots generalizing vr l with
  | nil =>
    rw [registerAll, List.foldl_nil, h.stillOpen, List.append_nil]
    simpa using h.undecided
  | cons b ballots ih =>
    have hsplit : l ++ b :: ballots = (l ++ [b]) ++ ballots := by simp
    rw [hsplit] at hnodup ⊢
    have hnew : b.voter ∉ l.map Ballot.voter := by
      rw [List.map_append] at hnodup
      exact (nodup_append_iff.mp hnodup.of_append_left).2
    obtain ⟨hfinal, hcollects⟩ :=
      h.registerVote (h.accepts hrounds (heligible b List.mem_cons_self) hnew)
    cases hdecision : vr₀.decisionIn eventID (l ++ [b]) with
    | some verdict =>
      rw [hdecision, Option.isSome_some] at hfinal
      refine iff_of_true ?_ fun hundecided => ?_
      · exact (congrArg VoteRecord.finalized (recordOf_registerAll_of_closed (.inl hfinal) ballots)).trans hfinal
      · have hnone := hundecided (l ++ [b]) (by simp) (List.prefix_append _ _)
        rw [hdecision] at hnone
        cases hnone
    | none =>
      exact ih (hcollects hdecision) hnodup fun b' hb' => heligible b' (List.mem_cons_of_mem b hb')

/-- Some first part of the votes of eligible voters decides, and there is a round to vote in. -/
def ReloadDecides (vr : VotingRound) (eventID : EventID) (ballots : List Ballot) : Prop :=
  1 ≤ vr.config.maxRounds ∧
    ¬ Undecided (vr.decisionIn eventID) (ballots.filter fun b => Decidable.decide (vr.Eligible eventID b.voter))

theorem finalized_registerAll_iff (hsetup : SameSetup vr₀ vr) (hfresh : vr.recordOf eventID = vr₀.newRecord eventID)
    (hnodup : (ballots.map Ballot.voter).Nodup) :
    ((vr.registerAll eventID ballots).recordOf eventID).finalized = true ↔ vr₀.ReloadDecides eventID ballots := by
  have hcollects := Collects.fresh hsetup hfresh
  by_cases hrounds : 1 ≤ vr₀.config.maxRounds
  · have hfilter : ∀ b ∈ ballots,
        Decidable.decide (vr₀.Eligible eventID b.voter) = true ↔ vr.Eligible eventID b.voter :=
      fun b _ => decide_eq_true_iff.trans (hsetup.eligible eventID b.voter).symm
    rw [registerAll_filter hfilter, hcollects.finalized_registerAll hrounds]
    · simp [ReloadDecides, hrounds]
    · exact hnodup.sublist (List.filter_sublist.map Ballot.voter)
    · exact fun b hb => of_decide_eq_true (List.mem_filter.mp hb).2
  · have hlate : vr.config.maxRounds < (vr.recordOf eventID).round := by
      rw [hcollects.round, hsetup.config]
      exact UInt64.not_le.mp hrounds
    rw [recordOf_registerAll_of_closed (.inr hlate), hcollects.stillOpen]
    simp [ReloadDecides, hrounds]

theorem not_reloadDecides_nil : ¬ vr.ReloadDecides eventID [] := by
  simp [ReloadDecides, Undecided.nil]

theorem recordOf_registerAll_of_ne {id : EventID} (hne : id ≠ eventID) :
    (vr.registerAll eventID ballots).recordOf id = vr.recordOf id := by
  induction ballots generalizing vr with
  | nil => rfl
  | cons b ballots ih => exact ih.trans (recordOf_registerVote_of_ne vr hne b).1

theorem sameSetup_registerAll (eventID : EventID) (ballots : List Ballot) (vr : VotingRound) :
    SameSetup vr (vr.registerAll eventID ballots) := by
  induction ballots generalizing vr with
  | nil => exact .refl vr
  | cons b ballots ih => exact (sameSetup_registerVote eventID b vr).trans (ih _)

def registerEach (eventIDs : List EventID) (ballots : EventID → List Ballot) (vr : VotingRound) : VotingRound :=
  eventIDs.foldl (fun vr id => vr.registerAll id (ballots id)) vr

theorem sameSetup_registerEach (eventIDs : List EventID) (ballots : EventID → List Ballot) (vr : VotingRound) :
    SameSetup vr (vr.registerEach eventIDs ballots) := by
  induction eventIDs generalizing vr with
  | nil => exact .refl vr
  | cons id eventIDs ih => exact (sameSetup_registerAll id (ballots id) vr).trans (ih _)

variable {ballots : EventID → List Ballot} {eventIDs : List EventID}

theorem recordOf_registerEach_of_no_ballots (hnone : eventID ∈ eventIDs → ballots eventID = []) :
    (vr.registerEach eventIDs ballots).recordOf eventID = vr.recordOf eventID := by
  induction eventIDs generalizing vr with
  | nil => rfl
  | cons id eventIDs ih =>
    refine (ih fun hmem => hnone (List.mem_cons_of_mem id hmem)).trans ?_
    by_cases heq : eventID = id
    · subst heq
      change (vr.registerAll eventID (ballots eventID)).recordOf eventID = _
      rw [hnone List.mem_cons_self]
      rfl
    · exact recordOf_registerAll_of_ne heq

theorem finalized_registerEach_iff (hnodup : eventIDs.Nodup)
    (hsetup : SameSetup vr₀ vr) (hempty : ∀ id, vr.recordOf id = vr₀.newRecord id) (hmem : eventID ∈ eventIDs)
    (hvoters : ((ballots eventID).map Ballot.voter).Nodup) :
    ((vr.registerEach eventIDs ballots).recordOf eventID).finalized = true ↔
      vr₀.ReloadDecides eventID (ballots eventID) := by
  obtain ⟨before, after, rfl⟩ := List.append_of_mem hmem
  rw [List.nodup_append, List.nodup_cons] at hnodup
  have hbefore : eventID ∉ before := fun h => hnodup.2.2 eventID h eventID List.mem_cons_self rfl
  rw [registerEach, List.foldl_append, List.foldl_cons]
  change ((registerEach after ballots _).recordOf eventID).finalized = true ↔ _
  rw [recordOf_registerEach_of_no_ballots fun h => absurd h hnodup.2.1.1]
  refine finalized_registerAll_iff (hsetup.trans (sameSetup_registerEach before ballots vr)) ?_ hvoters
  exact (recordOf_registerEach_of_no_ballots fun h => absurd h hbefore).trans (hempty eventID)

end Reload

end aethernet.consensus.VotingRound
