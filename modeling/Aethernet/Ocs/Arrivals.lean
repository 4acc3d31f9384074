import Aethernet.Consensus.Tally
import Aethernet.Ocs.Engine
import Aethernet.Transition.Invariant

open golang aethernet event consensus transition Finmap

namespace aethernet.consensus.VotingRound

def persistedVote (vr : VotingRound) (eventID : EventID) (voter : AgentID) : Option Bool :=
  vr.persistence.bind fun p => (p.getD eventID ∅).lookup voter

variable {voter : AgentID} {verdict : Bool} {vr : VotingRound}

theorem persistedVote_deleteVotes {deleted eventID : EventID}
    (h : (deleteVotes deleted vr).persistedVote eventID voter = some verdict) :
    vr.persistedVote eventID voter = some verdict := by
  cases hstore : vr.persistence with
  | none => simp [persistedVote, deleteVotes, hstore] at h
  | some store =>
    simp only [persistedVote, deleteVotes, hstore, Option.map_some, Option.bind_some, getD,
      lookup_erase_eq] at h ⊢
    split_ifs at h
    · simp at h
    · exact h

theorem persistedVote_tallyVotesLocked {advanceRound : Bool} {record : VoteRecord}
    {eventID : EventID} (h : (tallyVotesLocked advanceRound record vr).2.persistedVote eventID voter = some verdict) :
    vr.persistedVote eventID voter = some verdict := by
  unfold tallyVotesLocked at h
  split at h
  · exact h
  split at h
  · exact h
  dsimp only at h
  split at h
  · exact persistedVote_deleteVotes h
  · exact h

variable {b : Ballot} {votedID eventID : EventID}

theorem persistedVote_putVote (h : (putVote votedID b.voter b.verdict vr).persistedVote eventID voter = some verdict) :
    vr.persistedVote eventID voter = some verdict ∨
      (votedID = eventID ∧ b.voter = voter ∧ b.verdict = verdict) := by
  cases hstore : vr.persistence with
  | none => simp [persistedVote, putVote, hstore] at h
  | some store =>
    simp only [persistedVote, putVote, hstore, Option.map_some, Option.bind_some] at h ⊢
    by_cases hevent : eventID = votedID
    · subst hevent
      rw [getD_insert, lookup_insert_eq] at h
      split_ifs at h with hvoter
      · exact .inr ⟨rfl, hvoter.symm, Option.some.inj h⟩
      · exact .inl h
    · rw [getD_insert_of_ne _ _ _ hevent] at h
      exact .inl h

theorem persistedVote_registerVote
    (h : (vr.registerVote votedID b.voter b.verdict b.value).2.persistedVote eventID voter = some verdict) :
    vr.persistedVote eventID voter = some verdict ∨
      (votedID = eventID ∧ b.voter = voter ∧ b.verdict = verdict) := by
  obtain ⟨-, -, hsame | hopened⟩ | ⟨-, hregister⟩ := registerVote_cases votedID b vr
  · rw [hsame] at h
    exact .inl h
  · rw [hopened] at h
    exact .inl h
  · rw [hregister] at h
    have hbefore : (vr.beforeTally votedID b).persistedVote eventID voter = some verdict :=
      persistedVote_tallyVotesLocked h
    exact persistedVote_putVote hbefore

end aethernet.consensus.VotingRound

namespace aethernet.ocs

open consensus.VotingRound consensus.Ballot

/-- How a vote on an event reaches a node, or that the node restarts. After a restart the vote store
    lists the event IDs and each event's voters in these orders. -/
inductive Arrival where
  | registered (b : Ballot)
  | processed (b : Ballot)
  | fromPeer (b : Ballot)
  | restart (eventIDs : List EventID) (voters : EventID → List consensus.AgentID)

def Arrival.ballot? : Arrival → Option Ballot
  | registered b => some b
  | processed b => some b
  | fromPeer b => some b
  | restart _ _ => none

/-- The answer of `GetVotes` when the store goes through the voters in this order. -/
def storedVotes (vr : VotingRound) (eventID : EventID) (voters : List consensus.AgentID) :
    List PersistedVote :=
  voters.filterMap fun voter => (vr.persistedVote eventID voter).map fun verdict =>
    { eventID := eventID, voterID := voter, verdict := verdict }

/-- The voting round after a restart: a new one with the same setup and store, which reloads the
    persisted votes. -/
def restartRound (eventIDs : List EventID) (voters : EventID → List consensus.AgentID) (vr : VotingRound) :
    VotingRound :=
  (loadPersistedVotes (.ok eventIDs) (fun id => .ok (storedVotes vr id (voters id)))
    { vr with records := ∅, orderSeq := 0 }).2

namespace Engine

/-- What an arrival does to a node: `RegisterVote`, `ProcessVote`, `AcceptPeerVote`, or the reload of the
    persisted votes. -/
def arrive (eventID : EventID) (e : Engine) : Arrival → Engine
  | .registered b =>
    { e with voting := e.voting.map fun vr => (vr.registerVote eventID b.voter b.verdict b.value).2 }
  | .processed b =>
    (e.processVote
      { eventID := eventID, verifierID := b.voter, verdict := b.verdict, verifiedValue := b.value }).2.1
  | .fromPeer b => (e.acceptPeerVote eventID b.voter b.verdict).2.1
  | .restart eventIDs voters =>
    { e with processed := ∅, voting := e.voting.map (restartRound eventIDs voters) }

/-- The store answers a restart with exactly what it holds. -/
def Possible (e : Engine) : Arrival → Prop
  | .restart eventIDs voters => ∀ vr store, e.voting = some vr → vr.persistence = some store →
      (eventIDs.Nodup ∧ ∀ id, id ∈ eventIDs ↔ id ∈ store) ∧
      ∀ id, (voters id).Nodup ∧ ∀ voter, voter ∈ voters id ↔ voter ∈ store.getD id ∅
  | _ => True

/-- The value a node reports for an event that is finalized with verdict true. -/
def finalValue (e : Engine) (eventID : EventID) : Option UInt64 := do
  let vr ← e.voting
  let record ← vr.records.lookup eventID
  if record.finalized ∧ record.finalVerdict then some record.finalVerifiedValue else none

/-- The node has the setup of `vr₀` and has not seen a vote on the event. -/
def Starts (vr₀ : VotingRound) (eventID : EventID) (e : Engine) : Prop :=
  ∃ vr, e.voting = some vr ∧ SameSetup vr₀ vr ∧ eventID ∉ vr.records ∧
    ∀ voter, vr.persistedVote eventID voter = none

/-- The arrivals are exactly about these votes, and every one of them arrives. -/
def Processes (V : List Ballot) (eventID : EventID) (e : Engine) (arrivals : List Arrival) : Prop :=
  MeetsAlong (arrive eventID) Possible e arrivals ∧
    (∀ a ∈ arrivals, ∀ b, a.ballot? = some b → b ∈ V) ∧ ∀ b ∈ V, ∃ a ∈ arrivals, a.ballot? = some b

end Engine

def Received (V : List Ballot) (b : Ballot) : Prop :=
  ∃ b₀ ∈ V, b.voter = b₀.voter ∧ b.verdict = b₀.verdict ∧ (b.value = b₀.value ∨ b.value = 0)

/-- What holds in a node that processes these votes and counts `l`. -/
structure Keeps (vr₀ : VotingRound) (src : ValidatorSetSource) (eventID : EventID) (V : List Ballot)
    (vr : VotingRound) (l : List Ballot) : Prop where
  setup : SameSetup vr₀ vr
  holds : Holds src eventID vr l
  rounds : l ≠ [] → 1 ≤ vr₀.config.maxRounds
  received : ∀ b ∈ l, Received V b
  eligible : ∀ b ∈ l, vr₀.Eligible eventID b.voter
  persisted : ∀ voter verdict, vr.persistedVote eventID voter = some verdict →
    ∃ b₀ ∈ V, b₀.voter = voter ∧ b₀.verdict = verdict

section Invariant

variable {vr₀ vr : VotingRound} {src : ValidatorSetSource} {eventID : EventID} {V l : List Ballot}

variable (h : Keeps vr₀ src eventID V vr l)

include h

theorem Keeps.registerVote {b : Ballot} (hb : Received V b) : (vr.Accepts eventID b.voter ∧
      Keeps vr₀ src eventID V (vr.registerVote eventID b.voter b.verdict b.value).2 (l ++ [b])) ∨
    (¬ vr.Accepts eventID b.voter ∧
      Keeps vr₀ src eventID V (vr.registerVote eventID b.voter b.verdict b.value).2 l) := by
  have hpersisted : ∀ voter verdict,
      (vr.registerVote eventID b.voter b.verdict b.value).2.persistedVote eventID voter = some verdict →
      ∃ b₀ ∈ V, b₀.voter = voter ∧ b₀.verdict = verdict := by
    intro voter verdict hvote
    obtain hold | ⟨-, rfl, rfl⟩ := persistedVote_registerVote hvote
    · exact h.persisted voter verdict hold
    · obtain ⟨b₀, hmem, hvoter, hverdict, -⟩ := hb
      exact ⟨b₀, hmem, hvoter.symm, hverdict.symm⟩
  obtain ⟨hsetup, ⟨hnot, hholds⟩ | ⟨haccepts, hholds⟩⟩ := h.holds.registerVote b
  · exact .inr ⟨hnot, h.setup.trans hsetup, hholds, h.rounds, h.received, h.eligible, hpersisted⟩
  · refine .inl ⟨haccepts, h.setup.trans hsetup, hholds, fun _ => ?_, ?_, ?_, hpersisted⟩
    · have hround := haccepts.2.2.1
      rwa [h.holds.tracks.round, h.setup.config] at hround
    · simpa [or_imp, forall_and] using And.intro h.received hb
    · have heligible := (h.setup.eligible eventID b.voter).mp haccepts.1
      simpa [or_imp, forall_and] using And.intro h.eligible heligible

theorem Keeps.registerVote_of_ne {votedID : EventID} (hne : eventID ≠ votedID) (b : Ballot) :
    Keeps vr₀ src eventID V (vr.registerVote votedID b.voter b.verdict b.value).2 l := by
  obtain ⟨hrecord, hsetup⟩ := recordOf_registerVote_of_ne vr hne b
  refine ⟨h.setup.trans hsetup, ⟨hsetup.validatorSet.trans h.holds.validatorSet, ?_⟩, h.rounds, h.received,
    h.eligible, ?_⟩
  · rw [hrecord, hsetup.config]
    exact h.holds.tracks
  · intro voter verdict hvote
    obtain hold | ⟨heq, -⟩ := persistedVote_registerVote hvote
    · exact h.persisted voter verdict hold
    · exact absurd heq.symm hne

theorem Keeps.markCallbackFired (firedID : EventID) : Keeps vr₀ src eventID V (vr.markCallbackFired firedID).2 l := by
  unfold VotingRound.markCallbackFired
  split
  · exact h
  · next record hlookup =>
    split_ifs
    · exact h
    · refine ⟨h.setup.trans ⟨rfl, rfl, rfl, rfl⟩, ⟨h.holds.validatorSet, ?_⟩, h.rounds, h.received,
        h.eligible, h.persisted⟩
      have htracks := h.holds.tracks
      by_cases heq : eventID = firedID
      · subst heq
        rw [recordOf_insert]
        rw [recordOf, hlookup, Option.getD_some] at htracks
        exact ⟨htracks.bound, htracks.activeWeight, htracks.round, htracks.nodup, htracks.votes,
          htracks.values, htracks.status⟩
      · rw [recordOf] at htracks ⊢
        simp only [lookup_insert_of_ne _ heq]
        exact htracks

theorem Keeps.reload (votedID : EventID) (votes : List PersistedVote)
    (hvotes : ∀ v ∈ votes, eventID = votedID → Received V ⟨v.voterID, v.verdict, 0⟩) :
    ∃ l', Keeps vr₀ src eventID V
      (votes.foldl (fun vr v => (vr.registerVote votedID v.voterID v.verdict 0).2) vr) l' := by
  induction votes generalizing vr l with
  | nil => exact ⟨l, h⟩
  | cons v votes ih =>
    have hrest := fun v' hv' => hvotes v' (List.mem_cons_of_mem v hv')
    by_cases heq : eventID = votedID
    · subst heq
      obtain ⟨-, hstep⟩ | ⟨-, hstep⟩ := h.registerVote (hvotes v List.mem_cons_self rfl)
      · exact ih hstep hrest
      · exact ih hstep hrest
    · exact ih (h.registerVote_of_ne heq ⟨v.voterID, v.verdict, 0⟩) hrest

theorem Keeps.restartRound (eventIDs : List EventID) (voters : EventID → List consensus.AgentID) :
    ∃ l', Keeps vr₀ src eventID V (restartRound eventIDs voters vr) l' := by
  have hstored : ∀ votedID, ∀ v ∈ storedVotes vr votedID (voters votedID), eventID = votedID →
      Received V ⟨v.voterID, v.verdict, 0⟩ := by
    rintro votedID v hv rfl
    obtain ⟨voter, -, hvote⟩ := List.mem_filterMap.mp hv
    obtain ⟨verdict, hpersisted, rfl⟩ := Option.map_eq_some_iff.mp hvote
    obtain ⟨b₀, hmem, hvoter, hverdict⟩ := h.persisted voter verdict hpersisted
    exact ⟨b₀, hmem, hvoter.symm, hverdict.symm, .inr rfl⟩
  have hfresh : Keeps vr₀ src eventID V { vr with records := ∅, orderSeq := 0 } [] :=
    ⟨h.setup.trans ⟨rfl, rfl, rfl, rfl⟩, .fresh h.holds.validatorSet notMem_empty, by simp, by simp,
      by simp, h.persisted⟩
  rw [ocs.restartRound, loadPersistedVotes]
  generalize { vr with records := ∅, orderSeq := 0 } = loaded at hfresh
  -- the loop over the events keeps the votes counted so far
  generalize [] = counted at hfresh
  induction eventIDs generalizing loaded counted with
  | nil => exact ⟨counted, hfresh⟩
  | cons votedID eventIDs ih =>
    obtain ⟨counted', hloaded⟩ := hfresh.reload votedID _ (hstored votedID)
    exact ih _ _ hloaded

end Invariant

def Arrival.counted? : Arrival → Option Ballot
  | registered b => some b
  | processed b => some b
  | fromPeer b => some { b with value := 0 }
  | restart _ _ => none

variable {a : Arrival} {b : Ballot}

theorem Arrival.received_of_counted {V : List Ballot} (hb : a.counted? = some b)
    (hballot : ∀ b₀, a.ballot? = some b₀ → b₀ ∈ V) : Received V b := by
  cases a with
  | registered b₀ | processed b₀ => cases hb; exact ⟨b, hballot b rfl, rfl, rfl, .inl rfl⟩
  | fromPeer b₀ => cases hb; exact ⟨b₀, hballot b₀ rfl, rfl, rfl, .inr rfl⟩
  | restart eventIDs voters => cases hb

namespace Engine

section Arrivals

variable {vr₀ vr : VotingRound} {src : ValidatorSetSource} {eventID : EventID} {V l : List Ballot} {e : Engine}

theorem voting_processVoteInternal (hvoting : e.voting = some vr) (result : VerificationResult)
    (broadcast : Bool) :
    let after := (vr.registerVote result.eventID result.verifierID result.verdict result.verifiedValue).2
    (e.processVoteInternal result broadcast).2.1.voting = some after ∨
      (e.processVoteInternal result broadcast).2.1.voting =
        some (after.markCallbackFired result.eventID).2 := by
  have hresult : ∀ (e : Engine) (r : VerificationResult), (e.processResult r).2.voting = e.voting := by
    intro e r
    unfold processResult
    split_ifs <;> rfl
  unfold processVoteInternal
  rw [hvoting]
  dsimp only
  cases hregister : vr.registerVote result.eventID result.verifierID result.verdict result.verifiedValue with
  | mk err after =>
    cases err with
    | error err => exact .inl rfl
    | ok =>
      dsimp only
      split_ifs
      · exact .inr rfl
      · split
        · exact .inr rfl
        · exact .inr (hresult _ _)

theorem keeps_arrive_vote (hvoting : e.voting = some vr) (h : Keeps vr₀ src eventID V vr l)
    (hcounted : a.counted? = some b) (hb : Received V b) :
    ∃ vr', (arrive eventID e a).voting = some vr' ∧
      ((vr.Accepts eventID b.voter ∧ Keeps vr₀ src eventID V vr' (l ++ [b])) ∨
        (¬ vr.Accepts eventID b.voter ∧ Keeps vr₀ src eventID V vr' l)) := by
  have hregister := h.registerVote hb
  have hinternal : ∀ (result : VerificationResult) (broadcast : Bool), result.eventID = eventID →
      result.verifierID = b.voter → result.verdict = b.verdict → result.verifiedValue = b.value →
      ∃ vr', (e.processVoteInternal result broadcast).2.1.voting = some vr' ∧
        ((vr.Accepts eventID b.voter ∧ Keeps vr₀ src eventID V vr' (l ++ [b])) ∨
          (¬ vr.Accepts eventID b.voter ∧ Keeps vr₀ src eventID V vr' l)) := by
    rintro ⟨_, _, _, _⟩ broadcast rfl rfl rfl rfl
    obtain hplain | hmarked := voting_processVoteInternal hvoting _ broadcast
    · exact ⟨_, hplain, hregister⟩
    · refine ⟨_, hmarked, hregister.imp ?_ ?_⟩
      · exact fun ⟨haccepts, hkeeps⟩ => ⟨haccepts, hkeeps.markCallbackFired _⟩
      · exact fun ⟨hnot, hkeeps⟩ => ⟨hnot, hkeeps.markCallbackFired _⟩
  cases a with
  | registered b₀ =>
    cases hcounted
    exact ⟨_, by rw [arrive, hvoting]; rfl, hregister⟩
  | processed b₀ =>
    cases hcounted
    exact hinternal _ true rfl rfl rfl rfl
  | fromPeer b₀ =>
    cases hcounted
    exact hinternal _ false rfl rfl rfl rfl
  | restart eventIDs voters => cases hcounted

/-- The invariant of a node: its voting round counts some list of the votes. -/
def Counts (vr₀ : VotingRound) (src : ValidatorSetSource) (eventID : EventID) (V : List Ballot)
    (e : Engine) : Prop :=
  ∃ vr l, e.voting = some vr ∧ Keeps vr₀ src eventID V vr l

theorem counts_arrive (h : e.Counts vr₀ src eventID V)
    (hballot : ∀ b, a.ballot? = some b → b ∈ V) : (arrive eventID e a).Counts vr₀ src eventID V := by
  obtain ⟨vr, l, hvoting, hkeeps⟩ := h
  cases hcounted : a.counted? with
  | some b =>
    obtain ⟨vr', hvoting', ⟨-, hkeeps'⟩ | ⟨-, hkeeps'⟩⟩ :=
      keeps_arrive_vote hvoting hkeeps hcounted (Arrival.received_of_counted hcounted hballot)
    · exact ⟨vr', _, hvoting', hkeeps'⟩
    · exact ⟨vr', _, hvoting', hkeeps'⟩
  | none =>
    cases a with
    | restart eventIDs voters =>
      obtain ⟨l', hkeeps'⟩ := hkeeps.restartRound eventIDs voters
      exact ⟨_, l', by rw [arrive, hvoting]; rfl, hkeeps'⟩
    | registered b | processed b | fromPeer b => cases hcounted

end Arrivals

end Engine

end aethernet.ocs
