import Aethernet.Consensus.Finalization
import Aethernet.Ocs.Arrivals

open golang aethernet event consensus transition ocs.Engine

namespace aethernet.consensus.VotingRound

def MarksFinalized (vr : VotingRound) : Prop :=
  ∀ id, (vr.recordOf id).finalized = false → (vr.recordOf id).callbackFired = false

variable {vr : VotingRound}

theorem marksFinalized_of_no_records (hnone : vr.records = ∅) : vr.MarksFinalized := by
  intro id _
  rw [recordOf, hnone]
  rfl

theorem MarksFinalized.of_finalized {vr vr' : VotingRound} (h : vr.MarksFinalized)
    (hfinalized : ∀ id, (vr.recordOf id).finalized = true → (vr'.recordOf id).finalized = true)
    (hmarks : ∀ id, (vr'.recordOf id).callbackFired = (vr.recordOf id).callbackFired) : vr'.MarksFinalized := by
  intro id hopen
  rw [hmarks]
  refine h id (Bool.eq_false_iff.mpr fun hfinal => ?_)
  rw [hfinalized id hfinal] at hopen
  cases hopen

theorem MarksFinalized.registerVote (h : vr.MarksFinalized) (eventID : EventID) (b : Ballot) :
    (vr.registerVote eventID b.voter b.verdict b.value).2.MarksFinalized :=
  h.of_finalized (fun id hfinal => (finalized_registerVote_iff id).mpr (.inl hfinal)) callbackFired_registerVote

theorem MarksFinalized.registerAll (h : vr.MarksFinalized) (eventID : EventID)
    (ballots : List Ballot) : (vr.registerAll eventID ballots).MarksFinalized := by
  induction ballots generalizing vr with
  | nil => exact h
  | cons b ballots ih => exact ih (h.registerVote eventID b)

theorem MarksFinalized.registerEach (h : vr.MarksFinalized) (eventIDs : List EventID)
    (ballots : EventID → List Ballot) : (vr.registerEach eventIDs ballots).MarksFinalized := by
  induction eventIDs generalizing vr with
  | nil => exact h
  | cons id eventIDs ih => exact ih (h.registerAll id (ballots id))

variable {eventID : EventID} {record : VoteRecord}

theorem markCallbackFired_of_finalized (hlookup : vr.records.lookup eventID = some record)
    (hfinal : record.finalized = true) (hmark : record.callbackFired = false) : vr.markCallbackFired eventID =
      (true, { vr with records := vr.records.insert eventID { record with callbackFired := true } }) := by
  simp [markCallbackFired, hlookup, hfinal, hmark]

theorem finalized_insert_marked (hlookup : vr.records.lookup eventID = some record) (id : EventID) :
    (recordOf { vr with records := vr.records.insert eventID { record with callbackFired := true } } id).finalized =
      (vr.recordOf id).finalized := by
  by_cases heq : id = eventID
  · subst heq
    rw [recordOf_insert, recordOf, hlookup]
    rfl
  · simp only [recordOf, Finmap.lookup_insert_of_ne _ heq]
    rfl

theorem MarksFinalized.insert_marked (h : vr.MarksFinalized)
    (hlookup : vr.records.lookup eventID = some record) (hfinal : record.finalized = true) :
    MarksFinalized { vr with records := vr.records.insert eventID { record with callbackFired := true } } := by
  intro id hopen
  rw [finalized_insert_marked hlookup] at hopen
  by_cases heq : id = eventID
  · subst heq
    rw [recordOf, hlookup, Option.getD_some, hfinal] at hopen
    cases hopen
  · have hmark := h id hopen
    simp only [recordOf, Finmap.lookup_insert_of_ne _ heq] at hmark ⊢
    exact hmark

end aethernet.consensus.VotingRound

namespace aethernet.ocs

open consensus.VotingRound

namespace Engine

variable {e : Engine} {vr : VotingRound}

theorem voting_processResult (e : Engine) (result : VerificationResult) :
    (e.processResult result).2.voting = e.voting := by
  unfold processResult
  split_ifs <;> rfl

/-- What a vote leaves: its event's record is finalized in addition exactly if the vote decides, and then and only then
    the handler is called, for that event. -/
structure Votes (vr : VotingRound) (eventID : EventID) (b : Ballot) (after : Engine × Option Finalization) : Prop where
  round : ∃ vr', after.1.voting = some vr' ∧ vr'.MarksFinalized ∧ ∀ id, (vr'.recordOf id).finalized = true ↔
    (vr.recordOf id).finalized = true ∨ (id = eventID ∧ vr.Decides eventID b)
  call : (¬ vr.Decides eventID b ∧ after.2 = none) ∨
    (vr.Decides eventID b ∧ ∃ f, after.2 = some f ∧ f.targetID = eventID)

theorem votes_processVoteInternal (hvoting : e.voting = some vr) (hmarks : vr.MarksFinalized) (eventID : EventID)
    (b : Ballot) (broadcast : Bool) :
    Votes vr eventID b (e.processVoteInternal
      { eventID := eventID, verifierID := b.voter, verdict := b.verdict, verifiedValue := b.value } broadcast).2 := by
  have hmarked := hmarks.registerVote eventID b
  have hfinalized : ∀ id, ((vr.registerVote eventID b.voter b.verdict b.value).2.recordOf id).finalized = true ↔ _ :=
    finalized_registerVote_iff
  rw [processVoteInternal, hvoting]
  dsimp only
  by_cases haccepts : vr.Accepts eventID b.voter
  · -- the vote is counted; its tally may have finalized the record, whose mark is not set yet
    obtain ⟨hok, hlookup⟩ := registerVote_of_accepts haccepts
    have hfinal := (finalized_of_accepts haccepts).1
    have hmark : ((vr.registerVote eventID b.voter b.verdict b.value).2.recordOf eventID).callbackFired = false :=
      (callbackFired_registerVote eventID).trans (hmarks eventID haccepts.2.1)
    generalize vr.registerVote eventID b.voter b.verdict b.value = registered at *
    obtain ⟨err, after⟩ := registered
    subst hok
    generalize (tallyVotesLocked false (withVote (vr.recordOf eventID) b.voter b.verdict b.value)
      (vr.beforeTally eventID b)).1 = record at hlookup
    rw [recordOf, hlookup, Option.getD_some] at hfinal hmark
    by_cases hdecides : vr.Decides eventID b
    · rw [hdecides.2] at hfinal
      have hfired := markCallbackFired_of_finalized hlookup hfinal hmark
      simp only [hfired, Bool.not_true, Bool.false_eq_true, if_false, getRecord, Finmap.lookup_insert]
      refine ⟨⟨_, voting_processResult _ _, hmarked.insert_marked hlookup hfinal, ?_⟩, .inr ⟨hdecides, _, rfl, rfl⟩⟩
      intro id
      rw [finalized_insert_marked hlookup]
      exact hfinalized id
    · have hopen : record.finalized = false := by
        rw [hfinal]
        simpa [Decides, haccepts] using hdecides
      simp only [markCallbackFired, hlookup, hopen, Bool.not_false, true_or, if_true]
      exact ⟨⟨_, rfl, hmarked, hfinalized⟩, .inl ⟨hdecides, rfl⟩⟩
  · obtain ⟨-, ⟨err, herr⟩, -⟩ | ⟨hyes, -⟩ := registerVote_cases eventID b vr
    · generalize vr.registerVote eventID b.voter b.verdict b.value = registered at *
      obtain ⟨result, after⟩ := registered
      subst herr
      exact ⟨⟨_, rfl, hmarked, hfinalized⟩, .inl ⟨fun hdecides => haccepts hdecides.1, rfl⟩⟩
    · exact absurd hyes haccepts

end Engine

section Restart

variable {vr : VotingRound} {eventIDs : List EventID} {voters : EventID → List consensus.AgentID}

def reloadBallots (vr : VotingRound) (voters : EventID → List consensus.AgentID) (eventID : EventID) : List Ballot :=
  (storedVotes vr eventID (voters eventID)).map fun v => ⟨v.voterID, v.verdict, 0⟩

theorem voters_reloadBallots (vr : VotingRound) (voters : EventID → List consensus.AgentID) (eventID : EventID) :
    ((reloadBallots vr voters eventID).map Ballot.voter).Sublist (voters eventID) := by
  rw [reloadBallots, storedVotes, List.map_map]
  generalize voters eventID = order
  induction order with
  | nil => exact .slnil
  | cons voter order ih =>
    cases hvote : vr.persistedVote eventID voter with
    | none =>
      rw [List.filterMap_cons_none (by rw [hvote]; rfl)]
      exact ih.cons voter
    | some verdict =>
      rw [List.filterMap_cons_some (by rw [hvote]; rfl), List.map_cons]
      exact ih.cons_cons voter

theorem reloadBallots_eq_nil {eventID : EventID} (hnone : ∀ voter, vr.persistedVote eventID voter = none) :
    reloadBallots vr voters eventID = [] := by
  simp [reloadBallots, storedVotes, hnone]

theorem restartRound_eq (eventIDs : List EventID) (voters : EventID → List consensus.AgentID) (vr : VotingRound) :
    restartRound eventIDs voters vr =
      registerEach eventIDs (reloadBallots vr voters) { vr with records := ∅, orderSeq := 0 } := by
  rw [restartRound, loadPersistedVotes, registerEach]
  generalize { vr with records := ∅, orderSeq := 0 } = loaded
  induction eventIDs generalizing loaded with
  | nil => rfl
  | cons id eventIDs ih =>
    rw [List.foldl_cons, List.foldl_cons, ← ih, registerAll, reloadBallots, List.foldl_map]

theorem finalized_restartRound_iff {e : Engine} (hvoting : e.voting = some vr)
    (hpossible : e.Possible (.restart eventIDs voters)) (id : EventID) :
    ((restartRound eventIDs voters vr).recordOf id).finalized = true ↔
      vr.ReloadDecides id (reloadBallots vr voters id) := by
  have hsetup : SameSetup vr { vr with records := ∅, orderSeq := 0 } := ⟨rfl, rfl, rfl, rfl⟩
  have hempty : ∀ id, recordOf { vr with records := ∅, orderSeq := 0 } id = vr.newRecord id := fun id => rfl
  rw [restartRound_eq]
  by_cases hnone : reloadBallots vr voters id = []
  · rw [recordOf_registerEach_of_no_ballots fun _ => hnone, hnone, hempty]
    exact iff_of_false (by simp [newRecord]) not_reloadDecides_nil
  · obtain ⟨store, hstore⟩ : ∃ store, vr.persistence = some store := by
      by_contra hnot
      refine hnone (reloadBallots_eq_nil fun voter => ?_)
      rw [persistedVote, Option.eq_none_iff_forall_ne_some.mpr fun store h => hnot ⟨store, h⟩]
      rfl
    obtain ⟨⟨hnodup, hlisted⟩, hvoters⟩ := hpossible vr store hvoting hstore
    have hmem : id ∈ eventIDs := by
      by_contra hmem
      refine hnone (reloadBallots_eq_nil fun voter => ?_)
      rw [persistedVote, hstore, Option.bind_some, Finmap.getD,
        Finmap.lookup_eq_none.mpr fun h => hmem ((hlisted id).mpr h)]
      rfl
    exact finalized_registerEach_iff hnodup hsetup hempty hmem
      ((hvoters id).1.sublist (voters_reloadBallots vr voters id))

end Restart

/-- What happens to an engine: a local vote, a vote of a peer, a call of `TallyVotes`, a restart after which the store
    lists its events and their voters in these orders, or a change of what weights and committees are read from. -/
inductive VoteOp where
  | processVote (eventID : EventID) (b : Ballot)
  | acceptPeerVote (eventID : EventID) (voterID : consensus.AgentID) (verdict : Bool)
  | tallyVotes (eventID : EventID)
  | restart (eventIDs : List EventID) (voters : EventID → List consensus.AgentID)
  | setup (registry : Map consensus.AgentID Fingerprint) (validatorSet : Option ValidatorSetSource)
      (committeeSource : Option (EventID → Option (Map consensus.AgentID Bool)))

def VoteOp.vote? : VoteOp → Option (EventID × Ballot)
  | processVote eventID b => some (eventID, b)
  | acceptPeerVote eventID voterID verdict => some (eventID, ⟨voterID, verdict, 0⟩)
  | _ => none

/-- An engine and the calls of the finalization handler it has made, before its restarts too. -/
structure HandlerRun where
  engine : Engine
  calls : List Finalization := []

namespace HandlerRun

def callsFor (s : HandlerRun) (eventID : EventID) : ℕ := s.calls.countP fun f => f.targetID = eventID

def after (s : HandlerRun) (result : Except Error Unit × Engine × Option Finalization) : HandlerRun where
  engine := result.2.1
  calls := s.calls ++ result.2.2.toList

def mapRound (s : HandlerRun) (f : VotingRound → VotingRound) : HandlerRun :=
  { s with engine := { s.engine with voting := s.engine.voting.map f } }

def step (s : HandlerRun) : VoteOp → HandlerRun
  | .processVote eventID b => s.after (s.engine.processVote
      { eventID := eventID, verifierID := b.voter, verdict := b.verdict, verifiedValue := b.value })
  | .acceptPeerVote eventID voterID verdict => s.after (s.engine.acceptPeerVote eventID voterID verdict)
  | .tallyVotes eventID => s.mapRound fun vr => (vr.tallyVotes eventID).2
  | .restart eventIDs voters => { s with engine := s.engine.arrive "" (.restart eventIDs voters) }
  | .setup registry validatorSet committeeSource =>
    s.mapRound fun vr => { vr with registry, validatorSet, committeeSource }

/-- The store answers a restart with exactly what it holds. -/
def Possible (s : HandlerRun) : VoteOp → Prop
  | .restart eventIDs voters => s.engine.Possible (.restart eventIDs voters)
  | _ => True

def Finalized (s : HandlerRun) (eventID : EventID) : Prop :=
  ∃ vr, s.engine.voting = some vr ∧ (vr.recordOf eventID).finalized = true

/-- No event is acted on twice, and a finalized event has been acted on once whatever vote on it comes next. -/
def ActedOnce (s : HandlerRun) : Prop :=
  ∀ eventID, s.callsFor eventID ≤ 1 ∧ (s.Finalized eventID →
    ∀ op b, op.vote? = some (eventID, b) → (s.step op).callsFor eventID = 1)

/-- A vote finalizes an event only if the handler was not called for the event before, a tally or a reload only if it
    was. -/
def AnnouncedIn (vr : VotingRound) (s : HandlerRun) : VoteOp → Prop
  | .processVote eventID b => vr.Decides eventID b → s.callsFor eventID = 0
  | .acceptPeerVote eventID voterID verdict => vr.Decides eventID ⟨voterID, verdict, 0⟩ → s.callsFor eventID = 0
  | .tallyVotes eventID => vr.TallyDecides eventID → s.callsFor eventID = 1
  | .restart _ voters => ∀ id, vr.ReloadDecides id (reloadBallots vr voters id) → s.callsFor id = 1
  | .setup _ _ _ => True

def Announced (s : HandlerRun) (op : VoteOp) : Prop := ∀ vr, s.engine.voting = some vr → AnnouncedIn vr s op

def Marked (s : HandlerRun) : Prop := ∃ vr, s.engine.voting = some vr ∧ vr.MarksFinalized

def CalledOnce (s : HandlerRun) : Prop :=
  ∀ eventID, s.callsFor eventID ≤ 1 ∧ (s.Finalized eventID → s.callsFor eventID = 1)

variable {s : HandlerRun} {vr : VotingRound}

theorem finalized_iff (hvoting : s.engine.voting = some vr) (eventID : EventID) :
    s.Finalized eventID ↔ (vr.recordOf eventID).finalized = true := by
  simp [Finalized, hvoting]

variable {op : VoteOp} {eventID : EventID} {b : Ballot}

theorem votes_step (hvoting : s.engine.voting = some vr) (hmarks : vr.MarksFinalized)
    (hop : op.vote? = some (eventID, b)) :
    ∃ result, s.step op = s.after result ∧ Votes vr eventID b result.2 := by
  cases op with
  | processVote eventID b =>
    cases hop
    exact ⟨_, rfl, votes_processVoteInternal hvoting hmarks eventID b true⟩
  | acceptPeerVote eventID voterID verdict =>
    cases hop
    exact ⟨_, rfl, votes_processVoteInternal hvoting hmarks eventID ⟨voterID, verdict, 0⟩ false⟩
  | tallyVotes eventID => cases hop
  | restart eventIDs voters => cases hop
  | setup registry validatorSet committeeSource => cases hop

variable {result : Except Error Unit × Engine × Option Finalization}

theorem callsFor_after (hvotes : Votes vr eventID b result.2) (id : EventID) :
    (¬ vr.Decides eventID b ∧ (s.after result).callsFor id = s.callsFor id) ∨
    (vr.Decides eventID b ∧ (s.after result).callsFor id = s.callsFor id + if id = eventID then 1 else 0) := by
  rcases hvotes.call with ⟨hnot, hnone⟩ | ⟨hdecides, f, hsome, rfl⟩
  · refine .inl ⟨hnot, ?_⟩
    simp [after, callsFor, hnone]
  · refine .inr ⟨hdecides, ?_⟩
    simp [after, callsFor, hsome, List.countP_append, List.countP_singleton, eq_comm]

theorem callsFor_step_of_finalized (hmarked : s.Marked) (hop : op.vote? = some (eventID, b))
    (hfinal : s.Finalized eventID) : (s.step op).callsFor eventID = s.callsFor eventID := by
  obtain ⟨vr, hvoting, hmarks⟩ := hmarked
  obtain ⟨result, hstep, hvotes⟩ := votes_step hvoting hmarks hop
  rw [hstep]
  rcases callsFor_after (s := s) hvotes eventID with ⟨-, hcalls⟩ | ⟨hdecides, -⟩
  · exact hcalls
  · rw [finalized_iff hvoting, hdecides.1.2.1] at hfinal
    cases hfinal

theorem actedOnce_iff (hmarked : s.Marked) : s.ActedOnce ↔ s.CalledOnce := by
  constructor
  · intro h eventID
    refine ⟨(h eventID).1, fun hfinal => ?_⟩
    have hnext := (h eventID).2 hfinal (.acceptPeerVote eventID "" true) _ rfl
    rwa [callsFor_step_of_finalized hmarked rfl hfinal] at hnext
  · intro h eventID
    refine ⟨(h eventID).1, fun hfinal op b hop => ?_⟩
    rw [callsFor_step_of_finalized hmarked hop hfinal]
    exact (h eventID).2 hfinal

theorem marksFinalized_restartRound (eventIDs : List EventID) (voters : EventID → List consensus.AgentID)
    (vr : VotingRound) : (restartRound eventIDs voters vr).MarksFinalized := by
  rw [restartRound_eq]
  exact (marksFinalized_of_no_records rfl).registerEach eventIDs _

theorem Marked.step (h : s.Marked) (op : VoteOp) : (s.step op).Marked := by
  obtain ⟨vr, hvoting, hmarks⟩ := h
  cases hop : op.vote? with
  | some vote =>
    obtain ⟨result, hstep, hvotes⟩ := votes_step hvoting hmarks hop
    obtain ⟨vr', hvoting', hmarks', -⟩ := hvotes.round
    rw [hstep]
    exact ⟨vr', hvoting', hmarks'⟩
  | none =>
    cases op with
    | processVote eventID b => cases hop
    | acceptPeerVote eventID voterID verdict => cases hop
    | tallyVotes eventID =>
      refine ⟨(vr.tallyVotes eventID).2, congrArg (Option.map _) hvoting, ?_⟩
      exact hmarks.of_finalized (fun id hfinal => (finalized_tallyVotes_iff id).mpr (.inl hfinal))
        callbackFired_tallyVotes
    | restart eventIDs voters =>
      exact ⟨_, congrArg (Option.map _) hvoting, marksFinalized_restartRound eventIDs voters vr⟩
    | setup registry validatorSet committeeSource =>
      refine ⟨_, congrArg (Option.map _) hvoting, fun id hopen => ?_⟩
      have hmark := hmarks id
      simp only [recordOf] at hmark hopen ⊢
      cases hlookup : vr.records.lookup id with
      | none => rfl
      | some record =>
        rw [hlookup] at hmark hopen
        exact hmark hopen

theorem calledOnce_of_same_calls (h : s.CalledOnce) (s' : HandlerRun) (hcalls : s'.calls = s.calls) :
    s'.CalledOnce ↔ ∀ id, s'.Finalized id → s.callsFor id = 1 := by
  have hsame : ∀ id, s'.callsFor id = s.callsFor id := fun id => by rw [callsFor, hcalls, callsFor]
  simp only [CalledOnce, hsame]
  exact ⟨fun h' id => (h' id).2, fun h' id => ⟨(h id).1, h' id⟩⟩

theorem calledOnce_after_iff (h : s.CalledOnce) (hvoting : s.engine.voting = some vr)
    (hvotes : Votes vr eventID b result.2) :
    (s.after result).CalledOnce ↔ (vr.Decides eventID b → s.callsFor eventID = 0) := by
  obtain ⟨vr', hvoting', -, hfinalized⟩ := hvotes.round
  have hafter : ∀ id, (s.after result).Finalized id ↔ s.Finalized id ∨ (id = eventID ∧ vr.Decides eventID b) := by
    intro id
    rw [finalized_iff hvoting', finalized_iff hvoting]
    exact hfinalized id
  constructor
  · intro hcalled hdecides
    have hone := (hcalled eventID).1
    rcases callsFor_after (s := s) hvotes eventID with ⟨hnot, -⟩ | ⟨-, hcalls⟩
    · exact absurd hdecides hnot
    · rw [hcalls, if_pos rfl] at hone
      omega
  · intro hnew id
    rw [hafter]
    rcases callsFor_after (s := s) hvotes id with ⟨hnot, hcalls⟩ | ⟨hdecides, hcalls⟩
    · rw [hcalls]
      refine ⟨(h id).1, ?_⟩
      rintro (hfinal | ⟨-, hdecides⟩)
      · exact (h id).2 hfinal
      · exact absurd hdecides hnot
    · by_cases heq : id = eventID
      · subst heq
        rw [hcalls, if_pos rfl, hnew hdecides]
        exact ⟨le_rfl, fun _ => rfl⟩
      · rw [hcalls, if_neg heq]
        refine ⟨(h id).1, ?_⟩
        rintro (hfinal | ⟨hsame, -⟩)
        · exact (h id).2 hfinal
        · exact absurd hsame heq

/-- One operation keeps the calls and the finalized events together exactly if what it finalizes is announced. -/
theorem calledOnce_step_iff (hmarked : s.Marked) (h : s.CalledOnce) (hpossible : s.Possible op) :
    (s.step op).CalledOnce ↔ s.Announced op := by
  obtain ⟨vr, hvoting, hmarks⟩ := hmarked
  have hannounced : s.Announced op ↔ AnnouncedIn vr s op := by
    simp [Announced, hvoting]
  rw [hannounced]
  cases op with
  | processVote eventID b =>
    exact calledOnce_after_iff h hvoting (votes_processVoteInternal hvoting hmarks eventID b true)
  | acceptPeerVote eventID voterID verdict =>
    exact calledOnce_after_iff h hvoting
      (votes_processVoteInternal hvoting hmarks eventID ⟨voterID, verdict, 0⟩ false)
  | tallyVotes eventID =>
    have hvoting' : (s.step (.tallyVotes eventID)).engine.voting = some (vr.tallyVotes eventID).2 :=
      congrArg (Option.map _) hvoting
    refine (calledOnce_of_same_calls h (s.step (.tallyVotes eventID)) rfl).trans ?_
    simp only [finalized_iff hvoting', finalized_tallyVotes_iff, ← finalized_iff hvoting]
    refine ⟨fun hall hdecides => hall eventID (.inr ⟨rfl, hdecides⟩), fun hone id => ?_⟩
    rintro (hfinal | ⟨rfl, hdecides⟩)
    · exact (h id).2 hfinal
    · exact hone hdecides
  | restart eventIDs voters =>
    have hvoting' : (s.step (.restart eventIDs voters)).engine.voting = some (restartRound eventIDs voters vr) :=
      congrArg (Option.map _) hvoting
    refine (calledOnce_of_same_calls h (s.step (.restart eventIDs voters)) rfl).trans ?_
    simp [finalized_iff hvoting', finalized_restartRound_iff hvoting hpossible, AnnouncedIn]
  | setup registry validatorSet committeeSource =>
    refine (calledOnce_of_same_calls h (s.step (.setup registry validatorSet committeeSource)) rfl).trans
      (iff_of_true (fun id hfinal => (h id).2 ?_) trivial)
    obtain ⟨vr', hvoting', hfinal⟩ := hfinal
    cases Option.some.inj ((congrArg (Option.map _) hvoting).symm.trans hvoting')
    rw [finalized_iff hvoting]
    simp only [recordOf] at hfinal ⊢
    cases hlookup : vr.records.lookup id with
    | none =>
      rw [hlookup] at hfinal
      cases hfinal
    | some record =>
      rw [hlookup] at hfinal
      exact hfinal

/-- When finalization is acted on exactly once. An engine with a voting round that has no records yet goes through local
    votes, votes of peers, calls of `TallyVotes`, restarts and changes of the weights, and after a restart the store
    lists what it holds. After every operation no event has been acted on twice, and the next vote on any finalized
    event finds it acted on exactly once, if and only if every operation in its turn finalizes only as follows: a vote
    finalizes an event only if the handler was not called for it before, and a tally or the reload of the stored votes
    finalizes an event only if it was. -/
theorem actedOnce_along_iff {engine : Engine} {vr : VotingRound} (hvoting : engine.voting = some vr)
    (hnew : vr.records = ∅) (ops : List VoteOp) (hpossible : MeetsAlong step Possible { engine } ops) :
    MeetsAlong step (fun s op => (s.step op).ActedOnce) { engine } ops ↔
      MeetsAlong step Announced { engine } ops := by
  have hmarked : ({ engine } : HandlerRun).Marked := ⟨vr, hvoting, marksFinalized_of_no_records hnew⟩
  have hcalled : ({ engine } : HandlerRun).CalledOnce := by
    intro eventID
    refine ⟨Nat.zero_le 1, fun hfinal => ?_⟩
    rw [finalized_iff hvoting, recordOf, hnew] at hfinal
    cases hfinal
  refine Iff.trans ?_ (meetsAlong_iff (P := fun s => s.Marked ∧ s.CalledOnce) ⟨hmarked, hcalled⟩ ?_ hpossible)
  · -- marks are on finalized records all along, so the two properties agree in every state of the run
    constructor
    · exact MeetsAlong.imp hmarked (fun _ op h _ => h.step op)
        fun _ op h hacted => ⟨h.step op, (actedOnce_iff (h.step op)).mp hacted⟩
    · exact MeetsAlong.imp hmarked (fun _ op h _ => h.step op)
        fun _ op h hcalled => (actedOnce_iff (h.step op)).mpr hcalled.2
  · intro s op hs hop
    rw [← calledOnce_step_iff hs.1 hs.2 hop]
    exact ⟨fun h => h.2, fun h => ⟨hs.1.step op, h⟩⟩

variable (ops : List VoteOp)

section Sample

def sampleIdentity (stake : UInt64) : Fingerprint := ⟨10000, stake⟩

def sampleRegistry (stakeOfC : UInt64) : Map consensus.AgentID Fingerprint :=
  [("a", 10), ("b", 10), ("c", stakeOfC), ("d", 10), ("e", 10)].foldl
    (fun m (voter, stake) => m.insert voter (sampleIdentity stake)) ∅

def sampleEngine : Engine where
  config := ⟨100, 0⟩
  voting := some
    { config := ⟨.exact (667 / 1000), 10, 3⟩, registry := sampleRegistry 10, persistence := some ∅ }

def sampleVote (voter : consensus.AgentID) (verdict : Bool) : VoteOp := .acceptPeerVote "ev" voter verdict

def sampleRestart : VoteOp := .restart ["ev"] fun _ => ["a", "b", "c", "d", "e"]

def sampleRun : HandlerRun := ops.foldl step { engine := sampleEngine }

def sampleOutcome : ℕ × Option Bool :=
  ((sampleRun ops).callsFor "ev", (sampleRun ops).engine.voting.map fun vr => (vr.recordOf "ev").finalized)

theorem not_actedOnce_of_outcome {ops : List VoteOp} {n : ℕ} (houtcome : sampleOutcome ops = (n, some true))
    (hn : n ≠ 1) : ¬ (sampleRun ops).ActedOnce := by
  have hmarked : (sampleRun ops).Marked :=
    List.foldlRecOn ops step ⟨_, rfl, marksFinalized_of_no_records rfl⟩ fun _ h op _ => h.step op
  obtain ⟨hcalls, hfinal⟩ := Prod.mk.inj houtcome
  obtain ⟨vr, hvoting, hfinal⟩ := Option.map_eq_some_iff.mp hfinal
  intro hacted
  have hone := ((actedOnce_iff hmarked).mp hacted "ev").2 ⟨vr, hvoting, hfinal⟩
  exact hn (hcalls.symm.trans hone)

/-- Two of three voters approve and the third loses half its stake. -/
def finalizedByTally : List VoteOp :=
  [sampleVote "a" true, sampleVote "b" true, sampleVote "c" false, .setup (sampleRegistry 5) none none,
    .tallyVotes "ev", sampleVote "d" true]

/-- Two of five voters reject first, and after a restart the store lists the approving ones first. -/
def finalizedByReload : List VoteOp :=
  [sampleVote "d" false, sampleVote "e" false, sampleVote "a" true, sampleVote "b" true, sampleVote "c" true,
    sampleRestart, sampleVote "a" true]

/-- The votes on an event that was acted on arrive again after a restart. -/
def finalizedAgain : List VoteOp :=
  [sampleVote "a" true, sampleVote "b" true, sampleVote "c" true, .restart [] fun _ => [], sampleVote "a" true,
    sampleVote "b" true, sampleVote "c" true]

/-- `TallyVotes` or the reload finalizes the event and the vote that follows is refused without a call, or the handler
    is called twice. -/
theorem finalized_without_call_or_called_twice :
    (sampleOutcome finalizedByTally = (0, some true) ∧ ¬ (sampleRun finalizedByTally).ActedOnce) ∧
    (sampleOutcome finalizedByReload = (0, some true) ∧ ¬ (sampleRun finalizedByReload).ActedOnce) ∧
    sampleOutcome finalizedAgain = (2, some true) ∧ ¬ (sampleRun finalizedAgain).ActedOnce := by
  have houtcomes : sampleOutcome finalizedByTally = (0, some true) ∧
      sampleOutcome finalizedByReload = (0, some true) ∧ sampleOutcome finalizedAgain = (2, some true) := by
    decide +kernel
  obtain ⟨htally, hreload, hagain⟩ := houtcomes
  exact ⟨⟨htally, not_actedOnce_of_outcome htally (by decide)⟩,
    ⟨hreload, not_actedOnce_of_outcome hreload (by decide)⟩, hagain, not_actedOnce_of_outcome hagain (by decide)⟩

/-- Votes that finalize an event before any restart are acted on once. -/
theorem actedOnce_along_threeVotes :
    MeetsAlong step (fun s op => (s.step op).ActedOnce) { engine := sampleEngine }
      [sampleVote "a" true, sampleVote "b" true, sampleVote "c" true] := by
  have hpossible : MeetsAlong step Possible { engine := sampleEngine }
      [sampleVote "a" true, sampleVote "b" true, sampleVote "c" true] := ⟨trivial, trivial, trivial, trivial⟩
  refine (actedOnce_along_iff rfl rfl _ hpossible).mpr ⟨?_, ?_, ?_, trivial⟩
  all_goals
    intro vr _ _
    decide +kernel

end Sample

end HandlerRun

end aethernet.ocs
