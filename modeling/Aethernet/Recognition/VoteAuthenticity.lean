import Aethernet.Consensus.Finalization
import Aethernet.Dag.Basic
import Aethernet.Ocs.Arrivals
import Aethernet.Recognition.DeliveryPaths

open golang aethernet event consensus ocs taskverification transition

namespace aethernet.recognition

structure VotePayload where
  version : UInt8 := 0
  targetEventID : String := ""
  voterID : String := ""
  verdict : String := ""
  verifiedValue : UInt64 := 0
  timestamp : Int64 := 0

def VotePayload.decoder : json.Decoder VotePayload :=
  json.struct "VotePayload" "recognition.VotePayload" {}
    [json.field "v" json.uint8 (·.version) fun p x => { p with version := x },
      json.field "target_event_id" json.string (·.targetEventID) fun p x => { p with targetEventID := x },
      json.field "voter_id" json.string (·.voterID) fun p x => { p with voterID := x },
      json.field "verdict" json.string (·.verdict) fun p x => { p with verdict := x },
      json.field "verified_value" json.uint64 (·.verifiedValue) fun p x => { p with verifiedValue := x },
      json.field "timestamp" json.int64 (·.timestamp) fun p x => { p with timestamp := x }]

variable (ev : Event)

namespace OCSVoteConsumer

def parsePayload : Except Error VotePayload :=
  match ev.payload with
  | .absent => .error (.new "nil payload")
  | raw => match json.unmarshal VotePayload.decoder raw with
    | .error err => .error err
    | .ok vp =>
      if vp.targetEventID = "" ∨ vp.voterID = "" then .error (.new "missing target_event_id or voter_id")
      else .ok vp

/-- `Consume`, on the engine that accepts the votes. -/
def consume (e : Engine) : Except Error Unit × Engine × Option Engine.Finalization :=
  match parsePayload ev with
  | .error _ => (.ok (), e, none)
  | .ok vp => e.acceptPeerVote vp.targetEventID vp.voterID (vp.verdict = "accepted")

end OCSVoteConsumer

/-- The rounds and the engine of a node. Rounds are stored under their own IDs. -/
structure VoteNode where
  rounds : Rounds
  engine : Engine
  filed : rounds.Filed

/-- A vote event goes to one of the two consumers, or the rest of the node leaves some other rounds and engine. -/
inductive VoteStep where
  | taskVerificationVote (env : VoteEnv) (ev : Event)
  | ocsVote (ev : Event)
  | elsewhere (node : VoteNode)

variable (c : TaskVerificationVoteConsumer) (s : VoteNode) (env : VoteEnv)

namespace VoteNode

def step : VoteStep → VoteNode
  | .taskVerificationVote env ev =>
    { s with rounds := (c.consume env ev s.rounds).2, filed := Filed.deliver s.filed ⟨.consumer, env, ev⟩ }
  | .ocsVote ev => { s with engine := (OCSVoteConsumer.consume ev s.engine).2.1 }
  | .elsewhere node => node

/-- Every vote that the step adds to a round or a voting record is attributed to the signer of the event. -/
def Attributed : VoteStep → Prop
  | .taskVerificationVote env ev => ∀ id before after, s.rounds.stored.lookup id = some before →
      (s.step c (.taskVerificationVote env ev)).rounds.stored.lookup id = some after →
      ∀ vote ∈ after.votes.drop before.votes.length, vote.validatorID = ev.agentID
  | .ocsVote ev => ∀ before after, s.engine.voting = some before →
      (s.step c (.ocsVote ev)).engine.voting = some after →
      ∀ id voter, voter ∈ (after.recordOf id).votes → voter ∉ (before.recordOf id).votes → voter = ev.agentID
  | .elsewhere _ => True

/-- A vote that passes the checks of its consumer names the signer of the event. -/
def NamesSigner : VoteStep → Prop
  | .taskVerificationVote env ev => ∀ payload round vote,
      json.unmarshal TaskVerificationVotePayload.decoder ev.payload = .ok payload →
      s.rounds.stored.lookup payload.roundID = some round → castVote env payload = some vote →
      round.isTerminal = true ∨ round.NewTo vote → payload.validatorID = ev.agentID
  | .ocsVote ev => ∀ vp vr, OCSVoteConsumer.parsePayload ev = .ok vp → s.engine.voting = some vr →
      vr.Accepts vp.targetEventID vp.voterID → vp.voterID = ev.agentID
  | .elsewhere _ => True

section TaskVerification

theorem validatorID_of_castVote {env : VoteEnv} {payload : TaskVerificationVotePayload}
    {vote : TaskVerificationVoteRecord} (h : castVote env payload = some vote) :
    vote.validatorID = payload.validatorID := by
  unfold castVote at h
  split_ifs at h
  unfold eligibleVote at h
  split at h
  · cases h
    rfl
  · cases h

theorem votes_consumeRound (vote : TaskVerificationVoteRecord) (round : TaskVerificationRound) :
    (c.consumeRound env vote round).votes =
      if round.isTerminal = true ∨ round.NewTo vote then round.votes ++ [vote] else round.votes := by
  unfold TaskVerificationVoteConsumer.consumeRound
  by_cases hterminal : round.isTerminal = true
  · simp [hterminal, recordPostFinalizationVote]
  · by_cases hnew : round.NewTo vote
    · rw [if_neg hterminal, if_pos hnew, if_pos (.inr hnew), ← votes_recordVote]
      unfold TaskVerificationVoteConsumer.finalizedRound
      split <;> rfl
    · simp [hterminal, hnew]

theorem attributed_taskVerificationVote_iff (ev : Event) :
    s.Attributed c (.taskVerificationVote env ev) ↔ s.NamesSigner (.taskVerificationVote env ev) := by
  have hafter : ∀ id, (s.step c (.taskVerificationVote env ev)).rounds.stored.lookup id = _ :=
    lookup_deliver (c := c) s.filed ⟨.consumer, env, ev⟩
  simp only [Attributed, NamesSigner, hafter, Delivery.cast, Delivery.update, castOn]
  cases hev : json.unmarshal TaskVerificationVotePayload.decoder ev.payload with
  | error err =>
    refine iff_of_true ?_ fun _ _ _ hok => by cases hok
    intro id before after hbefore heq vote hvote
    rw [hbefore] at heq
    cases heq
    simp at hvote
  | ok payload =>
    dsimp only
    constructor
    · rintro h _ round vote ⟨⟩ hround hcast hcounts
      have hvote := h payload.roundID round (c.consumeRound env vote round) hround
        (by rw [hround, if_pos rfl, hcast]; rfl) vote
      rw [votes_consumeRound, if_pos hcounts, List.drop_left] at hvote
      rw [← validatorID_of_castVote hcast]
      exact hvote List.mem_cons_self
    · intro h id before after hbefore heq vote hvote
      rw [hbefore, Option.map_some] at heq
      cases Option.some.inj heq
      by_cases hid : payload.roundID = id
      · rw [if_pos hid] at hvote
        cases hcast : castVote env payload with
        | none => simp [hcast] at hvote
        | some cast =>
          simp only [hcast, Option.elim_some, votes_consumeRound] at hvote
          split_ifs at hvote with hcounts
          · rw [List.drop_left, List.mem_singleton] at hvote
            rw [hvote, validatorID_of_castVote hcast]
            exact h payload before cast rfl (hid ▸ hbefore) hcast hcounts
          · simp at hvote
      · simp [hid] at hvote

end TaskVerification

section OCS

open VotingRound

theorem votes_markCallbackFired (vr : VotingRound) (firedID id : EventID) :
    ((vr.markCallbackFired firedID).2.recordOf id).votes = (vr.recordOf id).votes := by
  unfold markCallbackFired
  cases hlookup : vr.records.lookup firedID with
  | none => rfl
  | some record =>
    dsimp only
    split_ifs
    · rfl
    · by_cases heq : id = firedID
      · subst heq
        rw [recordOf_insert, recordOf, hlookup]
        rfl
      · simp only [recordOf, Finmap.lookup_insert_of_ne _ heq]
        rfl

theorem attributed_ocsVote_iff (ev : Event) : s.Attributed c (.ocsVote ev) ↔ s.NamesSigner (.ocsVote ev) := by
  simp only [Attributed, NamesSigner, step, OCSVoteConsumer.consume]
  cases hparse : OCSVoteConsumer.parsePayload ev with
  | error err =>
    refine iff_of_true ?_ fun _ _ hok => by cases hok
    intro before after hbefore hafter id voter hin hnot
    cases Option.some.inj (hbefore.symm.trans hafter)
    exact absurd hin hnot
  | ok vp =>
    -- marking the callback does not touch the votes
    have hvotes : ∀ before after, s.engine.voting = some before →
        (s.engine.acceptPeerVote vp.targetEventID vp.voterID (vp.verdict = "accepted")).2.1.voting = some after →
        ∀ id voter, voter ∈ (after.recordOf id).votes ↔ voter ∈ (before.recordOf id).votes ∨
          (id = vp.targetEventID ∧ voter = vp.voterID ∧ before.Accepts vp.targetEventID vp.voterID) := by
      intro before after hbefore hafter id voter
      have hregister := mem_votes_registerVote_iff before vp.targetEventID
        ⟨vp.voterID, vp.verdict = "accepted", 0⟩ id voter
      obtain hplain | hmarked := Engine.voting_processVoteInternal hbefore
        { eventID := vp.targetEventID, verifierID := vp.voterID, verdict := vp.verdict = "accepted" } false
      · cases Option.some.inj (hafter.symm.trans hplain)
        exact hregister
      · cases Option.some.inj (hafter.symm.trans hmarked)
        rw [votes_markCallbackFired]
        exact hregister
    constructor
    · rintro h _ vr ⟨⟩ hvoting haccepts
      obtain ⟨after, hafter⟩ : ∃ after,
          (s.engine.acceptPeerVote vp.targetEventID vp.voterID (vp.verdict = "accepted")).2.1.voting = some after := by
        obtain hplain | hmarked := Engine.voting_processVoteInternal hvoting
          { eventID := vp.targetEventID, verifierID := vp.voterID, verdict := vp.verdict = "accepted" } false
        · exact ⟨_, hplain⟩
        · exact ⟨_, hmarked⟩
      exact h vr after hvoting hafter vp.targetEventID vp.voterID
        ((hvotes vr after hvoting hafter _ _).mpr (.inr ⟨rfl, rfl, haccepts⟩)) haccepts.2.2.2
    · intro h before after hbefore hafter id voter hin hnot
      rcases (hvotes before after hbefore hafter id voter).mp hin with hold | ⟨-, rfl, haccepts⟩
      · exact absurd hold hnot
      · exact h vp before rfl hbefore haccepts

end OCS

/-- When votes are their signers' own. Vote events with arbitrary payloads go to the two consumers in any order, while
    the rest of the node may do anything to the rounds and the engine. Every vote that a consumer adds to a round or a
    voting record is attributed to the signer of its event if and only if every vote that passes the checks of its
    consumer names the signer in its payload. -/
theorem attributed_along_iff (steps : List VoteStep) :
    MeetsAlong (step c) (Attributed c) s steps ↔ MeetsAlong (step c) NamesSigner s steps := by
  refine meetsAlong_congr fun s op _ => ?_
  cases op with
  | taskVerificationVote env ev => exact attributed_taskVerificationVote_iff c s env ev
  | ocsVote ev => exact attributed_ocsVote_iff c s ev
  | elsewhere node => rfl

section Sample

/-- Someone signs a vote that the payload says is the validator's. -/
def forgedTaskVote : Event :=
  { passVote "ka" "llm_semantic" with
    payload := .document (.obj
      [("round_id", .str sampleRound.roundID), ("validator_id", .str "ka"), ("verdict", .str "fail"),
        ("analyzer_family", .str "llm_semantic")]) }.signed

def forgedOCSVote : Event :=
  { passVote "" "" with
    id := "vote"
    type := .verificationVote
    payload := .document (.obj
      [("target_event_id", .str "ev"), ("voter_id", .str "ka"), ("verdict", .str "rejected")]) }.signed

def sampleNode : VoteNode where
  rounds := sampleRounds
  engine :=
    { config := ⟨100, 0⟩
      voting := some { config := ⟨.exact (667 / 1000), 10, 3⟩, registry := Finmap.singleton "ka" ⟨10000, 10⟩ } }
  filed := sampleRounds_filed

/-- The validators and verdicts of the votes in the sample round. -/
def roundVotes : Option (List (String × Verdict)) :=
  (s.rounds.stored.lookup sampleRound.roundID).map fun round => round.votes.map fun v => (v.validatorID, v.verdict)

/-- The verdict recorded for the validator. -/
def recordedVote : Option Bool :=
  s.engine.voting.bind fun vr => (vr.recordOf "ev").votes.lookup "ka"

def afterForgeries : VoteNode :=
  [.taskVerificationVote sampleEnv forgedTaskVote, .ocsVote forgedOCSVote,
    .taskVerificationVote sampleEnv (passVote "ka" "llm_semantic")].foldl (step sampleConsumer) sampleNode

/-- The DAG accepts both events. The votes of another key count as the validator's, and the validator's own vote is
    refused after them. -/
theorem votes_of_another :
    ((({} : dag.DAG).add sampleCrypto none forgedTaskVote).1.isOk = true ∧
      (({} : dag.DAG).add sampleCrypto none forgedOCSVote).1.isOk = true ∧
      forgedTaskVote.agentID ≠ "ka" ∧ forgedOCSVote.agentID ≠ "ka") ∧
    (afterForgeries.roundVotes = some [("ka", .fail)] ∧ afterForgeries.recordedVote = some false) ∧
    ¬ sampleNode.Attributed sampleConsumer (.taskVerificationVote sampleEnv forgedTaskVote) ∧
    ¬ sampleNode.Attributed sampleConsumer (.ocsVote forgedOCSVote) := by
  have hforged : (sampleNode.step sampleConsumer (.taskVerificationVote sampleEnv forgedTaskVote)).roundVotes =
        some [("ka", .fail)] ∧
      (sampleNode.step sampleConsumer (.ocsVote forgedOCSVote)).recordedVote = some false ∧
      forgedTaskVote.agentID ≠ "ka" ∧ forgedOCSVote.agentID ≠ "ka" := by
    decide +kernel
  obtain ⟨htask, hocs, hother, hother'⟩ := hforged
  refine ⟨by decide +kernel, by decide +kernel, fun h => ?_, fun h => ?_⟩
  · obtain ⟨after, hafter, hvotes⟩ := Option.map_eq_some_iff.mp htask
    obtain ⟨vote, hvote, hka⟩ : ∃ vote ∈ after.votes, (vote.validatorID, vote.verdict) = ("ka", Verdict.fail) := by
      rw [← List.mem_map, hvotes]
      exact List.mem_singleton_self _
    have hsigner := h sampleRound.roundID sampleRound after (Finmap.lookup_insert _) hafter vote hvote
    exact hother (hsigner.symm.trans (Prod.mk.inj hka).1)
  · obtain ⟨after, hafter, hlookup⟩ := Option.bind_eq_some_iff.mp hocs
    have hsigner := h _ after rfl hafter "ev" "ka" (Finmap.mem_of_lookup_eq_some hlookup) Finmap.notMem_empty
    exact hother' hsigner.symm

end Sample

end VoteNode

end aethernet.recognition
