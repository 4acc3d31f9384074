import Aethernet.Consensus.Voting
import Aethernet.Ledger.Transfer

open golang aethernet event ledger consensus

namespace aethernet.ocs

def errQueueFull : Error := .new "ocs: pending queue full"
def errInsufficientStake : Error := .new "ocs: insufficient stake"
def errUnsupportedEventType : Error := .new "ocs: unsupported event type"
def errAlreadyPending : Error := .new "ocs: event already pending"
def errNotPending : Error := .new "ocs: event not in pending"

/-- `VerificationResult`, without the reason and the time, which nothing here reads. -/
structure VerificationResult where
  eventID : EventID
  verdict : Bool
  verifiedValue : UInt64 := 0
  verifierID : ledger.AgentID := ""

/-- `PendingItem`, without its deadline. -/
structure PendingItem where
  eventID : EventID
  eventType : EventType
  agentID : ledger.AgentID
  amount : UInt64
  recipientID : ledger.AgentID

structure EngineConfig where
  maxPendingItems : ℤ
  minStakeRequired : UInt64

/-- `Engine`: the pending and processed events and the voting round. The transfer ledger is shared with
    other components and passed to the calls that read it; metrics, event bus and the store of pending
    items only take notifications. -/
structure Engine where
  config : EngineConfig
  pending : Map EventID PendingItem := ∅
  processed : Finset EventID := ∅
  voting : Option VotingRound := none

variable (ev : Event) (result : VerificationResult)

namespace Engine

/-- The anonymous struct `SubmitFromSync` reads a task settlement's budget with. -/
def budgetDecoder : json.Decoder UInt64 :=
  json.struct "" "struct \x7b Budget uint64 \"json:\\\"budget\\\"\" \x7d" 0
    [json.field "budget" json.uint64 (fun budget => budget) fun _ x => x]

def setPending (agentID : ledger.AgentID) (amount : UInt64) (recipientID : ledger.AgentID) (e : Engine) : Engine :=
  let item := { eventID := ev.id, eventType := ev.type, agentID, amount, recipientID : PendingItem }
  { e with pending := e.pending.insert ev.id item }

/-- `Submit`; `transfer` is the transfer ledger at the time of the call. -/
def submit (transfer : TransferLedger) (ev : Event) (e : Engine) : Except Error Unit × Engine :=
  if ev.stakeAmount < e.config.minStakeRequired then
    (.error (.wrap "" errInsufficientStake
      s!": event has {ev.stakeAmount}, minimum is {e.config.minStakeRequired}"), e)
  else if e.config.maxPendingItems ≤ e.pending.len then
    (.error (.wrap "" errQueueFull s!": capacity {e.config.maxPendingItems} reached"), e)
  else if ev.id ∈ e.pending then (.error (.wrap "" errAlreadyPending s!": {ev.id}"), e)
  else match ev.type with
    | .transfer => match ev.transferPayload with
      | .error err => (.error (.wrap "ocs: decode transfer payload: " err ""), e)
      | .ok tp => match transfer.balanceCheck tp.fromAgent tp.amount with
        | .error err => (.error (.wrap "ocs: " err ""), e)
        | .ok () => (.ok (), e.setPending ev tp.fromAgent tp.amount tp.toAgent)
    | .generation => match ev.generationPayload with
      | .error _ => (.ok (), e.setPending ev ev.agentID 0 "")
      | .ok gp => (.ok (), e.setPending ev ev.agentID gp.claimedValue gp.beneficiaryAgent)
    | type => (.error (.wrap "" errUnsupportedEventType (": " ++ quote type.text)), e)

/-- `SubmitFromSync`, which checks no balance. -/
def submitFromSync (e : Engine) : Except Error Unit × Engine :=
  if ev.type ≠ .transfer ∧ ev.type ≠ .generation ∧ ev.type ≠ .taskSettlement then (.ok (), e)
  else if ev.settlementState ≠ .optimistic then (.ok (), e)
  else if ev.id ∈ e.pending then (.ok (), e)
  else if ev.id ∈ e.processed then (.ok (), e)
  else if e.config.maxPendingItems ≤ e.pending.len then
    (.error (.wrap "" errQueueFull s!": capacity {e.config.maxPendingItems} reached"), e)
  else match ev.type with
    | .transfer => match ev.transferPayload with
      | .error _ => (.ok (), e.setPending ev ev.agentID 0 "")
      | .ok tp => (.ok (), e.setPending ev tp.fromAgent tp.amount tp.toAgent)
    | .generation => match ev.generationPayload with
      | .error _ => (.ok (), e.setPending ev ev.agentID 0 "")
      | .ok gp => (.ok (), e.setPending ev ev.agentID gp.claimedValue gp.beneficiaryAgent)
    | _ => match json.unmarshal budgetDecoder ev.payload with
      | .error _ => (.ok (), e.setPending ev ev.agentID 0 "")
      | .ok budget => (.ok (), e.setPending ev ev.agentID budget "")

def processResult (e : Engine) : Except Error Unit × Engine :=
  if result.eventID ∈ e.processed then (.ok (), e)
  else if result.eventID ∉ e.pending then (.error (.wrap "" errNotPending s!": {result.eventID}"), e)
  else (.ok (), { e with
    pending := e.pending.erase result.eventID
    processed := insert result.eventID e.processed })

/-- The arguments of a call of the finalization handler. -/
structure Finalization where
  targetID : EventID
  verdict : Bool
  verifiedValue : UInt64
  finalOrder : UInt64

/-- `processVoteInternal`, with the call of the finalization handler it makes, if any. -/
def processVoteInternal (broadcast : Bool) (e : Engine) : Except Error Unit × Engine × Option Finalization :=
  match e.voting with
  | none =>
    if broadcast then
      let (err, e) := e.processResult result
      (err, e, none)
    else (.ok (), e, none)
  | some vr =>
    match vr.registerVote result.eventID result.verifierID result.verdict result.verifiedValue with
    | (.error _, vr) => (.ok (), { e with voting := some vr }, none)
    | (.ok (), vr) =>
      let (first, vr) := vr.markCallbackFired result.eventID
      let e := { e with voting := some vr }
      if !first then (.ok (), e, none)
      else match vr.getRecord result.eventID with
        | .error _ => (.ok (), e, none)
        | .ok rec =>
          let (_, e) := e.processResult
            { eventID := result.eventID, verdict := rec.finalVerdict, verifiedValue := rec.finalVerifiedValue }
          (.ok (), e, some
            { targetID := result.eventID, verdict := rec.finalVerdict
              verifiedValue := rec.finalVerifiedValue, finalOrder := rec.finalOrder })

/-- `ProcessVote`: a local vote, with its verified value. -/
def processVote (e : Engine) : Except Error Unit × Engine × Option Finalization :=
  e.processVoteInternal result true

/-- `AcceptPeerVote`: a peer's vote, for which the verified value is zero. -/
def acceptPeerVote (eventID : EventID) (voterID : ledger.AgentID) (verdict : Bool) (e : Engine) :
    Except Error Unit × Engine × Option Finalization :=
  e.processVoteInternal { eventID := eventID, verifierID := voterID, verdict := verdict } false

end Engine

end aethernet.ocs
