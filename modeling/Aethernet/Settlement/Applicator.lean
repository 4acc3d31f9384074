import Aethernet.Dag.Invariant
import Aethernet.Fees.Collector
import Aethernet.Ledger.Generation
import Aethernet.Settlement.VerificationConsensusSettler
import Aethernet.Staking.StakeManager

open golang golang.json aethernet event dag ledger escrow tasks fees staking

namespace aethernet.settlement

structure VoterAttestation where
  voterID : String := ""
  verdict : String := ""
  weight : UInt64 := 0

def VoterAttestation.decoder : Decoder VoterAttestation :=
  struct "VoterAttestation" "settlement.VoterAttestation" {}
    [field "voter_id" string (·.voterID) fun p x => { p with voterID := x },
      field "verdict" string (·.verdict) fun p x => { p with verdict := x },
      field "weight" uint64 (·.weight) fun p x => { p with weight := x }]

/-- `SettlementPayload`. The applicator reads the target, the verdict and the value. -/
structure SettlementPayload where
  targetEventID : EventID
  verdict : String
  verifiedValue : UInt64
  version : UInt8 := 0
  consensusRound : UInt64 := 0
  attestations : List VoterAttestation := []

def SettlementPayload.decoder : Decoder SettlementPayload :=
  struct "SettlementPayload" "settlement.SettlementPayload"
    { targetEventID := "", verdict := "", verifiedValue := 0 }
    [field "v" uint8 (·.version) fun p x => { p with version := x },
      field "target_event_id" string (·.targetEventID) fun p x => { p with targetEventID := x },
      field "verdict" string (·.verdict) fun p x => { p with verdict := x },
      field "verified_value" uint64 (·.verifiedValue) fun p x => { p with verifiedValue := x },
      field "consensus_round" uint64 (·.consensusRound) fun p x => { p with consensusRound := x },
      field "attestations" (slice "settlement.VoterAttestation" VoterAttestation.decoder) (·.attestations)
        fun p x => { p with attestations := x }]

def verdictAccepted : String := "accepted"
def verdictRejected : String := "rejected"

variable (sp : SettlementPayload)

/-- The state a settlement with this verdict moves a transfer to. -/
def SettlementPayload.settleState : SettlementState :=
  if sp.verdict = verdictAccepted then .settled else .adjusted

structure TaskSettlementPayload where
  version : UInt8 := 0
  taskID : String := ""
  posterID : String := ""
  claimerID : String := ""
  budget : UInt64 := 0
  acceptanceHash : String := ""
  evidenceHash : String := ""
  category : String := ""
  scoreBP : UInt32 := 0
  holdGeneration : Bool := false

def TaskSettlementPayload.decoder : Decoder TaskSettlementPayload :=
  struct "TaskSettlementPayload" "settlement.TaskSettlementPayload" {}
    [field "v" uint8 (·.version) fun p x => { p with version := x },
      field "task_id" string (·.taskID) fun p x => { p with taskID := x },
      field "poster_id" string (·.posterID) fun p x => { p with posterID := x },
      field "claimer_id" string (·.claimerID) fun p x => { p with claimerID := x },
      field "budget" uint64 (·.budget) fun p x => { p with budget := x },
      field "acceptance_hash" string (·.acceptanceHash) fun p x => { p with acceptanceHash := x },
      field "evidence_hash" string (·.evidenceHash) fun p x => { p with evidenceHash := x },
      field "category" string (·.category) fun p x => { p with category := x },
      field "score_bp" uint32 (·.scoreBP) fun p x => { p with scoreBP := x },
      field "hold_generation" bool (·.holdGeneration) fun p x => { p with holdGeneration := x }]

/-- `eventLookup`: the DAG's `Get`, which finds an event under its own ID. -/
structure EventLookup where
  get : EventID → Except Error Event
  id_eq : ∀ id ev, get id = .ok ev → ev.id = id

/-- `Applicator`. The transfer ledger is the one of the escrow manager, and the task settler is the closure
    that `main` injects. Identity registry, event bus and metrics only take notifications. -/
structure Applicator where
  escrowMgr : Escrow
  generation : GenerationLedger := {}
  taskMgr : Option TaskManager := none
  escrowWired : Bool := true
  taskSettlerWired : Bool := true
  feeCollector : Option Collector := none
  treasuryID : ledger.AgentID := ""
  stakeManager : Option StakeManager := none
  applied : Finset EventID := ∅
  deferred : Map EventID SettlementPayload := ∅
  store : Option (Map EventID String) := none

/-- What a call finds around it: the DAG and the clocks. -/
structure ApplyEnv where
  lookup : EventLookup
  events : List Event := []
  recordAmb : Ambient
  settleAmb : Ambient
  amb : UInt64 → Ambient
  now : Time
  nowUnix : Int64

def eventLookup (d : DAG) (rep : d.Rep) : EventLookup where
  get id := d.get id
  id_eq _ _ hget := rep.id_of_get hget

/-- What a call of the applicator finds around it in a node with this DAG, whose `All` lists the events in the
    given order. -/
def ApplyEnv.within (d : DAG) (rep : d.Rep) (order : List EventID) (env : ApplyEnv) : ApplyEnv :=
  { env with lookup := eventLookup d rep, events := order.filterMap d.events.lookup }

def bucketTreasury : ledger.AgentID := "genesis:treasury"

def isProtocolInternalTransfer (reason : String) : Bool :=
  reason ∈ ["stake-lock", "stake-unlock", "escrow-lock", "escrow-release", "task-refund", "faucet-grant",
    "onboarding-grant", "node-bootstrap"]

variable (a : Applicator) (env : ApplyEnv) (payload : TaskSettlementPayload) (target : Event)

namespace Applicator

/-- The transfer ledger. -/
def transfer : TransferLedger := a.escrowMgr.ledger

def onEscrow (x : Method Escrow Unit) : Method Applicator Unit :=
  x.zoom (·.escrowMgr) fun a e => { a with escrowMgr := e }

def onTransfer (x : Method TransferLedger Unit) : Method Applicator Unit :=
  onEscrow (x.zoom (·.ledger) fun e l => { e with ledger := l })

def onGeneration (x : Method GenerationLedger Unit) : Method Applicator Unit :=
  x.zoom (·.generation) fun a g => { a with generation := g }

def onStakes (f : StakeManager → StakeManager) : Method Applicator Unit :=
  Method.write fun a => { a with stakeManager := a.stakeManager.map f }

def onFees (f : Collector → Collector) : Method Applicator Unit :=
  Method.write fun a => { a with feeCollector := a.feeCollector.map f }

/-- The task's escrow is settled by the verification consensus, so the task settler leaves it alone. -/
def settledByConsensus (taskID : String) (a : Applicator) : Bool :=
  match a.taskMgr with
  | none => false
  | some taskMgr => match taskMgr.getTask taskID with
    | .error _ => false
    | .ok task => task.status ∈ [.completed, .rejected, .disputedResolved]

/-- The part of the task settler that registers an escrow this node has not seen. -/
def catchUpEscrow : Method Applicator Unit := fun a =>
  if a.escrowMgr.isLocked payload.taskID then (.ok (), a)
  else match lookupEscrowLockTransfer env.events payload.taskID payload.posterID payload.budget with
    | .error err => (.error err, a)
    | .ok fundingRef =>
      onEscrow (Escrow.registerEscrow payload.taskID payload.posterID payload.budget fundingRef) a

/-- The task settler closure of `main`. -/
def settleTask : Method Applicator Unit := do
  let settled ← Method.read (settledByConsensus payload.taskID)
  if payload.claimerID = "" ∨ settled then pure ()
  else
    catchUpEscrow env payload
    let fee := calculateFee payload.budget
    let validatorAmount := fee * validatorShare / 100
    let treasuryAmount := fee * treasuryShare / 100
    (onEscrow (Escrow.releaseNet env.amb payload.taskID payload.claimerID (payload.budget - fee) ""
      validatorAmount bucketTreasury treasuryAmount)).wrapError "task-settler: escrow release: "
    onFees (Collector.trackFee fee (fee - validatorAmount - treasuryAmount) treasuryAmount)

/-- The bookkeeping of `applyTransfer` after an accepted transfer is settled. -/
def bookkeepTransfer (targetID : EventID) (tp : TransferPayload) : Method Applicator Unit :=
  if tp.reason = "escrow-lock" then fun a =>
    if a.escrowWired ∧ tp.taskID ≠ "" ∧ !a.escrowMgr.isLocked tp.taskID then
      (onEscrow (Escrow.registerEscrow tp.taskID tp.fromAgent tp.amount targetID)).ignoreError a
    else (.ok (), a)
  else if tp.reason = "stake-lock" then
    onStakes (StakeManager.recordCanonicalStake env.nowUnix tp.fromAgent tp.amount)
  else if tp.reason = "stake-unlock" then onStakes (StakeManager.recordCanonicalUnstake tp.toAgent tp.amount)
  else pure ()

/-- The transfer of a target that pays a fee. -/
def feePayer : Option TransferPayload :=
  if sp.verdict = verdictAccepted ∧ 0 < sp.verifiedValue ∧ target.type = .transfer then
    match target.transferPayload with
    | .error _ => none
    | .ok tp => if isProtocolInternalTransfer tp.reason then none else some tp
  else none

/-- The statistics of the fee of a target. -/
def trackFee : Method Applicator Unit :=
  match feePayer sp target with
  | some tp => onFees (Collector.trackCollected tp.amount)
  | none =>
    if sp.verdict = verdictAccepted ∧ 0 < sp.verifiedValue ∧ target.type = .generation then
      let fee := calculateFee sp.verifiedValue
      onFees (Collector.trackFee fee (fee - fee * validatorShare / 100 - fee * treasuryShare / 100)
        (fee * treasuryShare / 100))
    else pure ()

/-- The transfer of the fee. The applicator names no validator, so only the treasury has a share. -/
def payFee (sp : SettlementPayload) (target : Event) : Method Applicator Unit := fun a =>
  match feePayer sp target, a.feeCollector with
  | some tp, some c =>
    if c.treasuryAmount tp.amount = 0 ∨ a.treasuryID = "" then (.ok (), a)
    else
      (onTransfer fun l => l.transferFromBucketLabeled (env.amb l.bucketCounter) tp.toAgent a.treasuryID
        (c.treasuryAmount tp.amount) "fee-distribution:treasury-share" false).ignoreError a
  | _, _ => (.ok (), a)

/-- Mark a target as applied. -/
def markApplied : Applicator :=
  { a with
    applied := insert sp.targetEventID a.applied
    deferred := a.deferred.erase sp.targetEventID
    store := a.store.map fun stored => stored.insert sp.targetEventID sp.verdict }

end Applicator

/-- The atomic parts of `applyToTarget`, each with at most one write to a store, the task settler apart. -/
inductive Action where
  | recordTransfer
  | settleTransfer
  | bookkeepTransfer
  | recordGeneration
  | verifyGeneration
  | settleTask
  | recordIdentity
  | trackFee
  | payFee
  | recordActivity
  | markApplied
  deriving DecidableEq, Repr

namespace Action

/-- The parts of `applyToTarget` for a target of this type, in their order. -/
def ofType (type : EventType) : List Action :=
  (match type with
    | .transfer => [recordTransfer, settleTransfer, bookkeepTransfer]
    | .generation => [recordGeneration, verifyGeneration]
    | .taskSettlement => [settleTask]
    | _ => []) ++ [recordIdentity, trackFee, payFee, recordActivity, markApplied]

open Applicator in
def run (sp : SettlementPayload) (target : Event) : Action → Method Applicator Unit
  | recordTransfer =>
    (onTransfer fun l => l.recordFromSync env.recordAmb target).wrapError
      s!"settlement: record transfer {sp.targetEventID}: "
  | settleTransfer => onTransfer fun l => l.settle env.settleAmb sp.targetEventID sp.settleState
  | bookkeepTransfer =>
    if sp.verdict = verdictAccepted then
      match target.transferPayload with
      | .error _ => pure ()
      | .ok tp => Applicator.bookkeepTransfer env sp.targetEventID tp
    else pure ()
  | recordGeneration =>
    (onGeneration (GenerationLedger.recordFromSync env.now target)).wrapError
      s!"settlement: record generation {sp.targetEventID}: "
  | verifyGeneration =>
    if sp.verdict = verdictAccepted then
      onGeneration (GenerationLedger.verify sp.targetEventID sp.verifiedValue)
    else onGeneration (GenerationLedger.reject sp.targetEventID)
  | settleTask => fun a =>
    -- a rejected settlement leaves the escrow as it is
    if sp.verdict ≠ verdictAccepted ∨ !a.taskSettlerWired then (.ok (), a)
    else match unmarshal TaskSettlementPayload.decoder target.payload with
      | .error err => (.error (.wrap "settlement: decode TaskSettlementPayload: " err ""), a)
      | .ok payload => Applicator.settleTask env payload a
  | recordIdentity => pure ()
  | trackFee => Applicator.trackFee sp target
  | payFee => Applicator.payFee env sp target
  | recordActivity =>
    if sp.verdict = verdictAccepted then
      onStakes (StakeManager.recordActivity env.nowUnix target.agentID)
    else pure ()
  | markApplied => Method.write (Applicator.markApplied sp)

open Applicator in
/-- The writes of an action keep a property of the applicator. -/
structure Frame (P : Applicator → Prop) (action : Action) : Prop where
  transfer : action = recordTransfer ∨ action = settleTransfer → ∀ x, (onTransfer x).Keeps P
  generation : action = recordGeneration ∨ action = verifyGeneration → ∀ x, (onGeneration x).Keeps P
  register : ∀ taskID poster amount ref, (onEscrow (Escrow.registerEscrow taskID poster amount ref)).Keeps P
  release : action = settleTask → ∀ amb taskID claimerID netAmount validatorID validatorAmount treasuryID
    treasuryAmount,
    (onEscrow (Escrow.releaseNet amb taskID claimerID netAmount validatorID validatorAmount treasuryID
      treasuryAmount)).Keeps P
  pay : action = payFee → ∀ (amb : UInt64 → Ambient) fromID toID amount memo isGenesis, (onTransfer fun l =>
    l.transferFromBucketLabeled (amb l.bucketCounter) fromID toID amount memo isGenesis).Keeps P
  stakes : ∀ f, (onStakes f).Keeps P
  fees : ∀ f, (onFees f).Keeps P
  mark : action = markApplied → ∀ sp, (Method.write (Applicator.markApplied sp)).Keeps P

theorem Frame.run {P : Applicator → Prop} {action : Action} (h : action.Frame P) (sp : SettlementPayload) :
    (action.run env sp target).Keeps P := by
  have hregister := h.register
  have hpure : (pure () : Method Applicator Unit).Keeps P := Method.Keeps.pure ()
  cases action with
  | recordTransfer => exact (h.transfer (.inl rfl) _).wrapError
  | settleTransfer => exact h.transfer (.inr rfl) _
  | bookkeepTransfer =>
    refine Method.Keeps.ite (fun _ => ?_) fun _ => hpure
    split
    · exact hpure
    · refine Method.Keeps.ite (fun _ => ?_) fun _ => Method.Keeps.ite (fun _ => h.stakes _) fun _ =>
        Method.Keeps.ite (fun _ => h.stakes _) fun _ => hpure
      intro a ha
      dsimp only
      split
      · exact hregister _ _ _ _ a ha
      · exact ha
  | recordGeneration => exact (h.generation (.inl rfl) _).wrapError
  | verifyGeneration =>
    have hgeneration := h.generation (.inr rfl)
    exact Method.Keeps.ite (fun _ => hgeneration _) fun _ => hgeneration _
  | settleTask =>
    intro a ha
    simp only [Action.run]
    split
    · exact ha
    · split
      · exact ha
      · refine Method.Keeps.bind (Method.Keeps.read _) (fun settled => Method.Keeps.ite (fun _ => hpure)
          fun _ => ?_) a ha
        refine Method.Keeps.bind (fun a ha => ?_) fun _ =>
          Method.Keeps.bind (h.release rfl _ _ _ _ _ _ _ _).wrapError fun _ => h.fees _
        unfold Applicator.catchUpEscrow
        split
        · exact ha
        · split
          · exact ha
          · exact hregister _ _ _ _ a ha
  | recordIdentity => exact hpure
  | trackFee =>
    simp only [Action.run, Applicator.trackFee]
    split
    · exact h.fees _
    · exact Method.Keeps.ite (fun _ => h.fees _) fun _ => hpure
  | payFee =>
    intro a ha
    simp only [Action.run, Applicator.payFee]
    split
    · split
      · exact ha
      · exact h.pay rfl _ _ _ _ _ _ a ha
    · exact ha
  | recordActivity => exact Method.Keeps.ite (fun _ => h.stakes _) fun _ => hpure
  | markApplied => exact h.mark rfl sp

end Action

namespace Applicator

def applyToTarget (sp : SettlementPayload) (target : Event) : Method Applicator Unit :=
  forM (Action.ofType target.type) fun action => action.run env sp target

def deferTarget : Applicator :=
  if sp.targetEventID ∈ a.deferred then a
  else { a with deferred := a.deferred.insert sp.targetEventID sp }

def apply (sp : SettlementPayload) : Method Applicator Unit := fun a =>
  if sp.targetEventID ∈ a.applied then (.ok (), a)
  else match env.lookup.get sp.targetEventID with
    | .error _ => (.ok (), a.deferTarget sp)
    | .ok target => applyToTarget env sp target a

/-- One round of the loop of `reconcile`, whose error is only logged. -/
def reconcileTarget (sp : SettlementPayload) : Method Applicator Unit := fun a =>
  match env.lookup.get sp.targetEventID with
  | .error _ => (.ok (), a)
  | .ok target => applyToTarget env sp target a

end Applicator

variable (events : List Event)

section Sample

/-- A lookup among these events. -/
def EventLookup.ofList : EventLookup where
  get id := match events.find? (·.id = id) with
    | some ev => .ok ev
    | none => .error (.new "dag: event not found")
  id_eq id ev hget := by
    cases hfind : events.find? (·.id = id) with
    | none =>
      rw [hfind] at hget
      cases hget
    | some ev' =>
      rw [hfind] at hget
      cases hget
      simpa using List.find?_some hfind

def sampleApplyEnv : ApplyEnv where
  lookup := .ofList events
  recordAmb := { now := 0 }
  settleAmb := { now := 0 }
  amb _ := { now := 0 }
  now := 0
  nowUnix := 0

def accepted (id : EventID) : SettlementPayload where
  targetEventID := id
  verdict := verdictAccepted
  verifiedValue := 0

end Sample

end aethernet.settlement
