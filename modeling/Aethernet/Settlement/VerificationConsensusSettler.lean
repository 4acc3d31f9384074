import Aethernet.Accounting.Remainder
import Aethernet.Escrow.Escrow
import Aethernet.Tasks.Manager
import Aethernet.TaskVerification.Round

open golang aethernet event ledger escrow tasks taskverification accounting

namespace aethernet.settlement

/-- `RoyaltyRecipient`; the float fields are exact rationals. -/
structure RoyaltyRecipient where
  eventID : EventID
  agentID : String
  depth : ℕ
  weight : ℚ
  amount : UInt64

structure GenerationLedgerDistribution where
  recipients : List RoyaltyRecipient := []
  treasury : UInt64 := 0
  total : UInt64 := 0

def generationLedgerMaxDepth : ℕ := 3

/-- `GenerationLedgerCalculator`. A failing `Get` finds nothing. -/
structure GenerationLedgerCalculator where
  dag : Option (EventID → Option Event)
  qualityFn : EventID → ℚ

/-- An ancestor the traversal collects. -/
structure Ancestor where
  id : EventID
  agentID : String
  depth : ℕ
  weight : ℚ

/-- The state of the traversal: what is visited, what is queued, and the ancestors collected. -/
structure Traversal where
  visited : Finset EventID
  queue : List EventID
  ancestors : List Ancestor := []

def Traversal.enqueue (refs : List EventID) (t : Traversal) : Traversal :=
  refs.foldl (fun t ref =>
    if ref ∈ t.visited then t
    else { t with queue := t.queue ++ [ref], visited := insert ref t.visited }) t

variable (g : GenerationLedgerCalculator) (get : EventID → Option Event)

namespace GenerationLedgerCalculator

/-- One queue entry of a depth up to the maximum. -/
def visitAncestor (depth : ℕ) (t : Traversal) (id : EventID) : Traversal :=
  match get id with
  | none => t
  | some ev =>
    let found := { id, agentID := ev.agentID, depth, weight := 1 / ((depth * depth : ℕ) : ℚ) * g.qualityFn id :
      Ancestor }
    let t := { t with ancestors := t.ancestors ++ [found] }
    if depth < generationLedgerMaxDepth then t.enqueue ev.refs else t

def visitDepth (t : Traversal) (depth : ℕ) : Traversal :=
  t.queue.foldl (g.visitAncestor get depth) { t with queue := [] }

/-- The ancestors of an event, breadth first. -/
def ancestors (id : EventID) (ev : Event) : List Ancestor :=
  let start := Traversal.enqueue ev.refs { visited := {id}, queue := [] }
  ([1, 2, 3].foldl (g.visitDepth get) start).ancestors

def calculate (acceptedTaskEventID : EventID) (poolMicroAET : UInt64) : GenerationLedgerDistribution :=
  let toTreasury := { treasury := poolMicroAET, total := poolMicroAET : GenerationLedgerDistribution }
  match g.dag with
  | none => toTreasury
  | some get =>
    if poolMicroAET = 0 then toTreasury
    else match get acceptedTaskEventID with
      | none => toTreasury
      | some ev =>
        let ancestors := g.ancestors get acceptedTaskEventID ev
        let totalWeight := (ancestors.map Ancestor.weight).sum
        if ancestors = [] ∨ totalWeight = 0 then toTreasury
        else
          let shares := assignRemainder poolMicroAET (proportional poolMicroAET Ancestor.weight totalWeight) 0
            ancestors
          let allocated := (shares.map Prod.snd).sum
          { recipients := shares.map fun (a, share) =>
              { eventID := a.id, agentID := a.agentID, depth := a.depth, weight := a.weight / totalWeight
                amount := share }
            treasury := if allocated < poolMicroAET then poolMicroAET - allocated else 0
            total := poolMicroAET }

end GenerationLedgerCalculator

def errFundingTransferNotFound : Error := .new "settlement: funding transfer not found in DAG"

def workerShareBP : UInt64 := 7300
def validatorShareBP : UInt64 := 2300
def generationShareBP : UInt64 := 200

/-- The event is the canonical transfer that funds this escrow. -/
def isEscrowLockTransfer (taskID : String) (poster : ledger.AgentID) (amount : UInt64) (e : Event) : Bool :=
  if e.type ≠ .transfer then false
  else match e.transferPayload with
    | .error _ => false
    | .ok tp => tp.reason = "escrow-lock" && tp.fromAgent = poster && tp.toAgent = "escrow:" ++ taskID &&
        tp.amount = amount && tp.taskID = taskID

/-- `LookupEscrowLockTransfer`; `events` is what the scanner's `All` returns. -/
def lookupEscrowLockTransfer (events : List Event) (taskID : String) (poster : ledger.AgentID)
    (amount : UInt64) : Except Error EventID :=
  match events.find? (isEscrowLockTransfer taskID poster amount) with
  | some e => .ok e.id
  | none => .error (.wrap "" errFundingTransferNotFound s!": task={taskID} poster={poster} amount={amount}")

/-- `TaskVerificationConsensusPayload`, with the fields the settler reads. -/
structure TaskVerificationConsensusPayload where
  taskID : String := ""
  submissionEventID : EventID := ""
  workerID : ledger.AgentID := ""
  posterID : ledger.AgentID := ""
  finalVerdict : String := ""

structure SettleResult where
  applied : Bool := false
  alreadyApplied : Bool := false
  verdict : String
  workerPayout : UInt64 := 0
  posterRefund : UInt64 := 0
  validatorPayouts : Map ledger.AgentID UInt64 := ∅
  generationLedger : GenerationLedgerDistribution := {}
  treasuryAmount : UInt64 := 0
  totalDistributed : UInt64 := 0

/-- `VerificationConsensusSettler`. The transfer ledger is the one of the escrow manager, and the float factors
    are exact rationals. -/
structure VerificationConsensusSettler where
  taskMgr : TaskManager
  escrowMgr : Escrow
  dagScanner : Option (List Event) := none
  genLedger : Option GenerationLedgerCalculator := none
  treasuryID : ledger.AgentID
  qScoreFn : Option (ledger.AgentID → String → String → ℚ) := none

/-- What a call finds around it: the clock and ambient of each transfer, the time of the task's completion and
    the orders of the loops over maps. -/
structure SettleEnv where
  amb : UInt64 → Ambient
  now : ℤ
  order : RangeOrder ledger.AgentID UInt64
  genOrder : RangeOrder ledger.AgentID UInt64

/-- `collectAgreeingValidators`: the validators with this verdict, in the order of their first such vote. -/
def collectAgreeingValidators (round : TaskVerificationRound) (verdict : Verdict) : List ledger.AgentID :=
  round.votes.foldl (fun result v =>
    if v.verdict = verdict ∧ v.validatorID ∉ result then result ++ [v.validatorID] else result) []

variable (s : VerificationConsensusSettler) (budget : UInt64) (payload : TaskVerificationConsensusPayload)
  (env : SettleEnv)

namespace VerificationConsensusSettler

/-- The quality score of a validator, one without a score function. -/
def scoreOf (category : String) (v : ledger.AgentID) : ℚ :=
  match s.qScoreFn with
  | none => 1
  | some q => q v "" category

/-- `computeValidatorPayouts`: quality-weighted shares, or equal ones when all scores are zero. -/
def computeValidatorPayouts (recipients : List ledger.AgentID) (pool : UInt64) (category : String) :
    Map ledger.AgentID UInt64 :=
  if recipients = [] ∨ pool = 0 then ∅
  else
    let totalQ := (recipients.map (s.scoreOf category)).sum
    let share v :=
      if totalQ = 0 then equalShare pool recipients.length
      else proportional pool (s.scoreOf category) totalQ v
    Finmap.ofInserts ((assignRemainder pool share 0 recipients).filter fun p => 0 < p.2)

/-- The amounts a verdict gives to the escrow to release. -/
structure Payouts where
  worker : ledger.AgentID := ""
  workerAmount : UInt64 := 0
  posterRefundAmount : UInt64 := 0
  validators : Map ledger.AgentID UInt64 := ∅
  genRecipients : Map ledger.AgentID UInt64 := ∅
  treasuryAmount : UInt64

/-- The validators' part of an accepted or rejected task: their payouts and what goes to the treasury
    instead when none of them agrees. -/
def validatorPart (round : TaskVerificationRound) (verdict : Verdict) (pool : UInt64) :
    Map ledger.AgentID UInt64 × UInt64 :=
  match collectAgreeingValidators round verdict with
  | [] => (∅, pool)
  | agreeing => (s.computeValidatorPayouts agreeing pool round.category, 0)

def generationPart (submissionEventID : EventID) (pool : UInt64) : GenerationLedgerDistribution :=
  match s.genLedger with
  | none => { treasury := pool }
  | some g => g.calculate submissionEventID pool

def genRecipientsOf (dist : GenerationLedgerDistribution) : Map ledger.AgentID UInt64 :=
  Finmap.ofInserts ((dist.recipients.filter fun r => 0 < r.amount).map fun r => (r.agentID, r.amount))

/-- The amounts of `settleAccept`. -/
def acceptPayouts (round : TaskVerificationRound) : Payouts :=
  let workerAmount := budget * workerShareBP / 10000
  let validatorPool := budget * validatorShareBP / 10000
  let genPool := budget * generationShareBP / 10000
  let (validators, unclaimed) := s.validatorPart round .pass validatorPool
  let dist := s.generationPart payload.submissionEventID genPool
  { worker := payload.workerID
    workerAmount
    validators
    genRecipients := genRecipientsOf dist
    treasuryAmount := budget - workerAmount - validatorPool - genPool + unclaimed + dist.treasury }

/-- The amounts of `settleReject`. -/
def rejectPayouts (round : TaskVerificationRound) : Payouts :=
  let posterAmount := budget * workerShareBP / 10000
  let validatorPool := budget * validatorShareBP / 10000
  let (validators, unclaimed) := s.validatorPart round .fail validatorPool
  { posterRefundAmount := posterAmount
    validators
    treasuryAmount := budget - posterAmount - validatorPool + unclaimed }

/-- The amounts of `settleDispute`. -/
def disputePayouts : Payouts :=
  let workerPortion := budget * workerShareBP / 10000
  let workerAmount := workerPortion / 2
  { worker := payload.workerID
    workerAmount
    posterRefundAmount := workerPortion - workerAmount
    treasuryAmount := budget - workerPortion }

/-- `sumPayouts` and `sumGenLedger`. -/
def Payouts.total (p : Payouts) (dist : GenerationLedgerDistribution) : UInt64 :=
  p.workerAmount + p.posterRefundAmount + p.validators.sumBy id + (dist.recipients.map (·.amount)).sum
    + p.treasuryAmount

/-- The end of the three settlements: release the payouts from the escrow, then resolve the task. -/
def finishSettlement (payload : TaskVerificationConsensusPayload) (verdict : String) (p : Payouts)
    (result : SettleResult) (s : VerificationConsensusSettler) :
    (SettleResult × Option Error) × VerificationConsensusSettler :=
  match s.escrowMgr.releaseSettlement env.amb env.order env.genOrder payload.taskID p.worker p.workerAmount
      payload.posterID p.posterRefundAmount p.validators p.genRecipients s.treasuryID p.treasuryAmount with
  | (.error err, escrowMgr) =>
    ((result, some (.wrap "verification_settler: release settlement: " err "")), { s with escrowMgr })
  | (.ok (), escrowMgr) =>
    let result := { result with
      workerPayout := p.workerAmount
      posterRefund := p.posterRefundAmount
      treasuryAmount := p.treasuryAmount }
    match s.taskMgr.applyVerificationConsensusResolution env.now payload.taskID verdict with
    | (.error err, taskMgr) =>
      ((result, some (.wrap "verification_settler: task state: " err "")), { s with escrowMgr, taskMgr })
    | (.ok (), taskMgr) =>
      (({ result with applied := true, totalDistributed := p.total result.generationLedger }, none),
        { s with escrowMgr, taskMgr })

def settleAccept (budget : UInt64) (payload : TaskVerificationConsensusPayload) (round : TaskVerificationRound)
    (result : SettleResult) (s : VerificationConsensusSettler) :
    (SettleResult × Option Error) × VerificationConsensusSettler :=
  let p := s.acceptPayouts budget payload round
  let dist := s.generationPart payload.submissionEventID (budget * generationShareBP / 10000)
  let result := { result with
    validatorPayouts := p.validators
    generationLedger := if s.genLedger.isSome then dist else {} }
  s.finishSettlement env payload "pass" p result

def settleReject (budget : UInt64) (payload : TaskVerificationConsensusPayload) (round : TaskVerificationRound)
    (result : SettleResult) (s : VerificationConsensusSettler) :
    (SettleResult × Option Error) × VerificationConsensusSettler :=
  let p := s.rejectPayouts budget round
  s.finishSettlement env payload "fail" p { result with validatorPayouts := p.validators }

def settleDispute (budget : UInt64) (payload : TaskVerificationConsensusPayload) (result : SettleResult)
    (s : VerificationConsensusSettler) : (SettleResult × Option Error) × VerificationConsensusSettler :=
  s.finishSettlement env payload "abstain" (disputePayouts budget payload) result

/-- The escrow entry of the task. A node that has not registered it yet finds the transfer that funds it
    and catches up. -/
def escrowEntry (task : Task) (e : Escrow) (dagScanner : Option (List Event)) : Except Error EscrowEntry × Escrow :=
  match e.getEntry payload.taskID with
  | .ok entry => (.ok entry, e)
  | .error _ => match dagScanner with
    | none =>
      (.error (.new ("verification_settler: escrow catch-up required but dagScanner not configured for task "
        ++ payload.taskID)), e)
    | some events => match lookupEscrowLockTransfer events payload.taskID task.posterID task.budget with
      | .error err =>
        (.error (.wrap "verification_settler: escrow catch-up funding-transfer lookup failed: " err ""), e)
      | .ok fundingRef =>
        match e.registerEscrow payload.taskID task.posterID task.budget fundingRef with
        | (.error err, e) =>
          (.error (.wrap "verification_settler: escrow catch-up register failed: " err ""), e)
        | (.ok (), e) => match e.getEntry payload.taskID with
          | .error err =>
            (.error (.wrap "verification_settler: escrow still missing after catch-up: " err ""), e)
          | .ok entry => (.ok entry, e)

def settle (payload : TaskVerificationConsensusPayload) (round : TaskVerificationRound)
    (s : VerificationConsensusSettler) : (SettleResult × Option Error) × VerificationConsensusSettler :=
  let result := { verdict := payload.finalVerdict : SettleResult }
  match s.taskMgr.getTask payload.taskID with
  | .error err =>
    ((result, some (.wrap s!"verification_settler: task {payload.taskID} not found: " err "")), s)
  | .ok task =>
    if task.status.isTerminal then (({ result with alreadyApplied := true }, none), s)
    else match escrowEntry payload task s.escrowMgr s.dagScanner with
      | (.error err, escrowMgr) => ((result, some err), { s with escrowMgr })
      | (.ok entry, escrowMgr) =>
        let s := { s with escrowMgr }
        if payload.finalVerdict = "pass" then s.settleAccept env entry.amount payload round result
        else if payload.finalVerdict = "fail" then s.settleReject env entry.amount payload round result
        else if payload.finalVerdict = "abstain" then s.settleDispute env entry.amount payload result
        else
          ((result, some (.new ("verification_settler: unknown verdict " ++ quote payload.finalVerdict))), s)

end VerificationConsensusSettler

end aethernet.settlement
