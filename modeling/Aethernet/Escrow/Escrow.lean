import Aethernet.Golang.Method
import Aethernet.Ledger.Transfer

open golang aethernet event ledger

namespace aethernet.escrow

def errEscrowNotFound : Error := .new "escrow: entry not found"
def errDAGReaderNotConfigured : Error := .new "escrow: DAG reader not configured"
def errFundingTransferNotProjected : Error := .new "escrow: funding transfer not projected in DAG"
def errFundingTransferWrongType : Error := .new "escrow: funding transfer event is not a Transfer"
def errFundingTransferMismatch : Error := .new "escrow: funding transfer does not match registration"

/-- `EscrowEntry`. A map of paid recipients only ever gets the value true. -/
structure EscrowEntry where
  taskID : String
  posterID : AgentID
  amount : UInt64
  fundingTransferRef : EventID := ""
  workerPaid : Bool := false
  validatorPaid : Bool := false
  treasuryPaid : Bool := false
  validatorsPaid : Finset AgentID := ∅
  genLedgerPaid : Finset AgentID := ∅
  posterRefundPaid : Bool := false

/-- The payments `ReleaseSettlement` makes, each with a paid flag of its own. -/
inductive Disbursement where
  | worker
  | posterRefund
  | validator (id : AgentID)
  | genLedger (id : AgentID)
  | treasury
  deriving DecidableEq, Repr

variable (taskID : String)

namespace Disbursement

def memo : Disbursement → String
  | worker => "escrow-release:worker"
  | posterRefund => "escrow-release:poster-refund"
  | validator _ => "escrow-release:validator-distribution"
  | genLedger _ => "escrow-release:gen-ledger-royalty"
  | treasury => "escrow-release:treasury-fee"

/-- The text around the error of a failed transfer. -/
def context : Disbursement → String
  | worker => s!"escrow: settlement worker for task {taskID}: "
  | posterRefund => s!"escrow: settlement poster refund for task {taskID}: "
  | validator vid => s!"escrow: settlement validator {vid} for task {taskID}: "
  | genLedger rid => s!"escrow: settlement gen-ledger {rid} for task {taskID}: "
  | treasury => s!"escrow: settlement treasury for task {taskID}: "

end Disbursement

variable (entry : EscrowEntry) (d : Disbursement)

namespace EscrowEntry

def isPaid : Disbursement → Bool
  | .worker => entry.workerPaid
  | .posterRefund => entry.posterRefundPaid
  | .validator vid => vid ∈ entry.validatorsPaid
  | .genLedger rid => rid ∈ entry.genLedgerPaid
  | .treasury => entry.treasuryPaid

def markPaid : Disbursement → EscrowEntry
  | .worker => { entry with workerPaid := true }
  | .posterRefund => { entry with posterRefundPaid := true }
  | .validator vid => { entry with validatorsPaid := insert vid entry.validatorsPaid }
  | .genLedger rid => { entry with genLedgerPaid := insert rid entry.genLedgerPaid }
  | .treasury => { entry with treasuryPaid := true }

theorem isPaid_markPaid_iff (d' : Disbursement) : (entry.markPaid d).isPaid d' ↔ d' = d ∨ entry.isPaid d' := by
  cases d <;> cases d' <;> simp [markPaid, isPaid] <;> exact decide_eq_true_iff

theorem amount_markPaid : (entry.markPaid d).amount = entry.amount := by
  cases d <;> rfl

end EscrowEntry

/-- `Escrow` with the transfer ledger it shares with other components. A failed write to the store is only
    logged; here the writes succeed. -/
structure Escrow where
  entries : Map String EscrowEntry := ∅
  ledger : TransferLedger
  store : Option (Map String EscrowEntry) := none
  dagReader : Option (EventID → Except Error Event) := none

def bucketID : AgentID := "escrow:" ++ taskID

variable (e : Escrow) (poster : AgentID) (amount : UInt64) (amb : UInt64 → Ambient)
  (change : EscrowEntry → EscrowEntry)

namespace Escrow

def isLocked : Bool := taskID ∈ e.entries

def hasSettlementStarted : Bool :=
  match e.entries.lookup taskID with
  | none => false
  | some entry =>
    entry.workerPaid || entry.validatorPaid || entry.treasuryPaid || entry.posterRefundPaid ||
      0 < entry.validatorsPaid.card || 0 < entry.genLedgerPaid.card

/-- `Get`. -/
def getEntry : Except Error EscrowEntry :=
  match e.entries.lookup taskID with
  | none => .error (.wrap "" errEscrowNotFound s!": task {taskID}")
  | some entry => .ok entry

/-- `persist`, by `PutEscrow`. -/
def persist : Escrow :=
  { e with store := e.store.map fun stored => stored.insert entry.taskID entry }

@[simp]
theorem persist_entries : (e.persist entry).entries = e.entries := rfl

@[simp]
theorem persist_ledger : (e.persist entry).ledger = e.ledger := rfl

/-- `LoadFromStore`; the store lists its entries in this order. -/
def loadFromStore (order : RangeOrder String EscrowEntry) (tl : TransferLedger) (stored : Map String EscrowEntry) :
    Escrow where
  entries := Finmap.ofInserts ((order.visit stored).map fun p => (p.2.taskID, p.2))
  ledger := tl
  store := some stored

/-- The checks `RegisterEscrow` makes on the payload of the funding transfer. -/
def checkFunding (tp : TransferPayload) : Option Error :=
  if tp.reason ≠ "escrow-lock" then
    some (.wrap "" errFundingTransferMismatch (": reason=" ++ quote tp.reason ++ " want escrow-lock"))
  else if tp.fromAgent ≠ poster then
    some (.wrap "" errFundingTransferMismatch s!": from_agent={tp.fromAgent} want {poster}")
  else if tp.toAgent ≠ "escrow:" ++ taskID then
    some (.wrap "" errFundingTransferMismatch s!": to_agent={tp.toAgent} want escrow:{taskID}")
  else if tp.amount ≠ amount then
    some (.wrap "" errFundingTransferMismatch s!": amount={tp.amount} want {amount}")
  else if tp.taskID ≠ taskID then
    some (.wrap "" errFundingTransferMismatch s!": task_id={tp.taskID} want {taskID}")
  else none

def registerEscrow (fundingTransferRef : EventID) : Method Escrow Unit := fun e =>
  if taskID ∈ e.entries then (.ok (), e)
  else match e.dagReader with
    | none => (.error errDAGReaderNotConfigured, e)
    | some reader => match reader fundingTransferRef with
      | .error err =>
        (.error (.wrap "" errFundingTransferNotProjected s!": {fundingTransferRef}: {err.text}"), e)
      | .ok fundingEvt =>
        if fundingEvt.type ≠ .transfer then
          (.error (.wrap "" errFundingTransferWrongType
            s!": {fundingTransferRef} is {fundingEvt.type.text}"), e)
        else match fundingEvt.transferPayload with
          | .error err =>
            (.error (.wrap "" errFundingTransferWrongType s!": decode payload: {err.text}"), e)
          | .ok tp => match checkFunding taskID poster amount tp with
            | some err => (.error err, e)
            | none =>
              let entry :=
                { taskID, posterID := poster, amount, fundingTransferRef : EscrowEntry }
              (.ok (), ({ e with entries := e.entries.insert taskID entry }).persist entry)

/-- A transfer out of the bucket of a task; `amb` is what the transfer with this bucket number finds around
    it. -/
def pay (taskID : String) (toID : AgentID) (amount : UInt64) (memo context : String) : Method Escrow Unit := fun e =>
  match e.ledger.transferFromBucketLabeled (amb e.ledger.bucketCounter) (bucketID taskID) toID amount memo
      false with
  | (.error err, l) => (.error (.wrap context err ""), { e with ledger := l })
  | (.ok (), l) => (.ok (), { e with ledger := l })

def updateEntry (e : Escrow) : Escrow :=
  match e.entries.lookup taskID with
  | none => e
  | some entry => ({ e with entries := e.entries.insert taskID (change entry) }).persist (change entry)

@[simp]
theorem updateEntry_ledger (e : Escrow) : (e.updateEntry taskID change).ledger = e.ledger := by
  unfold updateEntry
  split <;> rfl

def markPaid : Escrow := e.updateEntry taskID (·.markPaid d)

/-- One disbursement of `ReleaseSettlement`: skipped when there is nothing to pay or it is marked as
    paid, marked as paid after the transfer. -/
def disburse (taskID : String) (d : Disbursement) (toID : AgentID) (amount : UInt64) : Method Escrow Unit := do
  let alreadyPaid ← Method.read fun e => ((e.entries.lookup taskID).map (·.isPaid d)).getD false
  if amount = 0 ∨ alreadyPaid then pure ()
  else
    pay amb taskID toID amount d.memo (d.context taskID)
    Method.write (markPaid taskID d)

/-- `delete(e.entries, taskID)` and `DeleteEscrow`. -/
def deleteEntry : Escrow :=
  { e with entries := e.entries.erase taskID, store := e.store.map fun stored => stored.erase taskID }

/-- `ReleaseSettlement`. The loops over the two maps visit them in these orders. -/
def releaseSettlement (order genOrder : RangeOrder AgentID UInt64) (taskID : String) (worker : AgentID)
    (workerAmount : UInt64) (posterRefund : AgentID) (posterRefundAmount : UInt64)
    (validators genRecipients : Map AgentID UInt64) (treasury : AgentID) (treasuryAmount : UInt64) :
    Method Escrow Unit := do
  let locked ← Method.read (isLocked taskID)
  if !locked then Method.fail (.wrap "" errEscrowNotFound s!": task {taskID}")
  else
    disburse amb taskID .worker worker workerAmount
    disburse amb taskID .posterRefund posterRefund posterRefundAmount
    forM (order.visit validators) fun (vid, amount) => disburse amb taskID (.validator vid) vid amount
    forM (genOrder.visit genRecipients) fun (rid, amount) => disburse amb taskID (.genLedger rid) rid amount
    disburse amb taskID .treasury treasury treasuryAmount
    Method.write (deleteEntry taskID)

/-- `Hold`. The entry is there before the funds move, and goes again when they cannot. -/
def hold (amb : UInt64 → Ambient) (taskID : String) (posterID : AgentID) (amount : UInt64) : Method Escrow Unit :=
  fun e =>
    let entry := { taskID, posterID, amount : EscrowEntry }
    let e := ({ e with entries := e.entries.insert taskID entry }).persist entry
    match e.ledger.transferFromBucket (amb e.ledger.bucketCounter) posterID (bucketID taskID) amount with
    | (.error err, l) =>
      (.error (.wrap s!"escrow: hold for task {taskID}: " err ""), ({ e with ledger := l }).deleteEntry taskID)
    | (.ok (), l) => (.ok (), { e with ledger := l })

/-- `Release`, which deletes the entry in memory only. -/
def release (amb : UInt64 → Ambient) (taskID : String) (claimerID : AgentID) : Method Escrow Unit := do
  let entry ← Method.read fun e => e.entries.lookup taskID
  match entry with
  | none => Method.fail (.wrap "" errEscrowNotFound s!": task {taskID}")
  | some entry =>
    pay amb taskID claimerID entry.amount "escrow-release:full-release" s!"escrow: release for task {taskID}: "
    Method.write fun e => { e with entries := e.entries.erase taskID }

def refund (amb : UInt64 → Ambient) (taskID : String) : Method Escrow Unit := do
  let entry ← Method.read fun e => e.entries.lookup taskID
  match entry with
  | none => Method.fail (.wrap "" errEscrowNotFound s!": task {taskID}")
  | some entry =>
    pay amb taskID entry.posterID entry.amount "escrow-refund:poster-cancel"
      s!"escrow: refund for task {taskID}: "
    Method.write (deleteEntry taskID)

/-- A transfer of `ReleaseNet` with its paid flag. -/
def payNet (taskID : String) (skip : EscrowEntry → Bool) (mark : EscrowEntry → EscrowEntry) (toID : AgentID)
    (amount : UInt64) (memo context : String) : Method Escrow Unit := do
  let skipped ← Method.read fun e => ((e.entries.lookup taskID).map skip).getD false
  if skipped then pure ()
  else
    pay amb taskID toID amount memo context
    Method.write (updateEntry taskID mark)

/-- `ReleaseNet`. The worker's transfer is made whatever its amount. -/
def releaseNet (taskID : String) (claimerID : AgentID) (netAmount : UInt64) (validatorID : AgentID)
    (validatorAmount : UInt64) (treasuryID : AgentID) (treasuryAmount : UInt64) : Method Escrow Unit := do
  let locked ← Method.read (isLocked taskID)
  if !locked then Method.fail (.wrap "" errEscrowNotFound s!": task {taskID}")
  else
    payNet amb taskID (·.workerPaid) (fun entry => { entry with workerPaid := true }) claimerID netAmount
      "escrow-release-net:worker" s!"escrow: release-net worker for task {taskID}: "
    payNet amb taskID (fun entry => validatorAmount = 0 || entry.validatorPaid)
      (fun entry => { entry with validatorPaid := true }) validatorID validatorAmount
      "escrow-release-net:validator" s!"escrow: release-net validator for task {taskID}: "
    payNet amb taskID (fun entry => treasuryAmount = 0 || entry.treasuryPaid)
      (fun entry => { entry with treasuryPaid := true }) treasuryID treasuryAmount
      "escrow-release-net:treasury" s!"escrow: release-net treasury for task {taskID}: "
    Method.write (deleteEntry taskID)

end Escrow

end aethernet.escrow
