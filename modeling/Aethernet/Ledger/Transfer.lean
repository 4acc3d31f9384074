import Aethernet.Golang.Int
import Aethernet.Event.Basic

open golang aethernet.event

namespace aethernet.ledger

/-- An agent's capability fingerprint. -/
abbrev AgentID := String

abbrev Time := ℤ

def errNotTransfer : Error := .new "ledger: event is not a Transfer"
def errDuplicateEntry : Error := .new "ledger: event already recorded"
def errEntryNotFound : Error := .new "ledger: entry not found"
def errInvalidTransition : Error := .new "ledger: invalid settlement state transition"
def errInsufficientBalance : Error := .new "ledger: insufficient balance"
def errMintCapExceeded : Error := .new "ledger: mint cap exceeded"

structure TransferEntry where
  eventID : EventID
  fromAgent : AgentID
  toAgent : AgentID
  amount : UInt64
  currency : String
  memo : String
  reason : String := ""
  timestamp : UInt64
  settlement : SettlementState
  recordedAt : Time
  isGenesis : Bool := false
  deriving DecidableEq

def mintedMetaKey : String := "ledger:total_minted"

/-- What a `transferPersistence` backend holds: transfers by event ID and metadata by key. -/
structure TransferStore where
  transfers : Map EventID TransferEntry := ∅
  metadata : Map String (List UInt8) := ∅

/-- What a call finds around it: the clock, and the error each store method would return. -/
structure Ambient where
  now : Time
  putTransferErr : Option Error := none
  putMetaErr : Option Error := none
  deleteTransferErr : EventID → Option Error := fun _ => none

/-- `TransferLedger`. The archival channel and the mutex are left out. `bucketCounter` is the
    package's counter, shared by every ledger of the process. -/
structure TransferLedger where
  entries : Map EventID TransferEntry := ∅
  archivedNetSettled : Map AgentID Int64 := ∅
  store : Option TransferStore := none
  mintCap : UInt64 := 0
  totalMinted : UInt64 := 0
  bucketCounter : UInt64 := 0

variable (agentID : AgentID) (e : TransferEntry) (l : TransferLedger) (amb : Ambient) (entry : TransferEntry)
  (now : Time) (eventID eid : EventID) (fromID toID : AgentID) (amount : UInt64) (memo : String) (isGenesis : Bool)
  (id : EventID) (cutoff : Time) (s : TransferLedger × ℤ)

namespace TransferLedger

/-- `SetMintCap`; zero is no cap. -/
def setMintCap (cap : UInt64) (l : TransferLedger) : TransferLedger := { l with mintCap := cap }

/-- The amount `balanceLocked` counts as spendable inflow of `agentID` on one entry. -/
def creditOf : UInt64 :=
  if e.toAgent = agentID ∧ e.settlement = .settled then e.amount else 0

/-- The amount `balanceLocked` counts as reserved outflow of `agentID` on one entry. -/
def reservedOf : UInt64 :=
  if e.fromAgent = agentID ∧ (e.settlement = .settled ∨ e.settlement = .optimistic) then e.amount else 0

/-- `balanceLocked`, and `Balance`, which only takes the lock around it. -/
def balanceLocked (agentID : AgentID) : UInt64 :=
  let inSettled := l.entries.sumBy (creditOf agentID)
  let outReserved := l.entries.sumBy (reservedOf agentID)
  let archived := l.archivedNetSettled.getD agentID 0
  let net := archived + inSettled.toInt64 - outReserved.toInt64
  if net ≤ 0 then 0 else net.toUInt64

def balanceCheck (agentID : AgentID) (amount : UInt64) : Except Error Unit :=
  if l.balanceLocked agentID < amount then
    .error (.wrap "" errInsufficientBalance s!": agent {agentID} has insufficient funds for {amount}")
  else .ok ()

/-- Write an entry through to the store, if there is one. A failing store changes nothing. -/
def putTransfer (l : TransferLedger) : TransferLedger :=
  match amb.putTransferErr with
  | some _ => l
  | none => { l with store := l.store.map fun s =>
      { s with transfers := s.transfers.insert entry.eventID entry } }

/-- Write the minted total through to the store's metadata. -/
def putMinted (minted : UInt64) (l : TransferLedger) : TransferLedger :=
  match amb.putMetaErr with
  | some _ => l
  | none => { l with store := l.store.map fun s =>
      { s with metadata := s.metadata.insert mintedMetaKey (putUint64 minted) } }

/-- `l.entries[entry.EventID] = entry`. -/
def setEntry (l : TransferLedger) : TransferLedger :=
  { l with entries := l.entries.insert entry.eventID entry }

/-- The entry `Record` and `RecordFromSync` make of a transfer event. -/
def newEntry (e : Event) (p : TransferPayload) : TransferEntry where
  eventID := e.id
  fromAgent := p.fromAgent
  toAgent := p.toAgent
  amount := p.amount
  currency := p.currency
  memo := p.memo
  reason := p.reason
  timestamp := e.causalTimestamp
  settlement := e.settlementState
  recordedAt := now

def record (e : Event) (l : TransferLedger) : Except Error Unit × TransferLedger :=
  if e.type ≠ .transfer then
    (.error (.wrap "" errNotTransfer (": got " ++ quote e.type.text)), l)
  else match e.transferPayload with
    | .error err => (.error (.wrap s!"ledger: Transfer event {e.id}: " err ""), l)
    | .ok p =>
      if e.id ∈ l.entries then
        (.error (.wrap "" errDuplicateEntry s!": {e.id}"), l)
      -- the genesis source is exempt, and so is a transfer of nothing
      else if p.fromAgent ≠ "system" ∧ 0 < p.amount ∧ l.balanceLocked p.fromAgent < p.amount then
        (.error (.wrap "" errInsufficientBalance
          s!": agent {p.fromAgent} balance {l.balanceLocked p.fromAgent} < transfer amount {p.amount}"), l)
      else
        (.ok (), (l.setEntry (newEntry amb.now e p)).putTransfer amb (newEntry amb.now e p))

def recordFromSync (e : Event) (l : TransferLedger) : Except Error Unit × TransferLedger :=
  if e.type ≠ .transfer then
    (.error (.wrap "" errNotTransfer (": got " ++ quote e.type.text)), l)
  else match e.transferPayload with
    | .error err => (.error (.wrap s!"ledger: Transfer event {e.id}: " err ""), l)
    | .ok p =>
      if e.id ∈ l.entries then (.ok (), l)
      else
        (.ok (), (l.setEntry (newEntry amb.now e p)).putTransfer amb (newEntry amb.now e p))

def settle (state : SettlementState) (l : TransferLedger) : Except Error Unit × TransferLedger :=
  match l.entries.lookup eventID with
  | none => (.error (.wrap "" errEntryNotFound s!": {eventID}"), l)
  | some entry =>
    match validTransitions entry.settlement with
    | none =>
      (.error (.wrap "" errInvalidTransition
        (": unrecognized current state " ++ quote entry.settlement.text)), l)
    | some allowed =>
      if state ∉ allowed then
        (.error (.wrap "" errInvalidTransition
          (": cannot transition from " ++ quote entry.settlement.text ++ " to " ++ quote state.text)), l)
      else
        let entry' := { entry with settlement := state }
        (.ok (), ({ l with entries := l.entries.insert eventID entry' }).putTransfer amb entry')

/-- `GetSettlement`; a store read that fails is a lookup that finds nothing. -/
def getSettlement : SettlementState × Bool :=
  match l.entries.lookup eventID with
  | some entry => (entry.settlement, true)
  | none =>
    match l.store.bind fun s => s.transfers.lookup eventID with
    | some stored => (stored.settlement, true)
    | none => (.optimistic, false)

/-- The entry `FundAgent` makes: a settled credit from the genesis source. -/
def genesisEntry (agentID : AgentID) (amount : UInt64) : TransferEntry where
  eventID := eid
  fromAgent := "system"
  toAgent := agentID
  amount := amount
  currency := "AET"
  memo := "genesis credit"
  timestamp := 0
  settlement := .settled
  recordedAt := now
  isGenesis := true

/-- `FundAgent`. The entry is persisted before the memory changes, so a store that refuses it fails
    the call; a store that refuses the new total is only logged. -/
def fundAgent (sha256 : String → List UInt8) (amb : Ambient) (agentID : AgentID) (amount : UInt64)
    (l : TransferLedger) : Except Error Unit × TransferLedger :=
  if 0 < l.mintCap ∧ l.mintCap < l.totalMinted + amount then
    (.error (.wrap "" errMintCapExceeded
      s!": total_minted={l.totalMinted} + amount={amount} > cap={l.mintCap}"), l)
  else
    let eid := hexEncode (sha256 s!"genesis-mint:{agentID}:{amount}")
    if eid ∈ l.entries then
      (.error (.wrap "" errDuplicateEntry s!": {eid}"), l)
    else
      let entry := genesisEntry amb.now eid agentID amount
      let minted := l.totalMinted + amount
      match l.store, amb.putTransferErr with
      | some _, some err => (.error (.wrap "ledger: FundAgent: persist entry: " err ""), l)
      | _, _ =>
        (.ok (), { ((l.putTransfer amb entry).putMinted amb minted).setEntry entry with
          totalMinted := minted })

/-- The entry `TransferFromBucketLabeled` makes. -/
def bucketEntry : TransferEntry where
  eventID := eid
  fromAgent := fromID
  toAgent := toID
  amount := amount
  currency := "AET"
  memo := memo
  timestamp := 0
  settlement := .settled
  recordedAt := now
  isGenesis := isGenesis

def transferFromBucketLabeled (l : TransferLedger) : Except Error Unit × TransferLedger :=
  if l.balanceLocked fromID < amount then
    (.error (.wrap "" errInsufficientBalance
      s!": bucket {fromID} balance {l.balanceLocked fromID} < allocation {amount}"), l)
  else
    let n := l.bucketCounter + 1
    let l' := { l with bucketCounter := n }
    let eid := s!"bucket:{fromID}:{toID}:{amount}:{n}"
    if eid ∈ l.entries then
      (.error (.wrap "" errDuplicateEntry s!": {eid}"), l')
    else
      let entry := bucketEntry amb.now eid fromID toID amount memo isGenesis
      (.ok (), (l'.setEntry entry).putTransfer amb entry)

def transferFromBucket (l : TransferLedger) : Except Error Unit × TransferLedger :=
  l.transferFromBucketLabeled amb fromID toID amount "onboarding allocation" true

/-- `delete(l.entries, id)`. -/
def deleteEntry (l : TransferLedger) : TransferLedger :=
  { l with entries := l.entries.erase id }

def deleteTransfer (l : TransferLedger) : TransferLedger :=
  match amb.deleteTransferErr id with
  | some _ => l
  | none => { l with store := l.store.map fun s => { s with transfers := s.transfers.erase id } }

/-- One visit of the loop in `ResetOptimisticOutflows`. -/
def resetVisit (agentID : AgentID) (s : TransferLedger × ℤ) (id : EventID) (e : TransferEntry) : TransferLedger × ℤ :=
  if e.fromAgent = agentID ∧ e.settlement = .optimistic then
    ((s.1.deleteEntry id).deleteTransfer amb id, s.2 + 1)
  else s

theorem resetVisit_comm (agentID : AgentID) (s : TransferLedger × ℤ) (id₁ : EventID) (e₁ : TransferEntry)
    (id₂ : EventID) (e₂ : TransferEntry) : resetVisit amb agentID (resetVisit amb agentID s id₁ e₁) id₂ e₂
      = resetVisit amb agentID (resetVisit amb agentID s id₂ e₂) id₁ e₁ := by
  simp only [resetVisit, deleteEntry, deleteTransfer]
  split_ifs <;> cases amb.deleteTransferErr id₁ <;> cases amb.deleteTransferErr id₂ <;>
    cases s.1.store <;> simp [Finmap.erase_erase (a := id₁)]

/-- `ResetOptimisticOutflows`: the number of entries removed, and the ledger without them. -/
def resetOptimisticOutflows (agentID : AgentID) (l : TransferLedger) : ℤ × TransferLedger :=
  (l.entries.range (resetVisit amb agentID) (resetVisit_comm amb agentID) (l, 0)).swap

def archiveEntry (archived : Map AgentID Int64) : Map AgentID Int64 :=
  if e.settlement = .settled then
    (archived.addAt e.toAgent e.amount.toInt64).addAt e.fromAgent (-e.amount.toInt64)
  else archived

/-- One visit of the loop in `EvictBefore`. -/
def evictVisit (id : EventID) (e : TransferEntry) : TransferLedger × ℤ :=
  if e.settlement = .optimistic then s
  else if ¬ e.recordedAt < cutoff then s
  else
    ({ s.1 with
        archivedNetSettled := archiveEntry e s.1.archivedNetSettled
        entries := s.1.entries.erase id }, s.2 + 1)

theorem archiveEntry_comm (e₁ e₂ : TransferEntry) (archived : Map AgentID Int64) :
    archiveEntry e₂ (archiveEntry e₁ archived) = archiveEntry e₁ (archiveEntry e₂ archived) := by
  unfold archiveEntry
  split_ifs
  · rw [Finmap.addAt_comm _ e₁.fromAgent e₂.toAgent, Finmap.addAt_comm archived,
      Finmap.addAt_comm _ e₁.fromAgent e₂.fromAgent, Finmap.addAt_comm _ e₁.toAgent e₂.fromAgent]
  all_goals rfl

theorem evictVisit_comm (id₁ : EventID) (e₁ : TransferEntry) (id₂ : EventID) (e₂ : TransferEntry) :
    evictVisit cutoff (evictVisit cutoff s id₁ e₁) id₂ e₂
      = evictVisit cutoff (evictVisit cutoff s id₂ e₂) id₁ e₁ := by
  simp only [evictVisit]
  split_ifs <;> simp [archiveEntry_comm e₁, Finmap.erase_erase (a := id₁)]

/-- `EvictBefore`: the number of entries removed, and the ledger that archived them. -/
def evictBefore (l : TransferLedger) : ℤ × TransferLedger :=
  (l.entries.range (evictVisit cutoff) (evictVisit_comm cutoff) (l, 0)).swap

end TransferLedger

end aethernet.ledger
