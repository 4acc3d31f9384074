import Aethernet.Golang.Method
import Aethernet.Ledger.Transfer

open golang aethernet.event

namespace aethernet.ledger

def errNotGeneration : Error := .new "ledger: event is not a Generation"

structure GenerationEntry where
  eventID : EventID
  generatingAgent : AgentID
  beneficiaryAgent : AgentID
  claimedValue : UInt64
  verifiedValue : UInt64 := 0
  evidenceHash : String
  taskDescription : String
  timestamp : UInt64
  settlement : SettlementState
  recordedAt : Time

/-- `GenerationLedger`, without its archival. A failed write to the store is only logged; here the
    writes succeed. -/
structure GenerationLedger where
  entries : Map EventID GenerationEntry := ∅
  store : Option (Map EventID GenerationEntry) := none

variable (now : Time) (e : Event) (eventID : EventID) (verifiedValue : UInt64) (l : GenerationLedger)

namespace GenerationLedger

/-- `l.entries[id] = entry` and `PutGeneration`. -/
def setEntry (id : EventID) (entry : GenerationEntry) (l : GenerationLedger) : GenerationLedger where
  entries := l.entries.insert id entry
  store := l.store.map fun stored => stored.insert entry.eventID entry

/-- The entry of a generation event. Unlike a transfer's it is optimistic whatever the event says. -/
def newEntry (p : GenerationPayload) : GenerationEntry where
  eventID := e.id
  generatingAgent := p.generatingAgent
  beneficiaryAgent := p.beneficiaryAgent
  claimedValue := p.claimedValue
  evidenceHash := p.evidenceHash
  taskDescription := p.taskDescription
  timestamp := e.causalTimestamp
  settlement := .optimistic
  recordedAt := now

def recordFromSync : Method GenerationLedger Unit := fun l =>
  if e.type ≠ .generation then
    (.error (.wrap "" errNotGeneration (": got " ++ quote e.type.text)), l)
  else match e.generationPayload with
    | .error err => (.error (.wrap s!"ledger: Generation event {e.id}: " err ""), l)
    | .ok p => if e.id ∈ l.entries then (.ok (), l) else (.ok (), l.setEntry e.id (newEntry now e p))

def verify : Method GenerationLedger Unit := fun l =>
  match l.entries.lookup eventID with
  | none => (.error (.wrap "" errEntryNotFound s!": {eventID}"), l)
  | some entry =>
    if entry.settlement ≠ .optimistic then
      (.error (.wrap "" errInvalidTransition
        (": Verify requires Optimistic state, entry is " ++ quote entry.settlement.text)), l)
    else (.ok (), l.setEntry eventID { entry with verifiedValue := verifiedValue, settlement := .settled })

def reject : Method GenerationLedger Unit := fun l =>
  match l.entries.lookup eventID with
  | none => (.error (.wrap "" errEntryNotFound s!": {eventID}"), l)
  | some entry =>
    if entry.settlement = .adjusted then
      (.error (.wrap "" errInvalidTransition
        (": " ++ quote SettlementState.adjusted.text ++ " is terminal")), l)
    else (.ok (), l.setEntry eventID { entry with settlement := .adjusted })

def getSettlement (eventID : EventID) : SettlementState × Bool :=
  match l.entries.lookup eventID with
  | some entry => (entry.settlement, true)
  | none =>
    match l.store.bind fun stored => stored.lookup eventID with
    | some stored => (stored.settlement, true)
    | none => (.optimistic, false)

theorem recordFromSync_cases : (recordFromSync now e l).2 = l ∨
    ∃ p, e.id ∉ l.entries ∧ recordFromSync now e l = (.ok (), l.setEntry e.id (newEntry now e p)) := by
  unfold recordFromSync
  split
  · exact .inl rfl
  · split
    · exact .inl rfl
    · split
      · exact .inl rfl
      · rename_i p _ hnew
        exact .inr ⟨p, hnew, rfl⟩

theorem verify_cases : (∃ err, verify eventID verifiedValue l = (.error err, l)) ∨
    ∃ entry, l.entries.lookup eventID = some entry ∧ entry.settlement = .optimistic ∧
      verify eventID verifiedValue l =
        (.ok (), l.setEntry eventID { entry with verifiedValue := verifiedValue, settlement := .settled }) := by
  unfold verify
  cases hlookup : l.entries.lookup eventID with
  | none => exact .inl ⟨_, rfl⟩
  | some entry =>
    by_cases hstate : entry.settlement = .optimistic
    · exact .inr ⟨entry, rfl, hstate, if_neg (not_not_intro hstate)⟩
    · exact .inl ⟨_, if_pos hstate⟩

theorem reject_cases : (∃ err, reject eventID l = (.error err, l)) ∨
    ∃ entry, l.entries.lookup eventID = some entry ∧ entry.settlement ≠ .adjusted ∧
      reject eventID l = (.ok (), l.setEntry eventID { entry with settlement := .adjusted }) := by
  unfold reject
  cases hlookup : l.entries.lookup eventID with
  | none => exact .inl ⟨_, rfl⟩
  | some entry =>
    by_cases hstate : entry.settlement = .adjusted
    · exact .inl ⟨_, if_pos hstate⟩
    · exact .inr ⟨entry, rfl, hstate, if_neg hstate⟩

def contributionScore (agentID : AgentID) : UInt64 :=
  let counts e := decide (e.generatingAgent = agentID ∧ e.settlement = .settled)
  let sumClaimed := l.entries.sumBy fun e => if counts e then e.claimedValue else 0
  let sumVerified := l.entries.sumBy fun e => if counts e then e.verifiedValue else 0
  if sumClaimed = 0 then 5000
  else
    let score := sumVerified * 10000 / sumClaimed
    if 10000 < score then 10000 else score

end GenerationLedger

end aethernet.ledger
