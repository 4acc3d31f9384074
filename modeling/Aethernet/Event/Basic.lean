import Aethernet.Golang.Json

open golang golang.json

namespace aethernet.event

/-- The hex-encoded content hash an event goes by. -/
abbrev EventID := String

/-- The names of the declared `EventType` constants, in source order. -/
def EventType.declared : List String :=
  ["Transfer", "Generation", "Attestation", "Verification", "Delegation", "Registration",
    "VerificationVote", "Settlement", "TaskSettlement", "GenesisFunding", "TrajectoryCommit",
    "TaskPosted", "TaskClaimed", "TaskSubmitted", "TaskApproved", "TaskDisputed",
    "TaskVerificationVote", "TaskVerificationConsensus", "SlashingChallenge", "ValidatorGenesisSet",
    "ValidatorJoin", "ValidatorActivate", "ValidatorSuspend", "ValidatorResume", "ValidatorExit",
    "ValidatorKeyRotate", "ValidatorSlashApplied", "ValidatorRecoveryKeySet",
    "ValidatorEmergencySuspend", "ValidatorRecoveryRotate", "ValidatorRecoveryRotateCancel",
    "PrerequisiteWithholding"]

/-- `EventType`. A peer may send any text, so the texts no constant has are values as well. -/
inductive EventType where
  | transfer | generation | attestation | verification | delegation | registration
  | verificationVote | settlement | taskSettlement | genesisFunding | trajectoryCommit
  | taskPosted | taskClaimed | taskSubmitted | taskApproved | taskDisputed
  | taskVerificationVote | taskVerificationConsensus | slashingChallenge | validatorGenesisSet
  | validatorJoin | validatorActivate | validatorSuspend | validatorResume | validatorExit
  | validatorKeyRotate | validatorSlashApplied | validatorRecoveryKeySet
  | validatorEmergencySuspend | validatorRecoveryRotate | validatorRecoveryRotateCancel
  | prerequisiteWithholding
  | undeclared (text : String) (hnew : text ∉ EventType.declared)
  deriving DecidableEq

def EventType.text : EventType → String
  | transfer => "Transfer"
  | generation => "Generation"
  | attestation => "Attestation"
  | verification => "Verification"
  | delegation => "Delegation"
  | registration => "Registration"
  | verificationVote => "VerificationVote"
  | settlement => "Settlement"
  | taskSettlement => "TaskSettlement"
  | genesisFunding => "GenesisFunding"
  | trajectoryCommit => "TrajectoryCommit"
  | taskPosted => "TaskPosted"
  | taskClaimed => "TaskClaimed"
  | taskSubmitted => "TaskSubmitted"
  | taskApproved => "TaskApproved"
  | taskDisputed => "TaskDisputed"
  | taskVerificationVote => "TaskVerificationVote"
  | taskVerificationConsensus => "TaskVerificationConsensus"
  | slashingChallenge => "SlashingChallenge"
  | validatorGenesisSet => "ValidatorGenesisSet"
  | validatorJoin => "ValidatorJoin"
  | validatorActivate => "ValidatorActivate"
  | validatorSuspend => "ValidatorSuspend"
  | validatorResume => "ValidatorResume"
  | validatorExit => "ValidatorExit"
  | validatorKeyRotate => "ValidatorKeyRotate"
  | validatorSlashApplied => "ValidatorSlashApplied"
  | validatorRecoveryKeySet => "ValidatorRecoveryKeySet"
  | validatorEmergencySuspend => "ValidatorEmergencySuspend"
  | validatorRecoveryRotate => "ValidatorRecoveryRotate"
  | validatorRecoveryRotateCancel => "ValidatorRecoveryRotateCancel"
  | prerequisiteWithholding => "PrerequisiteWithholding"
  | undeclared text _ => text

/-- `SettlementState`, again with the texts no constant has. -/
inductive SettlementState where
  | optimistic
  | settled
  | adjusted
  | undeclared (text : String) (hnew : text ∉ ["Optimistic", "Settled", "Adjusted"])
  deriving DecidableEq

def SettlementState.text : SettlementState → String
  | optimistic => "Optimistic"
  | settled => "Settled"
  | adjusted => "Adjusted"
  | undeclared text _ => text

/-- `Event`. `causalRefs` is `none` for a nil slice, which marshals differently from an empty one. The defaults are
    those of an event that `New` makes without references and stake, before it is signed. -/
structure Event where
  id : EventID
  type : EventType
  causalRefs : Option (List EventID) := some []
  payload : RawMessage
  agentID : String
  signature : List UInt8 := []
  causalTimestamp : UInt64 := 1
  stakeAmount : UInt64 := 0
  settlementState : SettlementState := .optimistic

/-- The references a loop over `CausalRefs` visits. -/
def Event.refs (e : Event) : List EventID := e.causalRefs.getD []

/-- `validTransitions`, and the ledger's copy `validLedgerTransitions`: the states each declared
    state may move to. -/
def validTransitions : SettlementState → Option (List SettlementState)
  | .optimistic => some [.settled, .adjusted]
  | .settled => some [.adjusted]
  | .adjusted => some []
  | .undeclared _ _ => none

def SettlementState.mayBecome (s t : SettlementState) : Bool := t ∈ (validTransitions s).getD []

/-- `GetPayload`; `goType` is the text `%T` gives for the payload type. -/
def getPayload {T : Type} (goType : String) (d : Decoder T) (e : Event) : Except Error T :=
  match e.payload with
  | .absent => .error (.new "event: payload is nil")
  | raw => match unmarshal d raw with
    | .ok payload => .ok payload
    | .error err => .error (.wrap ("event: failed to decode payload as " ++ goType ++ ": ") err "")

theorem getPayload_eq_ok_iff {T : Type} {goType : String} {d : Decoder T} {e : Event} {payload : T} :
    getPayload goType d e = .ok payload ↔ unmarshal d e.payload = .ok payload := by
  unfold getPayload
  split
  · next habsent => simp [habsent, unmarshal]
  · cases unmarshal d e.payload <;> simp

structure TransferPayload where
  version : UInt8 := 0
  fromAgent : String := ""
  toAgent : String := ""
  amount : UInt64 := 0
  currency : String := ""
  memo : String := ""
  reason : String := ""
  taskID : String := ""
  deriving DecidableEq

def TransferPayload.decoder : Decoder TransferPayload :=
  struct "TransferPayload" "event.TransferPayload" {}
    [field "v" uint8 (·.version) fun p x => { p with version := x },
      field "from_agent" string (·.fromAgent) fun p x => { p with fromAgent := x },
      field "to_agent" string (·.toAgent) fun p x => { p with toAgent := x },
      field "amount" uint64 (·.amount) fun p x => { p with amount := x },
      field "currency" string (·.currency) fun p x => { p with currency := x },
      field "memo" string (·.memo) fun p x => { p with memo := x },
      field "reason" string (·.reason) fun p x => { p with reason := x },
      field "task_id" string (·.taskID) fun p x => { p with taskID := x }]

def Event.transferPayload (e : Event) : Except Error TransferPayload :=
  getPayload "event.TransferPayload" TransferPayload.decoder e

structure GenerationPayload where
  version : UInt8 := 0
  generatingAgent : String := ""
  beneficiaryAgent : String := ""
  claimedValue : UInt64 := 0
  evidenceHash : String := ""
  taskDescription : String := ""

def GenerationPayload.decoder : Decoder GenerationPayload :=
  struct "GenerationPayload" "event.GenerationPayload" {}
    [field "v" uint8 (·.version) fun p x => { p with version := x },
      field "generating_agent" string (·.generatingAgent) fun p x => { p with generatingAgent := x },
      field "beneficiary_agent" string (·.beneficiaryAgent) fun p x => { p with beneficiaryAgent := x },
      field "claimed_value" uint64 (·.claimedValue) fun p x => { p with claimedValue := x },
      field "evidence_hash" string (·.evidenceHash) fun p x => { p with evidenceHash := x },
      field "task_description" string (·.taskDescription) fun p x => { p with taskDescription := x }]

def Event.generationPayload (e : Event) : Except Error GenerationPayload :=
  getPayload "event.GenerationPayload" GenerationPayload.decoder e

structure GenesisFundingPayload where
  version : UInt8 := 0
  fromBucket : String := ""
  toAgent : String := ""
  amount : UInt64 := 0
  reason : String := ""

def GenesisFundingPayload.decoder : Decoder GenesisFundingPayload :=
  struct "GenesisFundingPayload" "event.GenesisFundingPayload" {}
    [field "v" uint8 (·.version) fun p x => { p with version := x },
      field "from_bucket" string (·.fromBucket) fun p x => { p with fromBucket := x },
      field "to_agent" string (·.toAgent) fun p x => { p with toAgent := x },
      field "amount" uint64 (·.amount) fun p x => { p with amount := x },
      field "reason" string (·.reason) fun p x => { p with reason := x }]

def Event.genesisFundingPayload (e : Event) : Except Error GenesisFundingPayload :=
  getPayload "event.GenesisFundingPayload" GenesisFundingPayload.decoder e

/-- A transfer between two agents. -/
def transferEvent (id : EventID) (fromAgent toAgent : String) (amount : String) (reason : String := "")
    (state : SettlementState := .optimistic) : Event where
  id := id
  type := .transfer
  payload := .document (.obj
    [("from_agent", .str fromAgent), ("to_agent", .str toAgent), ("amount", .num amount),
      ("reason", .str reason)])
  agentID := fromAgent
  settlementState := state

end aethernet.event
