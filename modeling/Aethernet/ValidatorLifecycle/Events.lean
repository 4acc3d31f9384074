import Aethernet.Event.Basic
import Aethernet.ValidatorLifecycle.Reducer

open golang golang.json aethernet.event

namespace aethernet.validatorlifecycle

def errPayloadMissingValidatorID : Error := .new "validatorlifecycle: validator_id is required"
def errPayloadMissingOperatorAgentID : Error := .new "validatorlifecycle: operator_agent_id is required"
def errPayloadMissingConsensusKey : Error := .new "validatorlifecycle: consensus_public_key is required"
def errPayloadMissingBondedStake : Error := .new "validatorlifecycle: bonded_stake must be > 0"
def errPayloadMissingKeyEpoch : Error := .new "validatorlifecycle: key_epoch must be > 0"
def errPayloadMissingReason : Error := .new "validatorlifecycle: reason is required"
def errPayloadMissingEvidenceRef : Error := .new "validatorlifecycle: evidence_ref is required for slash"
def errPayloadMissingOffense : Error := .new "validatorlifecycle: offense is required for slash"
def errPayloadInvalidSlashPercent : Error := .new "validatorlifecycle: slash_percent_bp must be in (0, 10000]"
def errPayloadKeyEpochNotAdvanced : Error := .new "validatorlifecycle: new_key_epoch must be > old_key_epoch"
def errPayloadMissingGenesisSeats : Error :=
  .new "validatorlifecycle: genesis set must contain at least one seat"
def errPayloadMissingEffectiveVersion : Error := .new "validatorlifecycle: effective_from_version is required"
def errPayloadMissingCooldownDuration : Error :=
  .new "validatorlifecycle: cooldown_duration must be > 0 for begin_cooldown"
def errPayloadInvalidExitPhase : Error :=
  .new "validatorlifecycle: exit_phase must be begin_cooldown or complete_exit"
def errPayloadMissingRecoveryKey : Error := .new "validatorlifecycle: recovery_public_key is required"
def errPayloadMissingNewPublicKey : Error := .new "validatorlifecycle: new_public_key is required"
def errPayloadMissingRequestedAt : Error := .new "validatorlifecycle: requested_at is required"
def errPayloadMissingEffectiveAfter : Error := .new "validatorlifecycle: effective_after is required"
def errPayloadMissingRotationEventID : Error := .new "validatorlifecycle: rotation_event_id is required"
def errRecoverySignerMismatch : Error :=
  .new "validatorlifecycle: event signer does not match recovery_public_key"

/-- The decoder of the fields of type `ValidatorID`. -/
def validatorIDDecoder : Decoder ValidatorID := stringAs "validatorlifecycle.ValidatorID"

/-- The decoder of the fields of type `crypto.AgentID`. -/
def publicKeyDecoder : Decoder PublicKey := stringAs "crypto.AgentID"

/-- A `Validate` body: the error of the first check that fails. -/
def firstError (checks : List (Bool × Error)) : Option Error :=
  (checks.find? (·.1)).map (·.2)

/-- The frame of the extractors: decode the payload, validate it, build the reducer's events. -/
def extractWith {P : Type} (goType : String) (d : Decoder P) (validate : P → Option Error)
    (build : P → Except Error (List LifecycleEvent)) (ev : Event) : Except Error (List LifecycleEvent) :=
  match getPayload ("validatorlifecycle." ++ goType) d ev with
  | .error err => .error err
  | .ok p => match validate p with
    | some err => .error err
    | none => build p

structure GenesisSeatEntry where
  validatorID : ValidatorID := ""
  operatorAgentID : PublicKey := ""
  consensusPublicKey : PublicKey := ""
  bondedStake : UInt64 := 0

def GenesisSeatEntry.decoder : Decoder GenesisSeatEntry :=
  struct "GenesisSeatEntry" "validatorlifecycle.GenesisSeatEntry" {}
    [field "validator_id" validatorIDDecoder (·.validatorID) fun p x => { p with validatorID := x },
      field "operator_agent_id" publicKeyDecoder (·.operatorAgentID) fun p x => { p with operatorAgentID := x },
      field "consensus_public_key" publicKeyDecoder (·.consensusPublicKey)
        fun p x => { p with consensusPublicKey := x },
      field "bonded_stake" uint64 (·.bondedStake) fun p x => { p with bondedStake := x }]

structure ValidatorGenesisSetPayload where
  version : UInt8 := 0
  seats : List GenesisSeatEntry := []
  effectiveFromVersion : UInt64 := 0

def ValidatorGenesisSetPayload.decoder : Decoder ValidatorGenesisSetPayload :=
  struct "ValidatorGenesisSetPayload" "validatorlifecycle.ValidatorGenesisSetPayload" {}
    [field "v" uint8 (·.version) fun p x => { p with version := x },
      field "seats" (slice "validatorlifecycle.GenesisSeatEntry" GenesisSeatEntry.decoder) (·.seats)
        fun p x => { p with seats := x },
      field "effective_from_version" uint64 (·.effectiveFromVersion) fun p x => { p with effectiveFromVersion := x }]

/-- The loop of the genesis `Validate` over the seats, with the IDs seen so far. -/
def validateGenesisSeats : ℕ → List ValidatorID → List GenesisSeatEntry → Option Error
  | _, _, [] => none
  | i, seen, s :: rest =>
    (firstError
      [(s.validatorID = "", .wrap "" errPayloadMissingValidatorID s!" (seat index {i})"),
        (s.validatorID ∈ seen,
          .new s!"validatorlifecycle: duplicate validator_id {s.validatorID} in genesis set"),
        (s.operatorAgentID = "", .wrap "" errPayloadMissingOperatorAgentID s!" (seat {s.validatorID})"),
        (s.consensusPublicKey = "", .wrap "" errPayloadMissingConsensusKey s!" (seat {s.validatorID})"),
        (s.bondedStake = 0, .wrap "" errPayloadMissingBondedStake s!" (seat {s.validatorID})")]).or
      (validateGenesisSeats (i + 1) (s.validatorID :: seen) rest)

def ValidatorGenesisSetPayload.validate (p : ValidatorGenesisSetPayload) : Option Error :=
  (firstError [(p.seats.isEmpty, errPayloadMissingGenesisSeats),
    (p.effectiveFromVersion = 0, errPayloadMissingEffectiveVersion)]).or (validateGenesisSeats 0 [] p.seats)

variable (ev : Event)

def extractGenesis : Except Error (List LifecycleEvent) :=
  extractWith "ValidatorGenesisSetPayload" ValidatorGenesisSetPayload.decoder
    ValidatorGenesisSetPayload.validate (fun p => .ok (p.seats.map fun s =>
      { kind := .join, eventID := ev.id, causalTS := ev.causalTimestamp, seatID := s.validatorID,
        operatorKey := s.consensusPublicKey, stakeAmount := s.bondedStake, isGenesis := true })) ev

structure ValidatorJoinPayload where
  version : UInt8 := 0
  validatorID : ValidatorID := ""
  operatorAgentID : PublicKey := ""
  consensusPublicKey : PublicKey := ""
  keyEpoch : UInt64 := 0
  bondedStake : UInt64 := 0
  effectiveFromVersion : UInt64 := 0

def ValidatorJoinPayload.decoder : Decoder ValidatorJoinPayload :=
  struct "ValidatorJoinPayload" "validatorlifecycle.ValidatorJoinPayload" {}
    [field "v" uint8 (·.version) fun p x => { p with version := x },
      field "validator_id" validatorIDDecoder (·.validatorID) fun p x => { p with validatorID := x },
      field "operator_agent_id" publicKeyDecoder (·.operatorAgentID) fun p x => { p with operatorAgentID := x },
      field "consensus_public_key" publicKeyDecoder (·.consensusPublicKey)
        fun p x => { p with consensusPublicKey := x },
      field "key_epoch" uint64 (·.keyEpoch) fun p x => { p with keyEpoch := x },
      field "bonded_stake" uint64 (·.bondedStake) fun p x => { p with bondedStake := x },
      field "effective_from_version" uint64 (·.effectiveFromVersion) fun p x => { p with effectiveFromVersion := x }]

def ValidatorJoinPayload.validate (p : ValidatorJoinPayload) : Option Error :=
  firstError
    [(p.validatorID = "", errPayloadMissingValidatorID),
      (p.operatorAgentID = "", errPayloadMissingOperatorAgentID),
      (p.consensusPublicKey = "", errPayloadMissingConsensusKey),
      (p.keyEpoch = 0, errPayloadMissingKeyEpoch),
      (p.bondedStake = 0, errPayloadMissingBondedStake),
      (p.effectiveFromVersion = 0, errPayloadMissingEffectiveVersion)]

def extractJoin : Except Error (List LifecycleEvent) :=
  extractWith "ValidatorJoinPayload" ValidatorJoinPayload.decoder ValidatorJoinPayload.validate (fun p => .ok
    [{ kind := .join, eventID := ev.id, causalTS := ev.causalTimestamp, seatID := p.validatorID,
       operatorKey := p.consensusPublicKey, stakeAmount := p.bondedStake }]) ev

/-- The payload of the events that name a seat and a version and nothing else. -/
structure SeatVersionPayload where
  version : UInt8 := 0
  validatorID : ValidatorID := ""
  effectiveFromVersion : UInt64 := 0

variable (name : String)

def SeatVersionPayload.decoder : Decoder SeatVersionPayload :=
  struct name ("validatorlifecycle." ++ name) {}
    [field "v" uint8 (·.version) fun p x => { p with version := x },
      field "validator_id" validatorIDDecoder (·.validatorID) fun p x => { p with validatorID := x },
      field "effective_from_version" uint64 (·.effectiveFromVersion) fun p x => { p with effectiveFromVersion := x }]

def SeatVersionPayload.validate (p : SeatVersionPayload) : Option Error :=
  firstError
    [(p.validatorID = "", errPayloadMissingValidatorID),
      (p.effectiveFromVersion = 0, errPayloadMissingEffectiveVersion)]

def extractSeatVersion (kind : LifecycleEventKind) (ev : Event) : Except Error (List LifecycleEvent) :=
  extractWith name (SeatVersionPayload.decoder name) SeatVersionPayload.validate (fun p => .ok
    [{ kind := kind, eventID := ev.id, causalTS := ev.causalTimestamp, seatID := p.validatorID }]) ev

def extractActivate : Event → Except Error (List LifecycleEvent) :=
  extractSeatVersion "ValidatorActivatePayload" .activate

def extractResume : Event → Except Error (List LifecycleEvent) :=
  extractSeatVersion "ValidatorResumePayload" .reinstate

structure ValidatorSuspendPayload where
  version : UInt8 := 0
  validatorID : ValidatorID := ""
  reason : String := ""
  evidenceRef : String := ""
  effectiveFromVersion : UInt64 := 0

def ValidatorSuspendPayload.decoder : Decoder ValidatorSuspendPayload :=
  struct "ValidatorSuspendPayload" "validatorlifecycle.ValidatorSuspendPayload" {}
    [field "v" uint8 (·.version) fun p x => { p with version := x },
      field "validator_id" validatorIDDecoder (·.validatorID) fun p x => { p with validatorID := x },
      field "reason" string (·.reason) fun p x => { p with reason := x },
      field "evidence_ref" string (·.evidenceRef) fun p x => { p with evidenceRef := x },
      field "effective_from_version" uint64 (·.effectiveFromVersion) fun p x => { p with effectiveFromVersion := x }]

def ValidatorSuspendPayload.validate (p : ValidatorSuspendPayload) : Option Error :=
  firstError
    [(p.validatorID = "", errPayloadMissingValidatorID),
      (p.reason = "", errPayloadMissingReason),
      (p.effectiveFromVersion = 0, errPayloadMissingEffectiveVersion)]

def extractSuspend : Except Error (List LifecycleEvent) :=
  extractWith "ValidatorSuspendPayload" ValidatorSuspendPayload.decoder ValidatorSuspendPayload.validate
    (fun p => .ok
      [{ kind := .suspend, eventID := ev.id, causalTS := ev.causalTimestamp, seatID := p.validatorID,
         reason := p.reason }]) ev

/-- `ExitPhase`, with the texts no constant has. -/
inductive ExitPhase where
  | beginCooldown
  | completeExit
  | undeclared (text : String) (hnew : text ∉ ["begin_cooldown", "complete_exit"])
  deriving DecidableEq

def ExitPhase.text : ExitPhase → String
  | beginCooldown => "begin_cooldown"
  | completeExit => "complete_exit"
  | undeclared text _ => text

def ExitPhase.ofText (text : String) : ExitPhase :=
  if hcooldown : text = "begin_cooldown" then .beginCooldown
  else if hexit : text = "complete_exit" then .completeExit
  else .undeclared text (by simp [hcooldown, hexit])

structure ValidatorExitPayload where
  version : UInt8 := 0
  validatorID : ValidatorID := ""
  phase : ExitPhase := .ofText ""
  cooldownDuration : UInt64 := 0
  effectiveFromVersion : UInt64 := 0

def ValidatorExitPayload.decoder : Decoder ValidatorExitPayload :=
  struct "ValidatorExitPayload" "validatorlifecycle.ValidatorExitPayload" {}
    [field "v" uint8 (·.version) fun p x => { p with version := x },
      field "validator_id" validatorIDDecoder (·.validatorID) fun p x => { p with validatorID := x },
      field "phase" (stringAs "validatorlifecycle.ExitPhase") (·.phase.text) fun p x => { p with phase := .ofText x },
      field "cooldown_duration" uint64 (·.cooldownDuration) fun p x => { p with cooldownDuration := x },
      field "effective_from_version" uint64 (·.effectiveFromVersion) fun p x => { p with effectiveFromVersion := x }]

def ValidatorExitPayload.validate (p : ValidatorExitPayload) : Option Error :=
  firstError
    [(p.validatorID = "", errPayloadMissingValidatorID),
      (p.phase ≠ .beginCooldown ∧ p.phase ≠ .completeExit,
        .wrap "" errPayloadInvalidExitPhase (": " ++ quote p.phase.text)),
      (p.phase = .beginCooldown ∧ p.cooldownDuration = 0, errPayloadMissingCooldownDuration),
      (p.effectiveFromVersion = 0, errPayloadMissingEffectiveVersion)]

/-- The kind an exit phase stands for. The zero kind of a phase no constant has cannot arise after
    `Validate`. -/
def ExitPhase.kind : ExitPhase → LifecycleEventKind
  | beginCooldown => .beginCooldown
  | completeExit => .exit
  | undeclared _ _ => .undeclared "" (by decide)

def extractExit : Except Error (List LifecycleEvent) :=
  extractWith "ValidatorExitPayload" ValidatorExitPayload.decoder ValidatorExitPayload.validate
    (fun p => .ok
      [{ kind := p.phase.kind, eventID := ev.id, causalTS := ev.causalTimestamp, seatID := p.validatorID,
         cooldownDuration := p.cooldownDuration }]) ev

structure ValidatorKeyRotatePayload where
  version : UInt8 := 0
  validatorID : ValidatorID := ""
  oldConsensusKey : PublicKey := ""
  newConsensusKey : PublicKey := ""
  oldKeyEpoch : UInt64 := 0
  newKeyEpoch : UInt64 := 0
  effectiveFromVersion : UInt64 := 0

def ValidatorKeyRotatePayload.decoder : Decoder ValidatorKeyRotatePayload :=
  struct "ValidatorKeyRotatePayload" "validatorlifecycle.ValidatorKeyRotatePayload" {}
    [field "v" uint8 (·.version) fun p x => { p with version := x },
      field "validator_id" validatorIDDecoder (·.validatorID) fun p x => { p with validatorID := x },
      field "old_consensus_key" publicKeyDecoder (·.oldConsensusKey) fun p x => { p with oldConsensusKey := x },
      field "new_consensus_key" publicKeyDecoder (·.newConsensusKey) fun p x => { p with newConsensusKey := x },
      field "old_key_epoch" uint64 (·.oldKeyEpoch) fun p x => { p with oldKeyEpoch := x },
      field "new_key_epoch" uint64 (·.newKeyEpoch) fun p x => { p with newKeyEpoch := x },
      field "effective_from_version" uint64 (·.effectiveFromVersion) fun p x => { p with effectiveFromVersion := x }]

def ValidatorKeyRotatePayload.validate (p : ValidatorKeyRotatePayload) : Option Error :=
  firstError
    [(p.validatorID = "", errPayloadMissingValidatorID),
      (p.oldConsensusKey = "" ∨ p.newConsensusKey = "", errPayloadMissingConsensusKey),
      (p.oldKeyEpoch = 0 ∨ p.newKeyEpoch = 0, errPayloadMissingKeyEpoch),
      (p.newKeyEpoch ≤ p.oldKeyEpoch,
        .wrap "" errPayloadKeyEpochNotAdvanced s!": old={p.oldKeyEpoch} new={p.newKeyEpoch}"),
      (p.effectiveFromVersion = 0, errPayloadMissingEffectiveVersion)]

def extractKeyRotate : Except Error (List LifecycleEvent) :=
  extractWith "ValidatorKeyRotatePayload" ValidatorKeyRotatePayload.decoder
    ValidatorKeyRotatePayload.validate (fun p => .ok
      [{ kind := .rotateKey, eventID := ev.id, causalTS := ev.causalTimestamp, seatID := p.validatorID,
         operatorKey := p.newConsensusKey, oldOperatorKey := p.oldConsensusKey }]) ev

structure ValidatorSlashAppliedPayload where
  version : UInt8 := 0
  validatorID : ValidatorID := ""
  offense : String := ""
  evidenceRef : String := ""
  slashPercentBP : UInt32 := 0
  slashAmount : UInt64 := 0
  remainingStake : UInt64 := 0
  permanentExclusion : Bool := false
  cooldownDuration : UInt64 := 0
  reason : String := ""
  effectiveFromVersion : UInt64 := 0

def ValidatorSlashAppliedPayload.decoder : Decoder ValidatorSlashAppliedPayload :=
  struct "ValidatorSlashAppliedPayload" "validatorlifecycle.ValidatorSlashAppliedPayload" {}
    [field "v" uint8 (·.version) fun p x => { p with version := x },
      field "validator_id" validatorIDDecoder (·.validatorID) fun p x => { p with validatorID := x },
      field "offense" string (·.offense) fun p x => { p with offense := x },
      field "evidence_ref" string (·.evidenceRef) fun p x => { p with evidenceRef := x },
      field "slash_percent_bp" uint32 (·.slashPercentBP) fun p x => { p with slashPercentBP := x },
      field "slash_amount" uint64 (·.slashAmount) fun p x => { p with slashAmount := x },
      field "remaining_stake" uint64 (·.remainingStake) fun p x => { p with remainingStake := x },
      field "permanent_exclusion" bool (·.permanentExclusion) fun p x => { p with permanentExclusion := x },
      field "cooldown_duration" uint64 (·.cooldownDuration) fun p x => { p with cooldownDuration := x },
      field "reason" string (·.reason) fun p x => { p with reason := x },
      field "effective_from_version" uint64 (·.effectiveFromVersion) fun p x => { p with effectiveFromVersion := x }]

def ValidatorSlashAppliedPayload.validate (p : ValidatorSlashAppliedPayload) : Option Error :=
  firstError
    [(p.validatorID = "", errPayloadMissingValidatorID),
      (p.offense = "", errPayloadMissingOffense),
      (p.evidenceRef = "", errPayloadMissingEvidenceRef),
      (p.slashPercentBP = 0 ∨ 10000 < p.slashPercentBP,
        .wrap "" errPayloadInvalidSlashPercent s!": {p.slashPercentBP}"),
      (p.reason = "", errPayloadMissingReason),
      (p.effectiveFromVersion = 0, errPayloadMissingEffectiveVersion)]

def extractSlash : Except Error (List LifecycleEvent) :=
  extractWith "ValidatorSlashAppliedPayload" ValidatorSlashAppliedPayload.decoder
    ValidatorSlashAppliedPayload.validate (fun p => .ok
      [{ kind := .slash, eventID := ev.id, causalTS := ev.causalTimestamp, seatID := p.validatorID,
         reason := p.reason, slashAmount := p.slashAmount, permanentExclusion := p.permanentExclusion,
         cooldownDuration := p.cooldownDuration }]) ev

structure ValidatorRecoveryKeySetPayload where
  version : UInt8 := 0
  validatorID : ValidatorID := ""
  recoveryPublicKey : PublicKey := ""
  requestedAt : Int64 := 0

def ValidatorRecoveryKeySetPayload.decoder : Decoder ValidatorRecoveryKeySetPayload :=
  struct "ValidatorRecoveryKeySetPayload" "validatorlifecycle.ValidatorRecoveryKeySetPayload" {}
    [field "v" uint8 (·.version) fun p x => { p with version := x },
      field "validator_id" validatorIDDecoder (·.validatorID) fun p x => { p with validatorID := x },
      field "recovery_public_key" publicKeyDecoder (·.recoveryPublicKey) fun p x => { p with recoveryPublicKey := x },
      field "requested_at" int64 (·.requestedAt) fun p x => { p with requestedAt := x }]

def ValidatorRecoveryKeySetPayload.validate (p : ValidatorRecoveryKeySetPayload) : Option Error :=
  firstError
    [(p.validatorID = "", errPayloadMissingValidatorID),
      (p.recoveryPublicKey = "", errPayloadMissingRecoveryKey),
      (p.requestedAt ≤ 0, errPayloadMissingRequestedAt)]

def extractRecoveryKeySet : Except Error (List LifecycleEvent) :=
  extractWith "ValidatorRecoveryKeySetPayload" ValidatorRecoveryKeySetPayload.decoder
    ValidatorRecoveryKeySetPayload.validate (fun p => .ok
      [{ kind := .recoveryKeySet, eventID := ev.id, causalTS := ev.causalTimestamp,
         seatID := p.validatorID, recoveryKey := p.recoveryPublicKey, requestedAt := p.requestedAt }]) ev

/-- The check of the events a recovery key must have signed. -/
def requireSigner (recoveryPublicKey : PublicKey) (out : LifecycleEvent) : Except Error (List LifecycleEvent) :=
  if ev.agentID ≠ recoveryPublicKey then
    .error (.wrap "" errRecoverySignerMismatch s!": signer={ev.agentID} recovery_key={recoveryPublicKey}")
  else .ok [out]

structure ValidatorEmergencySuspendPayload where
  version : UInt8 := 0
  validatorID : ValidatorID := ""
  recoveryPublicKey : PublicKey := ""
  reason : String := ""
  requestedAt : Int64 := 0

def ValidatorEmergencySuspendPayload.decoder : Decoder ValidatorEmergencySuspendPayload :=
  struct "ValidatorEmergencySuspendPayload" "validatorlifecycle.ValidatorEmergencySuspendPayload" {}
    [field "v" uint8 (·.version) fun p x => { p with version := x },
      field "validator_id" validatorIDDecoder (·.validatorID) fun p x => { p with validatorID := x },
      field "recovery_public_key" publicKeyDecoder (·.recoveryPublicKey) fun p x => { p with recoveryPublicKey := x },
      field "reason" string (·.reason) fun p x => { p with reason := x },
      field "requested_at" int64 (·.requestedAt) fun p x => { p with requestedAt := x }]

def ValidatorEmergencySuspendPayload.validate (p : ValidatorEmergencySuspendPayload) : Option Error :=
  firstError
    [(p.validatorID = "", errPayloadMissingValidatorID),
      (p.recoveryPublicKey = "", errPayloadMissingRecoveryKey),
      (p.reason = "", errPayloadMissingReason),
      (p.requestedAt ≤ 0, errPayloadMissingRequestedAt)]

def extractEmergencySuspend : Except Error (List LifecycleEvent) :=
  extractWith "ValidatorEmergencySuspendPayload" ValidatorEmergencySuspendPayload.decoder
    ValidatorEmergencySuspendPayload.validate (fun p => requireSigner ev p.recoveryPublicKey
      { kind := .emergencySuspend, eventID := ev.id, causalTS := ev.causalTimestamp,
        seatID := p.validatorID, recoveryKey := p.recoveryPublicKey, reason := p.reason,
        requestedAt := p.requestedAt }) ev

structure ValidatorRecoveryRotatePayload where
  version : UInt8 := 0
  validatorID : ValidatorID := ""
  recoveryPublicKey : PublicKey := ""
  newPublicKey : PublicKey := ""
  requestedAt : Int64 := 0
  effectiveAfter : Int64 := 0
  effectiveFromVersion : UInt64 := 0

def ValidatorRecoveryRotatePayload.decoder : Decoder ValidatorRecoveryRotatePayload :=
  struct "ValidatorRecoveryRotatePayload" "validatorlifecycle.ValidatorRecoveryRotatePayload" {}
    [field "v" uint8 (·.version) fun p x => { p with version := x },
      field "validator_id" validatorIDDecoder (·.validatorID) fun p x => { p with validatorID := x },
      field "recovery_public_key" publicKeyDecoder (·.recoveryPublicKey) fun p x => { p with recoveryPublicKey := x },
      field "new_public_key" publicKeyDecoder (·.newPublicKey) fun p x => { p with newPublicKey := x },
      field "requested_at" int64 (·.requestedAt) fun p x => { p with requestedAt := x },
      field "effective_after" int64 (·.effectiveAfter) fun p x => { p with effectiveAfter := x },
      field "effective_from_version" uint64 (·.effectiveFromVersion) fun p x => { p with effectiveFromVersion := x }]

def ValidatorRecoveryRotatePayload.validate (p : ValidatorRecoveryRotatePayload) : Option Error :=
  firstError
    [(p.validatorID = "", errPayloadMissingValidatorID),
      (p.recoveryPublicKey = "", errPayloadMissingRecoveryKey),
      (p.newPublicKey = "", errPayloadMissingNewPublicKey),
      (p.requestedAt ≤ 0, errPayloadMissingRequestedAt),
      (p.effectiveAfter ≤ 0, errPayloadMissingEffectiveAfter),
      (p.effectiveFromVersion = 0, errPayloadMissingEffectiveVersion)]

def extractRecoveryRotate : Except Error (List LifecycleEvent) :=
  extractWith "ValidatorRecoveryRotatePayload" ValidatorRecoveryRotatePayload.decoder
    ValidatorRecoveryRotatePayload.validate (fun p => requireSigner ev p.recoveryPublicKey
      { kind := .recoveryRotate, eventID := ev.id, causalTS := ev.causalTimestamp,
        seatID := p.validatorID, recoveryKey := p.recoveryPublicKey, newPublicKey := p.newPublicKey,
        requestedAt := p.requestedAt, effectiveAfter := p.effectiveAfter }) ev

structure ValidatorRecoveryRotateCancelPayload where
  version : UInt8 := 0
  validatorID : ValidatorID := ""
  recoveryPublicKey : PublicKey := ""
  rotationEventID : String := ""
  requestedAt : Int64 := 0

def ValidatorRecoveryRotateCancelPayload.decoder : Decoder ValidatorRecoveryRotateCancelPayload :=
  struct "ValidatorRecoveryRotateCancelPayload"
    "validatorlifecycle.ValidatorRecoveryRotateCancelPayload" {}
    [field "v" uint8 (·.version) fun p x => { p with version := x },
      field "validator_id" validatorIDDecoder (·.validatorID) fun p x => { p with validatorID := x },
      field "recovery_public_key" publicKeyDecoder (·.recoveryPublicKey) fun p x => { p with recoveryPublicKey := x },
      field "rotation_event_id" string (·.rotationEventID) fun p x => { p with rotationEventID := x },
      field "requested_at" int64 (·.requestedAt) fun p x => { p with requestedAt := x }]

def ValidatorRecoveryRotateCancelPayload.validate (p : ValidatorRecoveryRotateCancelPayload) :
    Option Error :=
  firstError
    [(p.validatorID = "", errPayloadMissingValidatorID),
      (p.recoveryPublicKey = "", errPayloadMissingRecoveryKey),
      (p.rotationEventID = "", errPayloadMissingRotationEventID),
      (p.requestedAt ≤ 0, errPayloadMissingRequestedAt)]

def extractRecoveryRotateCancel : Except Error (List LifecycleEvent) :=
  extractWith "ValidatorRecoveryRotateCancelPayload" ValidatorRecoveryRotateCancelPayload.decoder
    ValidatorRecoveryRotateCancelPayload.validate (fun p => requireSigner ev p.recoveryPublicKey
      { kind := .recoveryRotateCancel, eventID := ev.id, causalTS := ev.causalTimestamp,
        seatID := p.validatorID, recoveryKey := p.recoveryPublicKey, rotationEventID := p.rotationEventID,
        requestedAt := p.requestedAt }) ev

/-- `ExtractLifecycleEvent`: the reducer's events a DAG event stands for. -/
def extractLifecycleEvent : Except Error (List LifecycleEvent) :=
  match ev.type with
  | .validatorGenesisSet => extractGenesis ev
  | .validatorJoin => extractJoin ev
  | .validatorActivate => extractActivate ev
  | .validatorSuspend => extractSuspend ev
  | .validatorResume => extractResume ev
  | .validatorExit => extractExit ev
  | .validatorKeyRotate => extractKeyRotate ev
  | .validatorSlashApplied => extractSlash ev
  | .validatorRecoveryKeySet => extractRecoveryKeySet ev
  | .validatorEmergencySuspend => extractEmergencySuspend ev
  | .validatorRecoveryRotate => extractRecoveryRotate ev
  | .validatorRecoveryRotateCancel => extractRecoveryRotateCancel ev
  | type => .error (.wrap "" errUnsupportedEvent (": " ++ quote type.text))

end aethernet.validatorlifecycle
