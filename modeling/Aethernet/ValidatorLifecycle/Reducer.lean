import Aethernet.Golang.Int
import Aethernet.Golang.Errors

open golang

namespace aethernet.validatorlifecycle

/-- A stable seat identifier. -/
abbrev ValidatorID := String

/-- A hex-encoded public key; the crypto package's `AgentID`. -/
abbrev PublicKey := String

def deriveValidatorID (sha256 : String → List UInt8) (joinEventID : String) : ValidatorID :=
  hexEncode (sha256 ("aethernet-validator-seat:" ++ joinEventID))

/-- `SeatStatus`. Only the reducer writes a seat's status, so there are no other texts. -/
inductive SeatStatus where
  | pendingJoin
  | probationary
  | active
  | suspended
  | coolingDown
  | exited
  | excluded
  deriving DecidableEq, Repr

namespace SeatStatus

def text : SeatStatus → String
  | pendingJoin => "pending_join"
  | probationary => "probationary"
  | active => "active"
  | suspended => "suspended"
  | coolingDown => "cooling_down"
  | exited => "exited"
  | excluded => "excluded"

def isTerminal (s : SeatStatus) : Bool := s = exited || s = excluded

def isParticipating (s : SeatStatus) : Bool := s = probationary || s = active

def validTransitions : SeatStatus → List SeatStatus
  | pendingJoin => [probationary, excluded]
  | probationary => [active, suspended, excluded]
  | active => [suspended, coolingDown, excluded]
  | suspended => [probationary, coolingDown, excluded]
  | coolingDown => [exited, excluded]
  | exited => [pendingJoin]
  | excluded => []

def canTransitionTo (s target : SeatStatus) : Bool := target ∈ s.validTransitions

end SeatStatus

structure KeyEpoch where
  epoch : UInt64 := 0
  publicKey : PublicKey := ""
  effectiveFromEventID : String := ""
  effectiveFromCausalTS : UInt64 := 0
  deriving DecidableEq, Repr

structure PendingRecoveryRotation where
  requestEventID : String
  newPublicKey : PublicKey
  requestedAt : Int64
  effectiveAfter : Int64
  deriving DecidableEq

/-- `ValidatorSeat`. `probationAccuracy` is a float the reducer only ever sets to zero. -/
structure ValidatorSeat where
  id : ValidatorID
  status : SeatStatus
  operatorKey : PublicKey
  keyHistory : List KeyEpoch
  recoveryKey : PublicKey := ""
  pendingRotation : Option PendingRecoveryRotation := none
  stakeAmount : UInt64
  joinEventID : String
  joinCausalTS : UInt64
  activatedCausalTS : UInt64 := 0
  cooldownStartCausalTS : UInt64 := 0
  cooldownDurationEvents : UInt64 := 0
  suspensionReason : String := ""
  slashCount : ℤ := 0
  lastSlashEventID : String := ""
  probationTaskCount : ℤ := 0
  probationAccuracy : ℚ := 0
  isGenesis : Bool
  weight : UInt64 := 0
  effectiveFromVersion : UInt64
  deriving DecidableEq

def minBondedStake : UInt64 := 10000000000

/-- `CurrentKeyEpoch`: the last key epoch, or the zero value. -/
def ValidatorSeat.currentKeyEpoch (s : ValidatorSeat) : KeyEpoch := s.keyHistory.getLast?.getD {}

/-- The names of the declared `LifecycleEventKind` constants. -/
def LifecycleEventKind.declared : List String :=
  ["validator_join", "validator_activate", "validator_suspend", "validator_reinstate",
    "validator_begin_cooldown", "validator_exit", "validator_exclude", "validator_rotate_key",
    "validator_stake_update", "validator_slash", "validator_recovery_key_set",
    "validator_emergency_suspend", "validator_recovery_rotate", "validator_recovery_rotate_cancel"]

/-- `LifecycleEventKind`, with the texts no constant has. -/
inductive LifecycleEventKind where
  | join | activate | suspend | reinstate | beginCooldown | exit | exclude | rotateKey | stakeUpdate
  | slash | recoveryKeySet | emergencySuspend | recoveryRotate | recoveryRotateCancel
  | undeclared (text : String) (hnew : text ∉ LifecycleEventKind.declared)
  deriving DecidableEq

/-- `LifecycleEvent`, the reducer's input. -/
structure LifecycleEvent where
  kind : LifecycleEventKind
  eventID : String
  causalTS : UInt64
  seatID : ValidatorID
  operatorKey : PublicKey := ""
  stakeAmount : UInt64 := 0
  reason : String := ""
  cooldownDuration : UInt64 := 0
  isGenesis : Bool := false
  oldOperatorKey : PublicKey := ""
  slashAmount : UInt64 := 0
  permanentExclusion : Bool := false
  recoveryKey : PublicKey := ""
  newPublicKey : PublicKey := ""
  requestedAt : Int64 := 0
  effectiveAfter : Int64 := 0
  rotationEventID : String := ""

def errSeatNotFound : Error := .new "validatorlifecycle: seat not found"
def errSeatAlreadyExists : Error := .new "validatorlifecycle: seat already exists"
def errInvalidTransition : Error := .new "validatorlifecycle: invalid status transition"
def errUnsupportedEvent : Error := .new "validatorlifecycle: unsupported event kind"
def errMissingOperatorKey : Error := .new "validatorlifecycle: operator key required"
def errTerminalSeat : Error := .new "validatorlifecycle: seat is in terminal state"
def errCooldownNotElapsed : Error := .new "validatorlifecycle: cooldown period not elapsed"
def errKeyEpochRegression : Error := .new "validatorlifecycle: key rotation must advance epoch"
def errInsufficientStake : Error := .new "validatorlifecycle: bonded stake below minimum threshold"
def errOldKeyMismatch : Error :=
  .new "validatorlifecycle: old key does not match seat's current operator key"
def errSlashExceedsStake : Error := .new "validatorlifecycle: slash amount exceeds bonded stake"
def errNoRecoveryKey : Error := .new "validatorlifecycle: seat has no recovery key"
def errRecoveryKeyMismatch : Error :=
  .new "validatorlifecycle: recovery key does not match seat commitment"
def errNoPendingRotation : Error := .new "validatorlifecycle: no pending recovery rotation to cancel"
def errRotationEventMismatch : Error :=
  .new "validatorlifecycle: rotation_event_id does not match pending rotation"

/-- `Reducer`. The map's seat pointers are not shared, so a seat is its value. -/
structure Reducer where
  seats : Map ValidatorID ValidatorSeat := ∅
  version : UInt64 := 0

variable (ev : LifecycleEvent) (publicKey : PublicKey) (seat : ValidatorSeat) (nextVersion : UInt64)
  (sha256 : String → List UInt8) (r : Reducer)

namespace Reducer

/-- The frame of the handlers that look up the seat, make their checks, write the seat and, if `bump`,
    advance the version. -/
def editSeat (bump : Bool) (ev : LifecycleEvent) (check : ValidatorSeat → Option Error)
    (update : (nextVersion : UInt64) → ValidatorSeat → ValidatorSeat) (r : Reducer) :
    Except Error Unit × Reducer :=
  match r.seats.lookup ev.seatID with
  | none => (.error (.wrap "" errSeatNotFound s!": {ev.seatID}"), r)
  | some seat => match check seat with
    | some err => (.error err, r)
    | none =>
      let nextVersion := r.version + 1
      (.ok (), { seats := r.seats.insert ev.seatID (update nextVersion seat)
                 version := if bump then nextVersion else r.version })

/-- The check most handlers begin with. -/
def checkTransition (target : SeatStatus) (ev : LifecycleEvent) (seat : ValidatorSeat) : Option Error :=
  if seat.status.canTransitionTo target then none
  else some (.wrap "" errInvalidTransition
    s!": {seat.status.text} → {target.text} (seat={ev.seatID})")

def nextKeyEpoch : KeyEpoch where
  epoch := seat.currentKeyEpoch.epoch + 1
  publicKey := publicKey
  effectiveFromEventID := ev.eventID
  effectiveFromCausalTS := ev.causalTS

/-- The seat a first join creates. -/
def newSeat (seatID : ValidatorID) (nextVersion : UInt64) : ValidatorSeat where
  id := seatID
  status := .pendingJoin
  operatorKey := ev.operatorKey
  stakeAmount := ev.stakeAmount
  joinEventID := ev.eventID
  joinCausalTS := ev.causalTS
  isGenesis := ev.isGenesis
  effectiveFromVersion := nextVersion
  keyHistory := [{ epoch := 1, publicKey := ev.operatorKey, effectiveFromEventID := ev.eventID,
                   effectiveFromCausalTS := ev.causalTS }]

/-- The reset of an exited seat that joins again. -/
def rejoin (seat : ValidatorSeat) : ValidatorSeat :=
  { seat with
    status := .pendingJoin
    operatorKey := ev.operatorKey
    stakeAmount := ev.stakeAmount
    effectiveFromVersion := nextVersion
    keyHistory := seat.keyHistory ++ [nextKeyEpoch ev ev.operatorKey seat]
    cooldownStartCausalTS := 0
    cooldownDurationEvents := 0
    suspensionReason := ""
    probationTaskCount := 0
    probationAccuracy := 0 }

def applyJoin (ev : LifecycleEvent) (r : Reducer) : Except Error Unit × Reducer :=
  if ev.operatorKey = "" then (.error errMissingOperatorKey, r)
  else if !ev.isGenesis ∧ ev.stakeAmount < minBondedStake then
    (.error (.wrap "" errInsufficientStake s!": have {ev.stakeAmount}, need {minBondedStake}"), r)
  else
    let seatID := if ev.seatID = "" then deriveValidatorID sha256 ev.eventID else ev.seatID
    let nextVersion := r.version + 1
    match r.seats.lookup seatID with
    | some existing =>
      if existing.status ≠ .exited then
        (.error (.wrap "" errSeatAlreadyExists s!": {seatID} (status={existing.status.text})"), r)
      else if !existing.status.canTransitionTo .pendingJoin then
        (.error (.wrap "" errInvalidTransition s!": {existing.status.text} → pending_join"), r)
      else
        (.ok (), { seats := r.seats.insert seatID (rejoin ev nextVersion existing), version := nextVersion })
    | none =>
      (.ok (), { seats := r.seats.insert seatID (newSeat ev seatID nextVersion), version := nextVersion })

def applyActivate : Reducer → Except Error Unit × Reducer :=
  editSeat true ev (checkTransition .active ev) fun nextVersion seat =>
    { seat with
      status := .active
      activatedCausalTS := ev.causalTS
      probationTaskCount := 0
      probationAccuracy := 0
      weight := seat.stakeAmount
      effectiveFromVersion := nextVersion }

def applySuspend : Reducer → Except Error Unit × Reducer :=
  editSeat true ev (checkTransition .suspended ev) fun nextVersion seat =>
    { seat with
      status := .suspended
      suspensionReason := ev.reason
      weight := 0
      effectiveFromVersion := nextVersion }

/-- The error of a cooldown that has not elapsed. The subtraction wraps when the event is older than
    the start of the cooldown. -/
def checkCooldown : Option Error :=
  let elapsed := ev.causalTS - seat.cooldownStartCausalTS
  if elapsed < seat.cooldownDurationEvents then
    some (.wrap "" errCooldownNotElapsed
      s!": need {seat.cooldownDurationEvents}, elapsed {elapsed} (seat={ev.seatID})")
  else none

def applyReinstate : Reducer → Except Error Unit × Reducer :=
  editSeat true ev
    (fun seat => (checkTransition .probationary ev seat).or
      (if 0 < seat.cooldownDurationEvents ∧ 0 < seat.cooldownStartCausalTS then checkCooldown ev seat
       else none))
    fun nextVersion seat =>
      { seat with
        status := .probationary
        suspensionReason := ""
        cooldownStartCausalTS := 0
        cooldownDurationEvents := 0
        probationTaskCount := 0
        probationAccuracy := 0
        weight := seat.stakeAmount / 2
        effectiveFromVersion := nextVersion }

def applyBeginCooldown : Reducer → Except Error Unit × Reducer :=
  editSeat true ev (checkTransition .coolingDown ev) fun nextVersion seat =>
    { seat with
      status := .coolingDown
      cooldownStartCausalTS := ev.causalTS
      cooldownDurationEvents := ev.cooldownDuration
      weight := 0
      effectiveFromVersion := nextVersion }

def applyExit : Reducer → Except Error Unit × Reducer :=
  editSeat true ev
    (fun seat => (checkTransition .exited ev seat).or
      (if 0 < seat.cooldownDurationEvents then checkCooldown ev seat else none))
    fun nextVersion seat =>
      { seat with status := .exited, weight := 0, effectiveFromVersion := nextVersion }

/-- `applyExclude`; an excluded seat is left alone without an error. -/
def applyExclude : Except Error Unit × Reducer :=
  match r.seats.lookup ev.seatID with
  | none => (.error (.wrap "" errSeatNotFound s!": {ev.seatID}"), r)
  | some seat =>
    if seat.status = .excluded then (.ok (), r)
    else if seat.status = .exited then
      (.error (.wrap "" errTerminalSeat s!": cannot exclude exited seat {ev.seatID}"), r)
    else match checkTransition .excluded ev seat with
      | some err => (.error err, r)
      | none =>
        let nextVersion := r.version + 1
        let seat' := { seat with
          status := .excluded
          slashCount := seat.slashCount + 1
          lastSlashEventID := ev.eventID
          suspensionReason := ev.reason
          weight := 0
          effectiveFromVersion := nextVersion }
        (.ok (), { seats := r.seats.insert ev.seatID seat', version := nextVersion })

/-- The error of an event on a seat in a terminal state; `action` is what the event wanted to do. -/
def checkTerminal (action : String) (ev : LifecycleEvent) (seat : ValidatorSeat) : Option Error :=
  if seat.status.isTerminal then
    some (.wrap "" errTerminalSeat s!": cannot {action} for {seat.status.text} seat {ev.seatID}")
  else none

/-- The error of a key rotation to the key in use. -/
def checkNewKey (ev : LifecycleEvent) (seat : ValidatorSeat) : Option Error :=
  if seat.operatorKey = publicKey then
    some (.wrap "" errKeyEpochRegression s!": new key identical to current (seat={ev.seatID})")
  else none

def applyRotateKey : Except Error Unit × Reducer :=
  if ev.operatorKey = "" then (.error errMissingOperatorKey, r)
  else editSeat true ev
    (fun seat => ((checkTerminal "rotate key" ev seat).or (checkNewKey ev.operatorKey ev seat)).or
      (if ev.oldOperatorKey ≠ "" ∧ ev.oldOperatorKey ≠ seat.operatorKey then
        some (.wrap "" errOldKeyMismatch
          s!": seat={ev.seatID} expected={seat.operatorKey} got={ev.oldOperatorKey}")
       else none))
    (fun nextVersion seat =>
      { seat with
        operatorKey := ev.operatorKey
        keyHistory := seat.keyHistory ++ [nextKeyEpoch ev ev.operatorKey seat]
        effectiveFromVersion := nextVersion }) r

def applyStakeUpdate : Reducer → Except Error Unit × Reducer :=
  editSeat true ev (checkTerminal "update stake" ev) fun nextVersion seat =>
    { seat with
      stakeAmount := ev.stakeAmount
      weight := if seat.status.isParticipating then ev.stakeAmount else seat.weight
      effectiveFromVersion := nextVersion }

/-- The writes `applySlash` makes before it checks the transition. -/
def chargeSlash : ValidatorSeat :=
  { seat with
    stakeAmount := seat.stakeAmount - ev.slashAmount
    slashCount := seat.slashCount + 1
    lastSlashEventID := ev.eventID }

/-- The writes `applySlash` makes after the check: exclusion, or suspension with a cooldown. -/
def sentence (seat : ValidatorSeat) : ValidatorSeat :=
  if ev.permanentExclusion then
    { seat with
      status := .excluded, suspensionReason := ev.reason, weight := 0
      effectiveFromVersion := nextVersion }
  else
    { seat with
      status := .suspended, suspensionReason := ev.reason, weight := 0
      cooldownStartCausalTS := if 0 < ev.cooldownDuration then ev.causalTS else seat.cooldownStartCausalTS
      cooldownDurationEvents :=
        if 0 < ev.cooldownDuration then ev.cooldownDuration else seat.cooldownDurationEvents
      effectiveFromVersion := nextVersion }

/-- `applySlash`. When the transition is refused, the seat in the map keeps the reduced stake and the
    new slash record. -/
def applySlash : Except Error Unit × Reducer :=
  match r.seats.lookup ev.seatID with
  | none => (.error (.wrap "" errSeatNotFound s!": {ev.seatID}"), r)
  | some seat =>
    if seat.status.isTerminal then
      if seat.status = .excluded then (.ok (), r)
      else (.error (.wrap "" errTerminalSeat s!": cannot slash {seat.status.text} seat {ev.seatID}"), r)
    else if seat.stakeAmount < ev.slashAmount then
      (.error (.wrap "" errSlashExceedsStake
        s!": slash={ev.slashAmount} stake={seat.stakeAmount} (seat={ev.seatID})"), r)
    else
      let nextVersion := r.version + 1
      let charged := chargeSlash ev seat
      let target := if ev.permanentExclusion then SeatStatus.excluded else .suspended
      match checkTransition target ev charged with
      | some err => (.error err, { r with seats := r.seats.insert ev.seatID charged })
      | none =>
        (.ok (), { seats := r.seats.insert ev.seatID (sentence ev nextVersion charged)
                   version := nextVersion })

def applyRecoveryKeySet : Except Error Unit × Reducer :=
  if ev.recoveryKey = "" then (.error errMissingOperatorKey, r)
  else editSeat false ev (checkTerminal "set recovery key" ev)
    (fun _ seat => { seat with recoveryKey := ev.recoveryKey }) r

/-- The checks of the events a recovery key signs. -/
def checkRecovery : Option Error :=
  if seat.recoveryKey = "" then some (.wrap "" errNoRecoveryKey s!": seat={ev.seatID}")
  else if ev.recoveryKey ≠ seat.recoveryKey then
    some (.wrap "" errRecoveryKeyMismatch s!": seat={ev.seatID}")
  else none

def applyEmergencySuspend : Reducer → Except Error Unit × Reducer :=
  editSeat true ev (fun seat => (checkRecovery ev seat).or (checkTransition .suspended ev seat))
    fun nextVersion seat =>
      { seat with
        status := .suspended
        suspensionReason := "recovery:" ++ ev.reason
        weight := 0
        effectiveFromVersion := nextVersion }

/-- `applyRecoveryRotate`, which records a pending rotation and clears it again. -/
def applyRecoveryRotate : Except Error Unit × Reducer :=
  if ev.newPublicKey = "" then (.error errMissingOperatorKey, r)
  else editSeat true ev
    (fun seat => ((checkRecovery ev seat).or (checkTerminal "rotate key" ev seat)).or
      (checkNewKey ev.newPublicKey ev seat))
    (fun nextVersion seat =>
      { seat with
        operatorKey := ev.newPublicKey
        keyHistory := seat.keyHistory ++ [nextKeyEpoch ev ev.newPublicKey seat]
        effectiveFromVersion := nextVersion
        pendingRotation := none }) r

def applyRecoveryRotateCancel : Reducer → Except Error Unit × Reducer :=
  editSeat false ev
    (fun seat => (checkRecovery ev seat).or (match seat.pendingRotation with
      | none => some (.wrap "" errNoPendingRotation s!": seat={ev.seatID}")
      | some pending =>
        if pending.requestEventID ≠ ev.rotationEventID then
          some (.wrap "" errRotationEventMismatch
            s!": seat={ev.seatID} pending={pending.requestEventID} cancel={ev.rotationEventID}")
        else none))
    fun _ seat => { seat with pendingRotation := none }

def apply (ev : LifecycleEvent) (r : Reducer) : Except Error Unit × Reducer :=
  match ev.kind with
  | .join => r.applyJoin sha256 ev
  | .activate => r.applyActivate ev
  | .suspend => r.applySuspend ev
  | .reinstate => r.applyReinstate ev
  | .beginCooldown => r.applyBeginCooldown ev
  | .exit => r.applyExit ev
  | .exclude => r.applyExclude ev
  | .rotateKey => r.applyRotateKey ev
  | .stakeUpdate => r.applyStakeUpdate ev
  | .slash => r.applySlash ev
  | .recoveryKeySet => r.applyRecoveryKeySet ev
  | .emergencySuspend => r.applyEmergencySuspend ev
  | .recoveryRotate => r.applyRecoveryRotate ev
  | .recoveryRotateCancel => r.applyRecoveryRotateCancel ev
  | .undeclared text _ => (.error (.wrap "" errUnsupportedEvent (": " ++ quote text)), r)

end Reducer

end aethernet.validatorlifecycle
