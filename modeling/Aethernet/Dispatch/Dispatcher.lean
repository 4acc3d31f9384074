import Aethernet.Event.Canonical
import Aethernet.Golang.Method
import Aethernet.Golang.Sort

open golang aethernet.event

namespace aethernet.dispatch

inductive AdmissionState where
  | absent
  | reservedPendingPrereqs
  | processing
  | applied
  | failedRetryable
  deriving DecidableEq

inductive PerConsumerStatus where
  | pending
  | applied
  | failedRetryable
  deriving DecidableEq

/-- `ConsumerType`; a `uint8` that is none of the four does not register. -/
inductive ConsumerType where
  | typeA
  | typeB
  | typeC
  | typeD
  | other (value : UInt8)
  deriving DecidableEq

inductive RecoveryStatus where
  | notStarted
  | completed
  deriving DecidableEq

structure AdmissionRecord where
  schemaVersion : UInt32
  key : String
  state : AdmissionState
  dagAnchor : EventID
  prerequisiteSchemaVersion : UInt32
  consumers : Map String PerConsumerStatus
  eventID : EventID
  eventType : String
  createdAtEpoch : UInt64
  missingPrerequisites : List EventID := []
  evidenceEmitted : Bool := false

def AdmissionRecord.setStatus (name : String) (status : PerConsumerStatus) (record : AdmissionRecord) :
    AdmissionRecord :=
  { record with consumers := record.consumers.insert name status }

def AdmissionRecord.toProcessing (record : AdmissionRecord) : AdmissionRecord :=
  { record with state := .processing, missingPrerequisites := [] }

def computeTopLevelState (consumers : Map String PerConsumerStatus) : AdmissionState :=
  if ∃ name ∈ consumers.keys, consumers.lookup name = some .failedRetryable then .failedRetryable
  else if (∀ name ∈ consumers.keys, consumers.lookup name = some .applied) ∧ consumers ≠ ∅ then .applied
  else .processing

/-- What a `Consumer` declares. What its `Apply` and `RecoveryProbe` answer is up to the call. -/
structure Consumer where
  name : String
  type : ConsumerType
  interested : Event → Bool
  prerequisites : Event → List EventID
  prerequisiteSchemaVersion : UInt32

def validateConsumer (c : Consumer) : Except Error Unit :=
  if c.name = "" then .error (.new "dispatch: consumer Name() must be non-empty")
  else match c.type with
    | .other value => .error (.new s!"dispatch: consumer {quote c.name} has invalid Type {value}")
    | _ => .ok ()

/-- The registered consumers, by their names. -/
structure Registry where
  byName : Map String Consumer
  keyed : ∀ name c, byName.lookup name = some c → c.name = name

namespace Registry

def empty : Registry where
  byName := ∅
  keyed name c hlookup := by simp at hlookup

def register (c : Consumer) : Method Registry Unit := fun r =>
  match validateConsumer c with
  | .error err => (.error err, r)
  | .ok () =>
    if c.name ∈ r.byName then (.error (.new s!"dispatch: consumer {quote c.name} already registered"), r)
    else (.ok (), {
      byName := r.byName.insert c.name c
      keyed := fun name c' hlookup => by
        rw [Finmap.lookup_insert_eq] at hlookup
        split_ifs at hlookup with hname
        · cases hlookup
          exact hname.symm
        · exact r.keyed name c' hlookup })

def snapshotInterestedConsumers (order : RangeOrder String Consumer) (ev : Event) (r : Registry) : List Consumer :=
  ((order.visit r.byName).map Prod.snd).filter (·.interested ev)

end Registry

structure DAGAnchorReader where
  tips : List EventID
  isAncestor : EventID → EventID → Except Error Bool
  get : EventID → Except Error Event
  id_eq : ∀ id ev, get id = .ok ev → ev.id = id

def errCorruptedAdmissionState : Error :=
  .new "dispatch: corrupted admission state — DAG anchor not reachable from any current tip"

def errPrerequisiteForgery : Error :=
  .new "dispatch: prerequisite forgery — EventID not DAG-reachable from triggering event"

namespace DAGAnchorReader

variable (dag : DAGAnchorReader)

def verifyAnchor (storedAnchor : EventID) : Except Error Unit :=
  if storedAnchor = "" then .ok ()
  else if dag.tips.any fun tip => tip = storedAnchor || dag.isAncestor storedAnchor tip matches .ok true then .ok ()
  else .error errCorruptedAdmissionState

def currentAnchor : EventID := dag.tips.headD ""

def notProjected (ids : List EventID) : List EventID := ids.filter fun id => dag.get id matches .error _

/-- `checkPrerequisites` for the set of all prerequisites, in the order in which it is visited; what is missing. -/
def checkPrerequisites (ev : Event) : List EventID → Except Error (List EventID)
  | [] => .ok []
  | pid :: rest =>
    match dag.isAncestor pid ev.id with
    | .error err => .error
        (.wrap "" errPrerequisiteForgery s!": consumer prerequisite {pid} for event {ev.id}: {err.text}")
    | .ok false => .error (.wrap "" errPrerequisiteForgery s!": {pid} is not an ancestor of {ev.id}")
    | .ok true => (checkPrerequisites ev rest).map (dag.notProjected [pid] ++ ·)

end DAGAnchorReader

def deferralComplaintThreshold : UInt64 := 30

def deferralFailoverThreshold : UInt64 := 100

def isNotFound (err : Error) : Bool := err.text = "Key not found"

/-- What a call finds around it. Each write and each call of a consumer takes a tick of the clock, at which the process
    may crash. A call returns its Go error as a value, so that an error of the method is a crash. The error of
    `applyErr` is the one that `Apply` returns or panics with. -/
structure CallEnv where
  dag : DAGAnchorReader
  epoch : UInt64 := 0
  crashes : ℕ → Bool := fun _ => false
  writeErr : ℕ → Option Error := fun _ => none
  applyErr : ℕ → Option Error := fun _ => none
  probeErr : ℕ → Option Error := fun _ => none
  getErr : String → Option Error := fun _ => none
  getErr_not_notFound : ∀ key err, getErr key = some err → isNotFound err = false := by simp
  scanErr : Option Error := none
  /-- What comes of building and publishing the evidence for a record, if there is an emitter. -/
  emit : Option (AdmissionRecord → Option Error) := none
  consumerOrder : RangeOrder String Consumer := .byKey
  statusOrder : RangeOrder String PerConsumerStatus := .byKey
  prereqOrder : RangeOrder EventID Unit := .byKey
  scanOrder : RangeOrder String AdmissionRecord := .byKey

/-- `Dispatcher`: its store, the index in memory, what its consumers have done, by name and event, and the clock. -/
structure Dispatcher where
  store : Map String AdmissionRecord := ∅
  deferralIndex : EventID → List String := fun _ => []
  effects : List (String × EventID) := []
  clock : ℕ := 0

/-- The BLAKE3 hash of a text. -/
abbrev Blake3 := String → List UInt8

def admissionKey (c : Crypto) (blake3 : Blake3) (ev : Event) : Except Error String :=
  match canonicalBytes c ev with
  | .error err => .error (.wrap s!"dispatch: canonicalize event {ev.id}: " err "")
  | .ok canonical => .ok ("dispatch:" ++ hexEncode (blake3 canonical))

namespace Dispatcher

variable (env : CallEnv) (reg : Registry)

def crashed : Error := .new "crash"

variable (d : Dispatcher)

def tick : Dispatcher := { d with clock := d.clock + 1 }

def act {A : Type} (f : Dispatcher → A × Dispatcher) : Method Dispatcher A := fun d =>
  if env.crashes d.clock then (.error crashed, d)
  else (.ok (f d).1, (f d).2.tick)

def getAdmission (key : String) (d : Dispatcher) : Except Error AdmissionRecord :=
  match env.getErr key with
  | some err => .error err
  | none => match d.store.lookup key with
    | some record => .ok record
    | none => .error (.new "Key not found")

def putAdmission (key : String) (record : AdmissionRecord) : Method Dispatcher (Except Error Unit) :=
  act env fun d => match env.writeErr d.clock with
    | some err => (.error err, d)
    | none => (.ok (), { d with store := d.store.insert key record })

def deleteAdmission (key : String) : Method Dispatcher (Except Error Unit) :=
  act env fun d => match env.writeErr d.clock with
    | some err => (.error err, d)
    | none => (.ok (), { d with store := d.store.erase key })

def allAdmissions : Except Error (List AdmissionRecord) :=
  match env.scanErr with
  | some err => .error err
  | none => .ok ((env.scanOrder.visit d.store).map Prod.snd)

variable (name : String) (ev : Event)

/-- `safeApply` of a consumer whose `Apply` has its effect exactly when it returns nil. -/
def safeApply : Method Dispatcher (Except Error Unit) :=
  act env fun d => match env.applyErr d.clock with
    | some err => (.error err, d)
    | none => (.ok (), { d with effects := d.effects ++ [(name, ev.id)] })

/-- `RecoveryProbe` of a consumer whose answers are accurate. -/
def recoveryProbe : Method Dispatcher (Except Error RecoveryStatus) :=
  act env fun d => match env.probeErr d.clock with
    | some err => (.error err, d)
    | none => (.ok (if (name, ev.id) ∈ d.effects then .completed else .notStarted), d)

def addToDeferralIndex (missing : List EventID) (admissionKey : String) (d : Dispatcher) : Dispatcher :=
  { d with
    deferralIndex := missing.foldl (fun index pid => Function.update index pid (index pid ++ [admissionKey]))
      d.deferralIndex }

def removeFromDeferralIndex (admissionKey : String) (d : Dispatcher) : Dispatcher :=
  { d with deferralIndex := fun pid => (d.deferralIndex pid).filter (· ≠ admissionKey) }

def rebuildDeferralIndex (records : List AdmissionRecord) (d : Dispatcher) : Dispatcher :=
  records.foldl (fun d record =>
    if record.state = .reservedPendingPrereqs ∧ record.missingPrerequisites ≠ [] then
      d.addToDeferralIndex record.missingPrerequisites record.key
    else d) { d with deferralIndex := fun _ => [] }

/-- The loop of `invokeConsumers`: the record, and whether a consumer was invoked. -/
def applyConsumers (ev : Event) : List (String × PerConsumerStatus) → AdmissionRecord × Bool →
    Method Dispatcher (AdmissionRecord × Bool)
  | [], r => pure r
  | (name, status) :: rest, r =>
    if status = .applied ∨ name ∉ reg.byName then applyConsumers ev rest r
    else do
      match ← safeApply env name ev with
      | .error _ => applyConsumers ev rest (r.1.setStatus name .failedRetryable, true)
      | .ok () => applyConsumers ev rest (r.1.setStatus name .applied, true)

def invokeConsumers (key : String) (record : AdmissionRecord) : Method Dispatcher (Except Error Unit) := do
  let (record', changed) ← applyConsumers env reg ev (env.statusOrder.visit record.consumers) (record, false)
  if changed then
    match ← putAdmission env key { record' with state := computeTopLevelState record'.consumers } with
    | .error err => pure (.error (.wrap s!"dispatch: persist after invoke for {key}: " err ""))
    | .ok () => pure (.ok ())
  else pure (.ok ())

/-- The record of a new reservation. -/
def reservation (key : String) (ev : Event) (consumers : List Consumer) : AdmissionRecord where
  schemaVersion := 1
  key := key
  state := .reservedPendingPrereqs
  dagAnchor := env.dag.currentAnchor
  prerequisiteSchemaVersion := consumers.foldl (fun version c => max version c.prerequisiteSchemaVersion) 0
  consumers := Finmap.ofInserts (consumers.map fun c => (c.name, .pending))
  eventID := ev.id
  eventType := ev.type.text
  createdAtEpoch := env.epoch

def createReservation (key : String) (ev : Event) (consumers : List Consumer) :
    Method Dispatcher (Except Error AdmissionRecord) := do
  match ← putAdmission env key (reservation env key ev consumers) with
  | .error err => pure (.error (.wrap s!"dispatch: create reservation for {key}: " err ""))
  | .ok () => pure (.ok (reservation env key ev consumers))

def reserveOrLoad (key : String) (ev : Event) (consumers : List Consumer) :
    Method Dispatcher (Except Error AdmissionRecord) := do
  match ← Method.read (getAdmission env key) with
  | .error err =>
    if isNotFound err then createReservation env key ev consumers
    else pure (.error (.wrap s!"dispatch: get admission {key}: " err ""))
  | .ok existing =>
    if existing.state = .failedRetryable then
      match ← putAdmission env key { existing with state := .processing } with
      | .error err => pure (.error (.wrap s!"dispatch: retry transition for {key}: " err ""))
      | .ok () => pure (.ok { existing with state := .processing })
    else pure (.ok existing)

def prerequisites (consumers : List Consumer) : List EventID :=
  (env.prereqOrder.visit (Finmap.ofInserts ((consumers.flatMap (·.prerequisites ev)).map (·, ())))).map Prod.fst

/-- `Admit` for a record whose prerequisites are forged. The error of the deletion is ignored. -/
def admitForged (key : String) (err : Error) : Method Dispatcher (Except Error Unit) := do
  let _ ← deleteAdmission env key
  pure (.error err)

/-- `Admit` for a record whose prerequisites are all there. -/
def admitProjected (key : String) (record : AdmissionRecord) : Method Dispatcher (Except Error Unit) :=
  if record.state = .reservedPendingPrereqs then do
    match ← putAdmission env key record.toProcessing with
    | .error err => pure (.error (.wrap s!"dispatch: prereq-to-processing for {key}: " err ""))
    | .ok () => invokeConsumers env reg ev key record.toProcessing
  else invokeConsumers env reg ev key record

/-- `Admit` for a record that has to wait. -/
def admitDeferred (key : String) (missing : List EventID) (record : AdmissionRecord) :
    Method Dispatcher (Except Error Unit) := do
  match ← putAdmission env key { record with state := .reservedPendingPrereqs, missingPrerequisites := missing } with
  | .error err => pure (.error (.wrap s!"dispatch: persist deferral for {key}: " err ""))
  | .ok () => do
    Method.write (addToDeferralIndex missing key)
    pure (.ok ())

/-- `Admit` once the record is there. -/
def admitRecord (key : String) (consumers : List Consumer) (record : AdmissionRecord) :
    Method Dispatcher (Except Error Unit) :=
  if record.state = .applied then pure (.ok ())
  else match env.dag.checkPrerequisites ev (prerequisites env ev consumers) with
    | .error err => admitForged env key err
    | .ok [] => admitProjected env reg ev key record
    | .ok missing => admitDeferred env key missing record

/-- `Admit`. -/
def admitEvent (c : Crypto) (blake3 : Blake3) (ev : Event) : Method Dispatcher (Except Error Unit) :=
  match admissionKey c blake3 ev with
  | .error err => pure (.error (.wrap "dispatch: admission key: " err ""))
  | .ok key =>
    match env.dag.verifyAnchor env.dag.currentAnchor with
    | .error err => pure (.error err)
    | .ok () =>
      let consumers := reg.snapshotInterestedConsumers env.consumerOrder ev
      if consumers = [] then pure (.ok ())
      else do
        match ← reserveOrLoad env key ev consumers with
        | .error err => pure (.error err)
        | .ok record => admitRecord env reg ev key consumers record

/-- `checkDeferralThresholds` and `emitWithholdingEvidence`. -/
def checkDeferralThresholds (record : AdmissionRecord) : Method Dispatcher Unit :=
  if record.createdAtEpoch ≤ env.epoch ∧ deferralComplaintThreshold ≤ env.epoch - record.createdAtEpoch ∧
      !record.evidenceEmitted then
    match env.emit with
    | none => pure ()
    | some emitter => match emitter record with
      | some _ => pure ()
      | none => do
        -- the error of the write is logged
        let _ ← putAdmission env record.key { record with evidenceEmitted := true }
  else pure ()

/-- `NotifyProjection` for a record whose prerequisites are all there; its errors are logged. -/
def notifyProjected (key : String) (record : AdmissionRecord) : Method Dispatcher Unit := do
  Method.write (removeFromDeferralIndex key)
  match ← putAdmission env key record.toProcessing with
  | .error _ => pure ()
  | .ok () => match env.dag.get record.eventID with
    | .error _ => pure ()
    | .ok ev => do
      let _ ← invokeConsumers env reg ev key record.toProcessing

/-- `NotifyProjection` for a record that still waits. -/
def notifyDeferred (key : String) (record : AdmissionRecord) : Method Dispatcher Unit := do
  match ← putAdmission env key record with
  | .error _ => pure ()
  | .ok () => checkDeferralThresholds env record

/-- One round of the loop of `NotifyProjection`. -/
def notifyAdmission (key : String) : Method Dispatcher Unit := do
  match ← Method.read (getAdmission env key) with
  | .error _ => pure ()
  | .ok record =>
    if record.state ≠ .reservedPendingPrereqs then pure ()
    else match env.dag.notProjected record.missingPrerequisites with
      | [] => notifyProjected env reg key record
      | stillMissing => notifyDeferred env key { record with missingPrerequisites := stillMissing }

def notifyProjection (projectedEventID : EventID) : Method Dispatcher Unit := do
  let keys ← Method.read fun d : Dispatcher => d.deferralIndex projectedEventID
  forM keys (notifyAdmission env reg)

/-- `checkSchemaVersions`, over the consumers of a record in the order in which they are visited. -/
def checkSchemaVersions (record : AdmissionRecord) : List (String × PerConsumerStatus) → Except Error Unit
  | [] => .ok ()
  | (name, status) :: rest =>
    match reg.byName.lookup name with
    | some c =>
      if status ≠ .applied ∧ record.prerequisiteSchemaVersion ≠ c.prerequisiteSchemaVersion then
        .error (.new (s!"dispatch: schema version mismatch for consumer {quote name} on admission {record.key}: " ++
          s!"record has version {record.prerequisiteSchemaVersion}, " ++
          s!"consumer declares version {c.prerequisiteSchemaVersion}. " ++
          "Operator action: complete in-flight records under the old binary, " ++
          "or clear non-applied local admission state (dispatch: BadgerDB prefix) " ++
          "after verifying no canonical effects were committed. " ++
          "No canonical ledger rollback is implied."))
      else checkSchemaVersions record rest
    | none => checkSchemaVersions record rest

/-- The probes of `Recover` for one record. -/
def probeConsumers (ev : Event) : List (String × PerConsumerStatus) → AdmissionRecord →
    Method Dispatcher (Except Error AdmissionRecord)
  | [], record => pure (.ok record)
  | (name, status) :: rest, record =>
    if status ≠ .pending ∨ name ∉ reg.byName then probeConsumers ev rest record
    else do
      match ← recoveryProbe env name ev with
      | .error err =>
        pure (.error (.wrap s!"dispatch: recovery probe {name} for event {record.eventID}: " err ""))
      | .ok .completed => probeConsumers ev rest (record.setStatus name .applied)
      | .ok .notStarted => probeConsumers ev rest (record.setStatus name .failedRetryable)

/-- The write at the end of a round of `Recover`. -/
def persistRecovered (record : AdmissionRecord) : Method Dispatcher (Except Error Unit) := do
  match ← putAdmission env record.key { record with state := computeTopLevelState record.consumers } with
  | .error err => pure (.error (.wrap s!"dispatch: recovery persist for {record.eventID}: " err ""))
  | .ok () => pure (.ok ())

/-- `Recover` for a record that is processing. -/
def recoverProcessing (record : AdmissionRecord) : Method Dispatcher (Except Error Unit) :=
  match env.dag.get record.eventID with
  | .error err => pure (.error (.wrap s!"dispatch: recovery: event {record.eventID} not in DAG: " err ""))
  | .ok ev => do
    match ← probeConsumers env reg ev (env.statusOrder.visit record.consumers) record with
    | .error err => pure (.error err)
    | .ok record' => persistRecovered env record'

/-- `Recover` for a record that waits for prerequisites. -/
def recoverReserved (record : AdmissionRecord) : Method Dispatcher (Except Error Unit) :=
  let stillMissing := env.dag.notProjected record.missingPrerequisites
  if stillMissing = [] then do
    Method.write (removeFromDeferralIndex record.key)
    recoverProcessing env reg record.toProcessing
  else if record.createdAtEpoch ≤ env.epoch ∧ deferralFailoverThreshold ≤ env.epoch - record.createdAtEpoch then
    pure (.error (.new (s!"dispatch: admission {record.key} deferred for {env.epoch - record.createdAtEpoch} epochs " ++
      s!"(threshold {deferralFailoverThreshold}); manual intervention required")))
  else do
    match ← putAdmission env record.key { record with missingPrerequisites := stillMissing } with
    | .error err => pure (.error (.wrap s!"dispatch: recovery persist deferred {record.eventID}: " err ""))
    | .ok () => pure (.ok ())

/-- One round of the loop of `Recover`. -/
def recoverRecord (record : AdmissionRecord) : Method Dispatcher (Except Error Unit) :=
  if record.state = .applied then pure (.ok ())
  else match checkSchemaVersions reg record (env.statusOrder.visit record.consumers) with
    | .error err => pure (.error err)
    | .ok () => match record.state with
      | .applied | .failedRetryable => pure (.ok ())
      | .reservedPendingPrereqs => recoverReserved env reg record
      | .processing => recoverProcessing env reg record
      | .absent => persistRecovered env record

def recoverRecords : List AdmissionRecord → Method Dispatcher (Except Error Unit)
  | [] => pure (.ok ())
  | record :: rest => do
    match ← recoverRecord env reg record with
    | .error err => pure (.error err)
    | .ok () => recoverRecords rest

def recover : Method Dispatcher (Except Error Unit) := do
  match ← Method.read (allAdmissions env) with
  | .error err => pure (.error (.wrap "dispatch: recovery scan failed: " err ""))
  | .ok records => do
    Method.write (rebuildDeferralIndex records)
    recoverRecords env reg records

def crash : Dispatcher := { d with deferralIndex := fun _ => [] }

end Dispatcher

/-- A call of the dispatcher, or a crash between two calls. -/
inductive Call where
  | admitEvent (env : CallEnv) (ev : Event)
  | notifyProjection (env : CallEnv) (projectedEventID : EventID)
  | recover (env : CallEnv)
  | crash

namespace Dispatcher

def runCall {A : Type} (x : Method Dispatcher A) (d : Dispatcher) : Dispatcher :=
  match x d with
  | (.ok _, d') => d'
  | (.error _, d') => d'.crash

def step (c : Crypto) (blake3 : Blake3) (reg : Registry) (d : Dispatcher) : Call → Dispatcher
  | .admitEvent env ev => d.runCall (admitEvent env reg c blake3 ev)
  | .notifyProjection env id => d.runCall (notifyProjection env reg id)
  | .recover env => d.runCall (recover env reg)
  | .crash => d.crash

end Dispatcher

end aethernet.dispatch
