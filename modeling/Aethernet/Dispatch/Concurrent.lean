import Aethernet.Dispatch.Dispatcher
import Aethernet.Transition.Invariant

open golang aethernet.event

namespace aethernet.dispatch

/-- What a call is about to do; it holds no lock from one phase to the next. `record` is its own copy of the record
    under `key`, and `keys` is what a call of `NotifyProjection` has still to visit. -/
inductive Phase where
  | admitting (ev : Event)
  | reserving (ev : Event) (key : String) (consumers : List Consumer) (record : AdmissionRecord)
  | retrying (ev : Event) (key : String) (consumers : List Consumer) (record : AdmissionRecord)
  | checking (ev : Event) (key : String) (consumers : List Consumer) (record : AdmissionRecord)
  | forging (key : String) (record : AdmissionRecord)
  | deferring (key : String) (missing : List EventID) (record : AdmissionRecord)
  | indexing (key : String) (missing : List EventID)
  | promoting (ev : Event) (key : String) (record : AdmissionRecord)
  | notifying (projectedEventID : EventID)
  | visiting (keys : List String)
  | rechecking (key : String) (record : AdmissionRecord) (keys : List String)
  | waking (key : String) (record : AdmissionRecord) (keys : List String)
  | fetching (key : String) (record : AdmissionRecord) (keys : List String)
  | waiting (key : String) (record : AdmissionRecord) (keys : List String)
  | complaining (key : String) (record : AdmissionRecord) (keys : List String)
  | flagging (key : String) (record : AdmissionRecord) (keys : List String)
  | invoking (ev : Event) (key : String) (record : AdmissionRecord) (rest : List (String × PerConsumerStatus))
      (changed : Bool) (keys : List String)
  | persisting (key : String) (record : AdmissionRecord) (keys : List String)

namespace Phase

variable (env : CallEnv) (reg : Registry) (c : Crypto) (blake3 : Blake3)

/-- What comes after a record: the next key of `NotifyProjection`, or the end of the call. -/
def next : List String → Option Phase
  | [] => none
  | keys => some (visiting keys)

/-- A write to the store, after which the call goes on in the one way or the other. -/
def store (f : Map String AdmissionRecord → Map String AdmissionRecord) (written failed : Option Phase)
    (d : Dispatcher) :
    Option Phase × Dispatcher :=
  match env.writeErr d.clock with
  | some _ => (failed, d.tick)
  | none => (written, { d with store := f d.store }.tick)

/-- `invokeConsumers` at its beginning. -/
def invoke (ev : Event) (key : String) (record : AdmissionRecord) (keys : List String) : Phase :=
  invoking ev key record (env.statusOrder.visit record.consumers) false keys

/-- `Admit` from its beginning to the read of the record and what `reserveOrLoad` makes of it. -/
def load (ev : Event) (d : Dispatcher) : Option Phase :=
  match admissionKey c blake3 ev with
  | .error _ => none
  | .ok key => match env.dag.verifyAnchor env.dag.currentAnchor with
    | .error _ => none
    | .ok () =>
      let consumers := reg.snapshotInterestedConsumers env.consumerOrder ev
      if consumers = [] then none
      else match Dispatcher.getAdmission env key d with
        | .error err =>
          if isNotFound err then some (reserving ev key consumers (Dispatcher.reservation env key ev consumers))
          else none
        | .ok existing =>
          if existing.state = .failedRetryable then
            some (retrying ev key consumers { existing with state := .processing })
          else if existing.state = .applied then none
          else some (checking ev key consumers existing)

/-- `Admit` at the check of the prerequisites. -/
def check (ev : Event) (key : String) (consumers : List Consumer) (record : AdmissionRecord) : Phase :=
  match env.dag.checkPrerequisites ev (Dispatcher.prerequisites env ev consumers) with
  | .error _ => forging key record
  | .ok [] =>
    if record.state = .reservedPendingPrereqs then promoting ev key record.toProcessing
    else invoke env ev key record []
  | .ok missing =>
    deferring key missing { record with state := .reservedPendingPrereqs, missingPrerequisites := missing }

/-- `NotifyProjection` at the read of the next record. -/
def visit (key : String) (keys : List String) (d : Dispatcher) : Option Phase :=
  match Dispatcher.getAdmission env key d with
  | .error _ => next keys
  | .ok record => if record.state ≠ .reservedPendingPrereqs then next keys else some (rechecking key record keys)

/-- `checkDeferralThresholds` and `emitWithholdingEvidence` up to the write of the flag. -/
def complain (key : String) (record : AdmissionRecord) (keys : List String) : Option Phase :=
  if record.createdAtEpoch ≤ env.epoch ∧ deferralComplaintThreshold ≤ env.epoch - record.createdAtEpoch ∧
      !record.evidenceEmitted then
    match env.emit with
    | none => next keys
    | some emitter => match emitter record with
      | some _ => next keys
      | none => some (flagging key { record with evidenceEmitted := true } keys)
  else next keys

/-- One step of a call: what it is about to do next, or nothing if it has returned, and the dispatcher after it. -/
def step : Phase → Dispatcher → Option Phase × Dispatcher
  | admitting ev, d => (load env reg c blake3 ev d, d)
  | reserving ev key consumers record, d =>
    store env (·.insert key record) (some (checking ev key consumers record)) none d
  | retrying ev key consumers record, d =>
    store env (·.insert key record) (some (checking ev key consumers record)) none d
  | checking ev key consumers record, d => (some (check env ev key consumers record), d)
  | forging key _, d => store env (·.erase key) none none d
  | deferring key missing record, d => store env (·.insert key record) (some (indexing key missing)) none d
  | indexing key missing, d => (none, d.addToDeferralIndex missing key)
  | promoting ev key record, d => store env (·.insert key record) (some (invoke env ev key record [])) none d
  | notifying id, d => (next (d.deferralIndex id), d)
  | visiting [], d => (none, d)
  | visiting (key :: keys), d => (visit env key keys d, d)
  | rechecking key record keys, d => match env.dag.notProjected record.missingPrerequisites with
    | [] => (some (waking key record.toProcessing keys), d.removeFromDeferralIndex key)
    | stillMissing => (some (waiting key { record with missingPrerequisites := stillMissing } keys), d)
  | waking key record keys, d => store env (·.insert key record) (some (fetching key record keys)) (next keys) d
  | fetching key record keys, d => match env.dag.get record.eventID with
    | .error _ => (next keys, d)
    | .ok ev => (some (invoke env ev key record keys), d)
  | waiting key record keys, d => store env (·.insert key record) (some (complaining key record keys)) (next keys) d
  | complaining key record keys, d => (complain env key record keys, d)
  | flagging _ record keys, d => store env (·.insert record.key record) (next keys) (next keys) d
  | invoking _ key record [] changed keys, d =>
    (if changed then some (persisting key { record with state := computeTopLevelState record.consumers } keys)
      else next keys, d)
  | invoking ev key record ((name, status) :: rest) changed keys, d =>
    if status = .applied ∨ name ∉ reg.byName then (some (invoking ev key record rest changed keys), d)
    else match env.applyErr d.clock with
      | some _ => (some (invoking ev key (record.setStatus name .failedRetryable) rest true keys), d.tick)
      | none => (some (invoking ev key (record.setStatus name .applied) rest true keys),
          { d with effects := d.effects ++ [(name, ev.id)] }.tick)
  | persisting key record keys, d => store env (·.insert key record) (next keys) (next keys) d

section Uninterrupted

open Dispatcher

variable {env : CallEnv} {reg : Registry} {c : Crypto} {blake3 : Blake3} {d : Dispatcher} {ev : Event} {key : String}
  {record : AdmissionRecord} {keys : List String} {B : Type} {written failed : Option Phase}

/-- A call that no other call interrupts, from a phase to its end. -/
inductive Runs (env : CallEnv) (reg : Registry) (c : Crypto) (blake3 : Blake3) :
    Option Phase → Dispatcher → Dispatcher → Prop
  | returned (d : Dispatcher) : Runs env reg c blake3 none d d
  | step {phase : Phase} {d d' : Dispatcher}
      (hrest : Runs env reg c blake3 (phase.step env reg c blake3 d).1 (phase.step env reg c blake3 d).2 d') :
      Runs env reg c blake3 (some phase) d d'

theorem Runs.store {phase : Phase} {f : Map String AdmissionRecord → Map String AdmissionRecord}
    {x : Method Dispatcher (Except Error Unit)} {rest : Except Error Unit → Method Dispatcher B}
    (hstep : phase.step env reg c blake3 d = Phase.store env f written failed d)
    (hx : x d = match env.writeErr d.clock with
      | some err => (.ok (.error err), d.tick)
      | none => (.ok (.ok ()), { d with store := f d.store }.tick))
    (hwritten : ∀ d₁, Runs env reg c blake3 written d₁ (rest (.ok ()) d₁).2)
    (hfailed : ∀ err d₁, Runs env reg c blake3 failed d₁ (rest (.error err) d₁).2) :
    Runs env reg c blake3 (some phase) d ((x >>= rest) d).2 := by
  refine .step ?_
  rw [hstep, Phase.store]
  cases herr : env.writeErr d.clock with
  | some err =>
    rw [herr] at hx
    rw [Method.bind_of_ok hx]
    exact hfailed err d.tick
  | none =>
    rw [herr] at hx
    rw [Method.bind_of_ok hx]
    exact hwritten _

/-- The end of `invokeConsumers`. -/
def persist (env : CallEnv) (key : String) (r : AdmissionRecord × Bool) : Method Dispatcher (Except Error Unit) := do
  if r.2 then
    match ← putAdmission env key { r.1 with state := computeTopLevelState r.1.consumers } with
    | .error err => pure (.error (.wrap s!"dispatch: persist after invoke for {key}: " err ""))
    | .ok () => pure (.ok ())
  else pure (.ok ())

theorem invokeConsumers_eq : invokeConsumers env reg ev key record =
    applyConsumers env reg ev (env.statusOrder.visit record.consumers) (record, false) >>= persist env key := rfl

variable (hcrash : ∀ t, env.crashes t = false)

include hcrash

theorem act_eq {A : Type} (f : Dispatcher → A × Dispatcher) : act env f d = (.ok (f d).1, (f d).2.tick) :=
  if_neg (by simp [hcrash])

theorem putAdmission_eq : putAdmission env key record d = match env.writeErr d.clock with
      | some err => (.ok (.error err), d.tick)
      | none => (.ok (.ok ()), { d with store := d.store.insert key record }.tick) := by
  unfold putAdmission
  rw [act_eq hcrash]
  cases env.writeErr d.clock <;> rfl

theorem deleteAdmission_eq : deleteAdmission env key d = match env.writeErr d.clock with
      | some err => (.ok (.error err), d.tick)
      | none => (.ok (.ok ()), { d with store := d.store.erase key }.tick) := by
  unfold deleteAdmission
  rw [act_eq hcrash]
  cases env.writeErr d.clock <;> rfl

variable {rest : Except Error Unit → Method Dispatcher B}

theorem Runs.put {phase : Phase}
    (hstep : phase.step env reg c blake3 d = Phase.store env (·.insert key record) written failed d)
    (hwritten : ∀ d₁, Runs env reg c blake3 written d₁ (rest (.ok ()) d₁).2)
    (hfailed : ∀ err d₁, Runs env reg c blake3 failed d₁ (rest (.error err) d₁).2) :
    Runs env reg c blake3 (some phase) d ((putAdmission env key record >>= rest) d).2 :=
  .store hstep (putAdmission_eq hcrash) hwritten hfailed

theorem Runs.invoking (hrest : ∀ r d₁, Runs env reg c blake3 (next keys) d₁ (rest r d₁).2)
    (entries : List (String × PerConsumerStatus)) (record : AdmissionRecord) (changed : Bool) (d : Dispatcher) :
    Runs env reg c blake3 (some (.invoking ev key record entries changed keys)) d
      ((applyConsumers env reg ev entries (record, changed) >>= fun r => persist env key r >>= rest) d).2 := by
  induction entries generalizing record changed d with
  | nil =>
    refine .step ?_
    cases changed with
    | false => exact hrest (.ok ()) d
    | true =>
      change Runs env reg c blake3 _ d (((putAdmission env key _ >>= _) >>= rest) d).2
      rw [bind_assoc]
      exact .put hcrash rfl (fun d₁ => hrest _ d₁) fun err d₁ => hrest _ d₁
  | cons entry entries ih =>
    obtain ⟨name, status⟩ := entry
    refine .step ?_
    simp only [Phase.step, applyConsumers]
    split_ifs
    · exact ih record changed d
    · rw [bind_assoc]
      have happly : safeApply env name ev d = match env.applyErr d.clock with
          | some err => (.ok (.error err), d.tick)
          | none => (.ok (.ok ()), { d with effects := d.effects ++ [(name, ev.id)] }.tick) := by
        unfold safeApply
        rw [act_eq hcrash]
        cases env.applyErr d.clock <;> rfl
      cases herr : env.applyErr d.clock with
      | some err | none =>
        rw [herr] at happly
        rw [Method.bind_of_ok happly]
        exact ih _ true _

theorem Runs.invoke (hrest : ∀ r d₁, Runs env reg c blake3 (next keys) d₁ (rest r d₁).2) (d : Dispatcher) :
    Runs env reg c blake3 (some (Phase.invoke env ev key record keys)) d
      ((invokeConsumers env reg ev key record >>= rest) d).2 := by
  rw [invokeConsumers_eq, bind_assoc]
  exact .invoking hcrash hrest _ record false d

theorem Runs.admitRecord {consumers : List Consumer} (happlied : record.state ≠ .applied)
    (d : Dispatcher) : Runs env reg c blake3 (some (.checking ev key consumers record)) d
      (Dispatcher.admitRecord env reg ev key consumers record d).2 := by
  have hinvoke : ∀ record d₁, Runs env reg c blake3 (some (Phase.invoke env ev key record [])) d₁
      (invokeConsumers env reg ev key record d₁).2 := by
    intro record d₁
    rw [← bind_pure (invokeConsumers env reg ev key record)]
    exact .invoke hcrash (fun _ d₂ => .returned d₂) d₁
  refine .step ?_
  unfold Dispatcher.admitRecord
  rw [if_neg happlied]
  simp only [Phase.step, check]
  cases env.dag.checkPrerequisites ev (prerequisites env ev consumers) with
  | error err =>
    refine Runs.store rfl (deleteAdmission_eq hcrash) ?_ ?_
    · exact fun d₁ => .returned d₁
    · exact fun _ d₁ => .returned d₁
  | ok missing => cases missing with
    | nil =>
      unfold admitProjected
      split_ifs
      · refine .put hcrash rfl ?_ ?_
        · exact hinvoke record.toProcessing
        · exact fun _ d₁ => .returned d₁
      · exact hinvoke record d
    | cons pid missing =>
      refine .put hcrash rfl ?_ ?_
      · exact fun d₁ => .step (.returned _)
      · exact fun _ d₁ => .returned d₁

/-- A call of `Admit` that is not interrupted is the sequential one. -/
theorem runs_admit (d : Dispatcher) :
    Runs env reg c blake3 (some (.admitting ev)) d (admitEvent env reg c blake3 ev d).2 := by
  refine .step ?_
  simp only [Phase.step, load, admitEvent]
  cases admissionKey c blake3 ev with
  | error err => exact .returned d
  | ok key =>
    cases env.dag.verifyAnchor env.dag.currentAnchor with
    | error err => exact .returned d
    | ok _ =>
      dsimp only
      split_ifs
      · exact .returned d
      · unfold reserveOrLoad
        rw [bind_assoc, Method.read_bind]
        cases getAdmission env key d with
        | error err =>
          dsimp only
          split_ifs
          · unfold createReservation
            rw [bind_assoc]
            refine .put hcrash rfl ?_ ?_
            · exact fun d₁ => .admitRecord hcrash (by simp [reservation]) d₁
            · exact fun _ d₁ => .returned d₁
          · exact .returned d
        | ok existing =>
          dsimp only
          split_ifs with hfailed happlied
          · rw [bind_assoc]
            refine .put hcrash rfl ?_ ?_
            · exact fun d₁ => .admitRecord hcrash (by simp) d₁
            · exact fun _ d₁ => .returned d₁
          · change Runs env reg c blake3 none d (Dispatcher.admitRecord env reg ev key _ existing d).2
            unfold Dispatcher.admitRecord
            rw [if_pos happlied]
            exact .returned d
          · exact .admitRecord hcrash happlied d

variable {rest : Method Dispatcher Unit}

section

variable (hrest : ∀ d₁, Runs env reg c blake3 (next keys) d₁ (rest d₁).2)

include hrest

theorem Runs.notifyProjected (d : Dispatcher) :
    Runs env reg c blake3 (some (.waking key record.toProcessing keys)) (d.removeFromDeferralIndex key)
      ((Dispatcher.notifyProjected env reg key record >>= fun _ => rest) d).2 := by
  unfold Dispatcher.notifyProjected
  rw [bind_assoc, Method.write_bind, bind_assoc]
  refine .put hcrash rfl ?_ ?_
  · intro d₁
    refine .step ?_
    have hid : record.toProcessing.eventID = record.eventID := rfl
    simp only [Phase.step, hid]
    cases env.dag.get record.eventID with
    | error err => exact hrest d₁
    | ok ev =>
      rw [bind_assoc]
      exact .invoke hcrash (fun _ => hrest) d₁
  · exact fun _ => hrest

theorem Runs.notifyDeferred (d : Dispatcher) : Runs env reg c blake3 (some (.waiting key record keys)) d
      ((Dispatcher.notifyDeferred env key record >>= fun _ => rest) d).2 := by
  unfold Dispatcher.notifyDeferred
  rw [bind_assoc]
  refine .put hcrash rfl ?_ ?_
  · intro d₁
    refine .step ?_
    simp only [Phase.step, complain, checkDeferralThresholds]
    split_ifs
    · cases env.emit with
      | none => exact hrest d₁
      | some emitter =>
        dsimp only
        cases emitter record with
        | some err => exact hrest d₁
        | none =>
          rw [bind_assoc]
          exact .put hcrash rfl hrest fun _ => hrest
    · exact hrest d₁
  · exact fun _ => hrest

theorem Runs.notifyAdmission (d : Dispatcher) : Runs env reg c blake3 (some (.visiting (key :: keys))) d
      ((Dispatcher.notifyAdmission env reg key >>= fun _ => rest) d).2 := by
  refine .step ?_
  unfold Dispatcher.notifyAdmission
  rw [bind_assoc, Method.read_bind]
  simp only [Phase.step, visit]
  cases getAdmission env key d with
  | error err => exact hrest d
  | ok record =>
    dsimp only
    split_ifs
    · exact hrest d
    · refine .step ?_
      simp only [Phase.step]
      cases env.dag.notProjected record.missingPrerequisites with
      | nil => exact .notifyProjected hcrash hrest d
      | cons pid missing => exact .notifyDeferred hcrash hrest d

end

/-- A call of `NotifyProjection` that is not interrupted is the sequential one. -/
theorem runs_notifyProjection (id : EventID) (d : Dispatcher) :
    Runs env reg c blake3 (some (.notifying id)) d (notifyProjection env reg id d).2 := by
  have hloop : ∀ keys d₁, Runs env reg c blake3 (next keys) d₁
    (forM keys (notifyAdmission env reg) d₁ : Except Error Unit × Dispatcher).2 := by
    intro keys
    induction keys with
    | nil => exact fun d₁ => .returned d₁
    | cons key keys ih => exact fun d₁ => .notifyAdmission hcrash ih d₁
  exact .step (hloop (d.deferralIndex id) d)

end Uninterrupted

end Phase

/-- The dispatcher and the calls that are under way. -/
structure Calls where
  dispatcher : Dispatcher := {}
  phases : ℕ → Option Phase := fun _ => none

/-- The beginning of a call by an idle goroutine, or the next step of a running one. -/
inductive Move where
  | admitEvent (i : ℕ) (ev : Event)
  | notifyProjection (i : ℕ) (projectedEventID : EventID)
  | proceed (i : ℕ) (env : CallEnv)

namespace Calls

variable (reg : Registry) (c : Crypto) (blake3 : Blake3)

def begin (i : ℕ) (phase : Phase) (s : Calls) : Calls :=
  match s.phases i with
  | some _ => s
  | none => { s with phases := Function.update s.phases i (some phase) }

def step (s : Calls) : Move → Calls
  | .admitEvent i ev => s.begin i (.admitting ev)
  | .notifyProjection i id => s.begin i (.notifying id)
  | .proceed i env => match s.phases i with
    | none => s
    | some phase =>
      let (next, d) := phase.step env reg c blake3 s.dispatcher
      { dispatcher := d, phases := Function.update s.phases i next }

theorem exists_moves_of_runs {reg : Registry} {c : Crypto} {blake3 : Blake3} {env : CallEnv} {s : Calls} {i : ℕ}
    {d' : Dispatcher}
    (h : Phase.Runs env reg c blake3 (s.phases i) s.dispatcher d') :
    ∃ n, (List.replicate n (Move.proceed i env)).foldl (step reg c blake3) s =
      { dispatcher := d', phases := Function.update s.phases i none } := by
  generalize hphase : s.phases i = phase at h
  generalize hd : s.dispatcher = d at h
  induction h generalizing s with
  | returned d =>
    refine ⟨0, ?_⟩
    subst hd
    rw [← hphase, Function.update_eq_self]
    rfl
  | step hrest ih =>
    rename_i phase d d'
    subst hd
    obtain ⟨n, hn⟩ := ih (s := s.step reg c blake3 (.proceed i env)) (by simp [step, hphase]) (by simp [step, hphase])
    refine ⟨n + 1, hn.trans ?_⟩
    simp [step, hphase]

end Calls

end aethernet.dispatch
