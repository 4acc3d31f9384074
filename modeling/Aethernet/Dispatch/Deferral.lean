import Aethernet.Dag.Ancestors
import Aethernet.Dispatch.ExactlyOnce

open golang aethernet event dispatch.Dispatcher dispatch.DAGAnchorReader Finmap

namespace aethernet.dispatch

open Relation

/-- The local DAG as the dispatcher reads it. `tips` is the frontier in the order in which it is visited. -/
def readerOf (d : dag.DAG) (rep : d.Rep) (tips : List EventID) : DAGAnchorReader where
  tips := tips
  isAncestor ancestor descendant := d.isAncestor ancestor descendant
  get id := d.get id
  id_eq _ _ hget := rep.id_of_get hget

/-- Nothing goes wrong in this call: the process does not crash, and neither the store nor a consumer returns an
    error. -/
structure CallEnv.Faultless (env : CallEnv) : Prop where
  crashes : ∀ t, env.crashes t = false
  writes : ∀ t, env.writeErr t = none
  applies : ∀ t, env.applyErr t = none
  reads : ∀ key, env.getErr key = none

/-- An interested consumer declares this prerequisite for the event. -/
def Requires (reg : Registry) (ev : Event) (pid : EventID) : Prop :=
  ∃ name consumer, reg.byName.lookup name = some consumer ∧ consumer.interested ev = true ∧
  pid ∈ consumer.prerequisites ev

/-- A record of an event that is not yet applied: it has every interested consumer, and those that it has as applied
    have done their work. -/
structure AdmissionRecord.Tracks (reg : Registry) (ev : Event) (effects : List (String × EventID))
    (record : AdmissionRecord) : Prop where
  unfinished : record.state ≠ .applied
  consumers : ∀ name consumer, reg.byName.lookup name = some consumer → consumer.interested ev = true →
    ∃ status, record.consumers.lookup name = some status ∧ (status = .applied → (name, ev.id) ∈ effects)

section Prerequisites

variable {reg : Registry} {env : CallEnv} {ev : Event} {pid : EventID}

theorem mem_snapshotInterestedConsumers {order : RangeOrder String Consumer} {consumer : Consumer} :
    consumer ∈ reg.snapshotInterestedConsumers order ev ↔
      (∃ name, reg.byName.lookup name = some consumer) ∧ consumer.interested ev = true := by
  simp [Registry.snapshotInterestedConsumers, order.mem_visit_iff]

theorem mem_prerequisites :
    pid ∈ prerequisites env ev (reg.snapshotInterestedConsumers env.consumerOrder ev) ↔ Requires reg ev pid := by
  have hset : ∀ ids : List EventID, pid ∈ (env.prereqOrder.visit (ofInserts (ids.map (·, ())))).map Prod.fst ↔
      pid ∈ ids := by
    intro ids
    have hmem := mem_ofInserts (ids.map (·, ())) pid
    simp only [List.map_map, List.mem_map, Function.comp_apply, exists_eq_right] at hmem
    rw [← hmem, ← lookup_isSome, Option.isSome_iff_exists]
    simp [env.prereqOrder.mem_visit_iff]
  unfold prerequisites Requires
  rw [hset, List.mem_flatMap]
  simp only [mem_snapshotInterestedConsumers]
  grind

theorem isAncestor_of_checkPrerequisites {dag : DAGAnchorReader} {ids missing : List EventID}
    (h : dag.checkPrerequisites ev ids = .ok missing) : ∀ pid ∈ ids, dag.isAncestor pid ev.id = .ok true := by
  induction ids generalizing missing with
  | nil => simp
  | cons pid rest ih =>
    unfold checkPrerequisites at h
    split at h
    · cases h
    · cases h
    next hancestor =>
      cases hrest : dag.checkPrerequisites ev rest with
      | error err => simp [hrest, Except.map] at h
      | ok missing' => exact List.forall_mem_cons.mpr ⟨hancestor, ih hrest⟩

theorem checkPrerequisites_of_isAncestor {dag : DAGAnchorReader} {ids : List EventID}
    (h : ∀ pid ∈ ids, dag.isAncestor pid ev.id = .ok true ∧ ∃ e, dag.get pid = .ok e) :
    dag.checkPrerequisites ev ids = .ok [] := by
  induction ids with
  | nil => rfl
  | cons pid rest ih =>
    obtain ⟨⟨hancestor, e, hget⟩, hrest⟩ := List.forall_mem_cons.mp h
    simp [checkPrerequisites, hancestor, ih hrest, notProjected, hget, Except.map]

theorem verifyAnchor_currentAnchor (dag : DAGAnchorReader) : dag.verifyAnchor dag.currentAnchor = .ok () := by
  unfold verifyAnchor currentAnchor
  cases dag.tips with
  | nil => rfl
  | cons tip tips => simp

end Prerequisites

namespace Dispatcher

variable {c : Crypto} {blake3 : Blake3} {reg : Registry} {env : CallEnv} {d : Dispatcher} {ev : Event} {key : String}
  {x : String × EventID} {record : AdmissionRecord}

section Effects

theorem act_keeps {A : Type} {P : Dispatcher → Prop} {f : Dispatcher → A × Dispatcher} (htick : ∀ d, P d → P d.tick)
    (hf : ∀ d, P d → P (f d).2) : Method.Keeps P (act env f) := by
  intro d hd
  unfold act
  split_ifs
  · exact hd
  · exact htick _ (hf d hd)

theorem putAdmission_keeps_effect : Method.Keeps (x ∈ ·.effects) (putAdmission env key record) := by
  refine act_keeps (fun _ hd => hd) fun d hd => ?_
  cases env.writeErr d.clock <;> exact hd

theorem safeApply_keeps_effect {name : String} : Method.Keeps (x ∈ ·.effects) (safeApply env name ev) := by
  refine act_keeps (fun _ hd => hd) fun d hd => ?_
  cases env.applyErr d.clock with
  | some err => exact hd
  | none => exact List.mem_append_left _ hd

theorem applyConsumers_keeps_effect {entries : List (String × PerConsumerStatus)} {r : AdmissionRecord × Bool} :
    Method.Keeps (x ∈ ·.effects) (applyConsumers env reg ev entries r) := by
  induction entries generalizing r with
  | nil => exact Method.Keeps.pure r
  | cons entry rest ih =>
    refine Method.Keeps.ite (fun _ => ih) fun _ => Method.Keeps.bind safeApply_keeps_effect fun answer => ?_
    cases answer <;> exact ih

theorem invokeConsumers_keeps_effect : Method.Keeps (x ∈ ·.effects) (invokeConsumers env reg ev key record) := by
  refine Method.Keeps.bind applyConsumers_keeps_effect fun r => Method.Keeps.ite (fun _ => ?_) fun _ =>
    Method.Keeps.pure _
  refine Method.Keeps.bind putAdmission_keeps_effect fun answer => ?_
  cases answer <;> exact Method.Keeps.pure _

theorem notifyDeferred_keeps_effect : Method.Keeps (x ∈ ·.effects) (notifyDeferred env key record) := by
  refine Method.Keeps.bind putAdmission_keeps_effect fun answer => ?_
  cases answer with
  | error err => exact Method.Keeps.pure _
  | ok _ =>
    refine Method.Keeps.ite (fun _ => ?_) fun _ => Method.Keeps.pure _
    cases env.emit with
    | none => exact Method.Keeps.pure _
    | some emitter =>
      dsimp only
      cases emitter record with
      | some err => exact Method.Keeps.pure _
      | none => exact Method.Keeps.bind putAdmission_keeps_effect fun _ => Method.Keeps.pure _

theorem notifyProjected_keeps_effect : Method.Keeps (x ∈ ·.effects) (notifyProjected env reg key record) := by
  refine Method.Keeps.bind (Method.Keeps.write fun _ hd => hd) fun _ => ?_
  refine Method.Keeps.bind putAdmission_keeps_effect fun answer => ?_
  cases answer with
  | error err => exact Method.Keeps.pure _
  | ok _ =>
    cases env.dag.get record.eventID with
    | error err => exact Method.Keeps.pure _
    | ok ev => exact Method.Keeps.bind invokeConsumers_keeps_effect fun _ => Method.Keeps.pure _

theorem notifyProjection_keeps_effect {id : EventID} : Method.Keeps (x ∈ ·.effects) (notifyProjection env reg id) := by
  refine Method.Keeps.bind (Method.Keeps.read _) fun keys => Method.Keeps.loop fun key _ => ?_
  refine Method.Keeps.bind (Method.Keeps.read _) fun answer => ?_
  cases answer with
  | error err => exact Method.Keeps.pure _
  | ok record =>
    refine Method.Keeps.ite (fun _ => Method.Keeps.pure _) fun _ => ?_
    cases env.dag.notProjected record.missingPrerequisites with
    | nil => exact notifyProjected_keeps_effect
    | cons pid rest => exact notifyDeferred_keeps_effect

theorem runCall_keeps_effect {A : Type} {call : Method Dispatcher A} (hcall : Method.Keeps (x ∈ ·.effects) call)
    (hx : x ∈ d.effects) : x ∈ (d.runCall call).effects := by
  have hafter := hcall d hx
  unfold runCall
  split
  next heq => rwa [heq] at hafter
  next heq => rwa [heq] at hafter

end Effects

section Faultless

variable (hfaultless : env.Faultless)

include hfaultless

theorem putAdmission_of_faultless :
    putAdmission env key record d = (.ok (.ok ()), tick { d with store := d.store.insert key record }) := by
  simp [putAdmission, act, hfaultless.crashes, hfaultless.writes]

theorem deleteAdmission_of_faultless :
    deleteAdmission env key d = (.ok (.ok ()), tick { d with store := d.store.erase key }) := by
  simp [deleteAdmission, act, hfaultless.crashes, hfaultless.writes]

theorem safeApply_of_faultless {name : String} :
    safeApply env name ev d = (.ok (.ok ()), tick { d with effects := d.effects ++ [(name, ev.id)] }) := by
  simp [safeApply, act, hfaultless.crashes, hfaultless.applies]

theorem applyConsumers_of_faultless (entries : List (String × PerConsumerStatus)) (r : AdmissionRecord × Bool)
    (d : Dispatcher) :
    ∃ r' d', applyConsumers env reg ev entries r d = (.ok r', d') ∧ ∀ name status, (name, status) ∈ entries →
      status ≠ .applied → name ∈ reg.byName → (name, ev.id) ∈ d'.effects := by
  induction entries generalizing r d with
  | nil => exact ⟨r, d, rfl, by simp⟩
  | cons entry rest ih =>
    obtain ⟨name, status⟩ := entry
    unfold applyConsumers
    by_cases hskip : status = .applied ∨ name ∉ reg.byName
    · rw [if_pos hskip]
      obtain ⟨r', d', hcall, hrest⟩ := ih r d
      refine ⟨r', d', hcall, fun name' status' hmem hpending hregistered => ?_⟩
      obtain heq | hmem := List.mem_cons.mp hmem
      · cases heq
        exact absurd hskip (by simp [hpending, hregistered])
      · exact hrest name' status' hmem hpending hregistered
    · rw [if_neg hskip, Method.bind_of_ok (safeApply_of_faultless hfaultless)]
      obtain ⟨r', d', hcall, hrest⟩ := ih (r.1.setStatus name .applied, true) _
      refine ⟨r', d', hcall, fun name' status' hmem hpending hregistered => ?_⟩
      obtain heq | hmem := List.mem_cons.mp hmem
      · cases heq
        have hkeeps : Method.Keeps ((name, ev.id) ∈ ·.effects)
            (applyConsumers env reg ev rest (r.1.setStatus name .applied, true)) := applyConsumers_keeps_effect
        have hkept := hkeeps (tick { d with effects := d.effects ++ [(name, ev.id)] }) (by simp [tick])
        rwa [hcall] at hkept
      · exact hrest name' status' hmem hpending hregistered

theorem invokeConsumers_of_faultless (key : String) (record : AdmissionRecord) (d : Dispatcher) :
    ∃ d', invokeConsumers env reg ev key record d = (.ok (.ok ()), d') ∧ ∀ name status,
      record.consumers.lookup name = some status → status ≠ .applied → name ∈ reg.byName →
      (name, ev.id) ∈ d'.effects := by
  obtain ⟨⟨record', changed⟩, d', hcall, happlied⟩ := applyConsumers_of_faultless hfaultless
    (env.statusOrder.visit record.consumers) (record, false) d
  have hdone : ∀ name status, record.consumers.lookup name = some status → status ≠ .applied → name ∈ reg.byName →
      (name, ev.id) ∈ d'.effects := fun name status hlookup =>
    happlied name status ((env.statusOrder.mem_visit_iff _).mpr hlookup)
  unfold invokeConsumers
  rw [Method.bind_of_ok hcall]
  cases changed with
  | false => exact ⟨d', rfl, hdone⟩
  | true =>
    dsimp only
    rw [if_pos rfl, Method.bind_of_ok (putAdmission_of_faultless hfaultless)]
    exact ⟨_, rfl, hdone⟩

theorem admitProjected_of_faultless (htracks : record.Tracks reg ev d.effects) :
    ∃ d', admitProjected env reg ev key record d = (.ok (.ok ()), d') ∧ ∀ name consumer,
      reg.byName.lookup name = some consumer → consumer.interested ev = true → (name, ev.id) ∈ d'.effects := by
  have hinvoked : ∀ (record' : AdmissionRecord) (d₁ : Dispatcher), record'.consumers = record.consumers →
      d₁.effects = d.effects → ∃ d', invokeConsumers env reg ev key record' d₁ = (.ok (.ok ()), d') ∧ ∀ name consumer,
        reg.byName.lookup name = some consumer → consumer.interested ev = true → (name, ev.id) ∈ d'.effects := by
    intro record' d₁ hconsumers heffects
    obtain ⟨d', hcall, hpending⟩ := invokeConsumers_of_faultless hfaultless key record' d₁
    refine ⟨d', hcall, fun name consumer hlookup hinterested => ?_⟩
    obtain ⟨status, hstatus, happlied⟩ := htracks.consumers name consumer hlookup hinterested
    by_cases hdone : status = .applied
    · have hkeeps : Method.Keeps ((name, ev.id) ∈ ·.effects) (invokeConsumers env reg ev key record') :=
        invokeConsumers_keeps_effect
      have hbefore : (name, ev.id) ∈ d₁.effects := by
        rw [heffects]
        exact happlied hdone
      have hkept := hkeeps d₁ hbefore
      rwa [hcall] at hkept
    · exact hpending name status (hconsumers ▸ hstatus) hdone (mem_of_lookup_eq_some hlookup)
  unfold admitProjected
  split_ifs
  · rw [Method.bind_of_ok (putAdmission_of_faultless hfaultless)]
    exact hinvoked record.toProcessing _ rfl rfl
  · exact hinvoked record d rfl rfl

theorem reserveOrLoad_of_faultless
    (htracks : ∀ record, d.store.lookup key = some record → record.Tracks reg ev d.effects) :
    ∃ record d', record.Tracks reg ev d'.effects ∧
      reserveOrLoad env key ev (reg.snapshotInterestedConsumers env.consumerOrder ev) d = (.ok (.ok record), d') := by
  unfold reserveOrLoad
  rw [Method.read_bind]
  unfold getAdmission
  rw [hfaultless.reads]
  cases hlookup : d.store.lookup key with
  | none =>
    refine ⟨reservation env key ev (reg.snapshotInterestedConsumers env.consumerOrder ev), _, ?_,
      Method.bind_of_ok (putAdmission_of_faultless hfaultless)⟩
    -- every interested consumer is pending
    refine ⟨by simp [reservation], fun name consumer hconsumer hinterested => ?_⟩
    have hmem : name ∈ (reservation env key ev (reg.snapshotInterestedConsumers env.consumerOrder ev)).consumers := by
      refine (mem_ofInserts _ _).mpr ?_
      rw [List.map_map]
      exact List.mem_map.mpr ⟨consumer, mem_snapshotInterestedConsumers.mpr ⟨⟨name, hconsumer⟩, hinterested⟩,
        reg.keyed name consumer hconsumer⟩
    obtain ⟨status, hstatus⟩ := mem_iff.mp hmem
    refine ⟨status, hstatus, fun happlied => ?_⟩
    rw [lookup_reservation hstatus] at happlied
    cases happlied
  | some existing =>
    have hexisting := htracks existing hlookup
    dsimp only
    split_ifs
    · refine ⟨{ existing with state := .processing }, _, ?_, Method.bind_of_ok (putAdmission_of_faultless hfaultless)⟩
      exact ⟨by simp, hexisting.consumers⟩
    · exact ⟨existing, d, hexisting, rfl⟩

variable (hkey : admissionKey c blake3 ev = .ok key)

include hkey

theorem admit_of_faultless (hsome : reg.snapshotInterestedConsumers env.consumerOrder ev ≠ [])
    (htracks : ∀ record, d.store.lookup key = some record → record.Tracks reg ev d.effects) :
    ∃ record d', record.Tracks reg ev d'.effects ∧ admitEvent env reg c blake3 ev d =
      admitRecord env reg ev key (reg.snapshotInterestedConsumers env.consumerOrder ev) record d' := by
  obtain ⟨record, d', hrecord, hload⟩ := reserveOrLoad_of_faultless hfaultless htracks
  refine ⟨record, d', hrecord, ?_⟩
  unfold admitEvent
  simp only [hkey, verifyAnchor_currentAnchor, if_neg hsome]
  rw [Method.bind_of_ok hload]

variable (htracks : ∀ record, d.store.lookup key = some record → record.Tracks reg ev d.effects)

include htracks

theorem admit_of_isAncestor (hancestors : ∀ pid, Requires reg ev pid →
      env.dag.isAncestor pid ev.id = .ok true ∧ ∃ e, env.dag.get pid = .ok e) :
    ∃ d', admitEvent env reg c blake3 ev d = (.ok (.ok ()), d') ∧ ∀ name consumer,
      reg.byName.lookup name = some consumer → consumer.interested ev = true → (name, ev.id) ∈ d'.effects := by
  by_cases hsome : reg.snapshotInterestedConsumers env.consumerOrder ev = []
  · refine ⟨d, ?_, fun name consumer hlookup hinterested => ?_⟩
    · unfold admitEvent
      simp only [hkey, verifyAnchor_currentAnchor, if_pos hsome]
      rfl
    · have hmem : consumer ∈ reg.snapshotInterestedConsumers env.consumerOrder ev :=
        mem_snapshotInterestedConsumers.mpr ⟨⟨name, hlookup⟩, hinterested⟩
      rw [hsome] at hmem
      cases hmem
  · obtain ⟨record, d', hrecord, hadmitted⟩ := admit_of_faultless hfaultless hkey hsome htracks
    have hcheck : env.dag.checkPrerequisites ev
        (prerequisites env ev (reg.snapshotInterestedConsumers env.consumerOrder ev)) = .ok [] :=
      checkPrerequisites_of_isAncestor fun pid hpid => hancestors pid (mem_prerequisites.mp hpid)
    rw [hadmitted, admitRecord, if_neg hrecord.unfinished, hcheck]
    exact admitProjected_of_faultless hfaultless hrecord

theorem isAncestor_of_admit
    (hadmits : (admitEvent env reg c blake3 ev d).1 = .ok (.ok ())) {pid : EventID} (hpid : Requires reg ev pid) :
    env.dag.isAncestor pid ev.id = .ok true := by
  have hsome : reg.snapshotInterestedConsumers env.consumerOrder ev ≠ [] := by
    obtain ⟨name, consumer, hlookup, hinterested, -⟩ := hpid
    exact List.ne_nil_of_mem (mem_snapshotInterestedConsumers.mpr ⟨⟨name, hlookup⟩, hinterested⟩)
  obtain ⟨record, d', hrecord, hadmitted⟩ := admit_of_faultless hfaultless hkey hsome htracks
  rw [hadmitted, admitRecord, if_neg hrecord.unfinished] at hadmits
  cases hcheck : env.dag.checkPrerequisites ev
      (prerequisites env ev (reg.snapshotInterestedConsumers env.consumerOrder ev)) with
  | error err =>
    rw [hcheck] at hadmits
    dsimp only at hadmits
    rw [admitForged, Method.bind_of_ok (deleteAdmission_of_faultless hfaultless)] at hadmits
    cases hadmits
  | ok missing => exact isAncestor_of_checkPrerequisites hcheck pid (mem_prerequisites.mpr hpid)

end Faultless

end Dispatcher

/-- The local DAG and the dispatcher. -/
structure Node where
  dag : dag.DAG
  rep : dag.Rep
  dispatcher : Dispatcher

/-- An event to be committed, and what the store of the DAG and the dispatcher find around them. -/
structure Commit where
  ev : Event
  putEventErr : Option Error := none
  tips : List EventID
  env : CallEnv

namespace Node

variable (c : Crypto) (blake3 : Blake3) (reg : Registry)

def callEnv (env : CallEnv) (tips : List EventID) (n : Node) : CallEnv := { env with dag := readerOf n.dag n.rep tips }

/-- `Admit` on this node: what it returns, and the node after it. -/
def admitEvent (env : CallEnv) (tips : List EventID) (ev : Event) (n : Node) :
    Except Error (Except Error Unit) × Node :=
  let call := Dispatcher.admitEvent (n.callEnv env tips) reg c blake3 ev n.dispatcher
  (call.1, { n with dispatcher := call.2 })

/-- `Add`, with `NotifyProjection` called for an event that is now in the DAG. -/
def commit (n : Node) (k : Commit) : Node :=
  let added := n.dag.add c k.putEventErr k.ev
  let n' : Node := { n with dag := added.2, rep := n.rep.add c k.putEventErr k.ev }
  match added.1 with
  | .error _ => n'
  | .ok () =>
    { n' with dispatcher := n'.dispatcher.runCall (notifyProjection (n'.callEnv k.env k.tips) reg k.ev.id) }

/-- `Admit` takes the event, defers it if a prerequisite is missing, and every interested consumer is applied to it once
    all prerequisites are committed. -/
structure DefersCompletely (env : CallEnv) (tips : List EventID) (ev : Event) (key : String) (n : Node) : Prop where
  admits : (n.admitEvent c blake3 reg env tips ev).1 = .ok (.ok ())
  defers : (∃ pid, Requires reg ev pid ∧ pid ∉ n.dag.events) →
    ∃ record, (n.admitEvent c blake3 reg env tips ev).2.dispatcher.store.lookup key = some record ∧
      record.state = .reservedPendingPrereqs
  applies : ∀ commits : List Commit, (∀ k ∈ commits, k.env.Faultless) →
    (∀ pid, Requires reg ev pid →
      pid ∈ (commits.foldl (commit c reg) (n.admitEvent c blake3 reg env tips ev).2).dag.events) →
    ∀ name consumer, reg.byName.lookup name = some consumer → consumer.interested ev = true →
      (name, ev.id) ∈ (commits.foldl (commit c reg) (n.admitEvent c blake3 reg env tips ev).2).dispatcher.effects

variable {c : Crypto} {blake3 : Blake3} {reg : Registry} {n : Node} {env : CallEnv} {tips : List EventID} {ev : Event}
  {key : String} {x : String × EventID}

theorem mem_effects_commit (k : Commit) (hx : x ∈ n.dispatcher.effects) :
    x ∈ (n.commit c reg k).dispatcher.effects := by
  unfold commit
  dsimp only
  split
  · exact hx
  · exact runCall_keeps_effect notifyProjection_keeps_effect hx

theorem mem_effects_commits (commits : List Commit) (hx : x ∈ n.dispatcher.effects) :
    x ∈ (commits.foldl (commit c reg) n).dispatcher.effects := by
  induction commits generalizing n with
  | nil => exact hx
  | cons k rest ih => exact ih (mem_effects_commit k hx)

/-- Of the events whose prerequisites are among their transitive references, `Admit` takes those that have none and
    those that are already in the DAG, all references included. It defers none. -/
theorem defersCompletely_iff {full : dag.DAG}
    (hextends : ∀ id e, n.dag.events.lookup id = some e → full.events.lookup id = some e)
    (hrefs : ∀ pid, Requires reg ev pid → TransGen full.Child pid ev.id) (hfaultless : env.Faultless)
    (hkey : admissionKey c blake3 ev = .ok key)
    (htracks : ∀ record, n.dispatcher.store.lookup key = some record → record.Tracks reg ev n.dispatcher.effects) :
    n.DefersCompletely c blake3 reg env tips ev key ↔ ∀ pid, Requires reg ev pid → ev.id ∈ n.dag.events := by
  have henv : (n.callEnv env tips).Faultless :=
    ⟨hfaultless.crashes, hfaultless.writes, hfaultless.applies, hfaultless.reads⟩
  constructor
  · intro hcomplete pid hpid
    have hancestor := Dispatcher.isAncestor_of_admit henv hkey htracks hcomplete.admits hpid
    exact (dag.DAG.mem_of_isAncestor_ok hancestor).2
  · intro hpresent
    -- the references of an event in the DAG are in the DAG
    have hpaths : ∀ pid, Requires reg ev pid → TransGen n.dag.Child pid ev.id := fun pid hpid =>
      n.rep.transGen_of_extends hextends (hrefs pid hpid) (hpresent pid hpid)
    obtain ⟨d', hadmitted, happlied⟩ := Dispatcher.admit_of_isAncestor henv hkey htracks fun pid hpid =>
      ⟨n.rep.isAncestor_iff.mpr (hpaths pid hpid), dag.DAG.get_of_mem (n.rep.mem_of_transGen (hpaths pid hpid))⟩
    constructor
    · exact congrArg Prod.fst hadmitted
    · rintro ⟨pid, hpid, hmissing⟩
      exact absurd (n.rep.mem_of_transGen (hpaths pid hpid)) hmissing
    · intro commits _ _ name consumer hlookup hinterested
      have hafter : (n.admitEvent c blake3 reg env tips ev).2.dispatcher = d' := congrArg Prod.snd hadmitted
      refine mem_effects_commits commits ?_
      rw [hafter]
      exact happlied name consumer hlookup hinterested

section Sample

def prerequisiteEvent : Event := (transferEvent "p" "alice" "bob" "1").signed

def dependentEvent : Event := { (transferEvent "e" "alice" "bob" "2").signed with causalRefs := some ["p"] }

/-- The registry of a consumer that needs the references of an event. -/
def waitingRegistry : Registry :=
  (Registry.empty.register { sampleConsumer with prerequisites := Event.refs }).2

/-- A node that has nothing yet. -/
def emptyNode : Node where
  dag := {}
  rep := .fresh
  dispatcher := {}

def afterCommits (n : Node) : Node :=
  [{ ev := prerequisiteEvent, tips := ["p"], env := sampleEnv : Commit },
    { ev := dependentEvent, tips := ["e"], env := sampleEnv }].foldl (commit sampleCrypto waitingRegistry) n

theorem requires_waitingRegistry_iff {pid : EventID} : Requires waitingRegistry dependentEvent pid ↔ pid = "p" := by
  have hregistered : waitingRegistry.byName =
      (∅ : Map String Consumer).insert "settlement" { sampleConsumer with prerequisites := Event.refs } := rfl
  unfold Requires
  rw [hregistered]
  constructor
  · rintro ⟨name, consumer, hlookup, -, hpid⟩
    rw [lookup_insert_eq] at hlookup
    split_ifs at hlookup
    · cases hlookup
      exact List.mem_singleton.mp hpid
    · simp at hlookup
  · rintro rfl
    exact ⟨"settlement", _, lookup_insert _, rfl, List.mem_singleton_self _⟩

theorem sampleEnv_faultless : sampleEnv.Faultless := ⟨fun _ => rfl, fun _ => rfl, fun _ => rfl, fun _ => rfl⟩

theorem child_afterCommits : TransGen (afterCommits emptyNode).dag.Child "p" "e" :=
  (afterCommits emptyNode).rep.isAncestor_iff.mp (by decide +kernel)

/-- With the event and its reference in the DAG, the consumer is applied. -/
theorem present_prerequisite_defersCompletely : (afterCommits emptyNode).DefersCompletely sampleCrypto (fun _ => [])
    waitingRegistry Dispatcher.sampleEnv ["e"] dependentEvent "dispatch:" := by
  refine (defersCompletely_iff (fun _ _ hlookup => hlookup) (fun pid hpid => ?_) sampleEnv_faultless (by decide +kernel)
    fun record hlookup => ?_).mpr fun pid hpid => ?_
  · rw [requires_waitingRegistry_iff.mp hpid]
    exact child_afterCommits
  · have hnone : (afterCommits emptyNode).dispatcher.store.lookup "dispatch:" = none := by decide +kernel
    cases hlookup
  · decide +kernel

/-- An event that comes before the reference which its consumer needs fails, and its consumer is not applied when both
    have been committed. -/
theorem missing_prerequisite_fails_admission :
    Requires waitingRegistry dependentEvent "p" ∧ TransGen (afterCommits emptyNode).dag.Child "p" "e" ∧
    (emptyNode.admitEvent sampleCrypto (fun _ => []) waitingRegistry Dispatcher.sampleEnv [] dependentEvent).1 matches
      .ok (.error _) ∧
    (let n := afterCommits
      (emptyNode.admitEvent sampleCrypto (fun _ => []) waitingRegistry Dispatcher.sampleEnv [] dependentEvent).2
    "p" ∈ n.dag.events ∧ "e" ∈ n.dag.events ∧ n.dispatcher.effects = []) := by
  refine ⟨requires_waitingRegistry_iff.mpr rfl, child_afterCommits, ?_, ?_⟩
  · decide +kernel
  · decide +kernel

end Sample

end Node

end aethernet.dispatch
