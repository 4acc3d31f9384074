import Aethernet.Dispatch.Coherence
import Aethernet.Transition.Invariant

open golang aethernet.event Finmap

namespace aethernet.dispatch.Dispatcher

section

variable {w : Wiring} {d d' d₀ : Dispatcher} {env : CallEnv} {key : String} {record old : AdmissionRecord}

theorem lookup_of_getAdmission (hget : getAdmission env key d = .ok record) : d.store.lookup key = some record := by
  unfold getAdmission at hget
  split at hget
  · cases hget
  · split at hget
    next hlookup =>
      cases hget
      exact hlookup
    · cases hget

section Notify

variable {keys : List String}

theorem putWaiting_guards (record old : AdmissionRecord) (hkey : key ∈ keys)
    (hstate : old.state = .reservedPendingPrereqs)
    (hrewrites : Rewrites record old) :
    Guards w (fun d => Holds w key old d ∧ Unhurried env keys d) (putAdmission env key record)
      fun r d => (∀ u, r = .ok u → Holds w key record d) ∧ Unhurried env keys d := by
  refine putAdmission_guards record old hrewrites (fun d _ hd => hd.mono rfl (Nat.le_succ _))
    fun d hheld hd => hd.put ?_
  intro _ hfailed
  rw [AdmissionRecord.HasFailed, hrewrites.consumers] at hfailed
  exact hd key hkey old hheld.stored hstate hfailed

theorem checkDeferralThresholds_guards (record : AdmissionRecord) (hkey : record.key ∈ keys)
    (hstate : record.state = .reservedPendingPrereqs) :
    Guards w (fun d => Holds w record.key record d ∧ Unhurried env keys d) (checkDeferralThresholds env record)
      fun _ => Unhurried env keys := by
  have hpass : Guards w (fun d => Holds w record.key record d ∧ Unhurried env keys d) (pure ())
      fun _ => Unhurried env keys := Guards.pure fun d hd => ⟨hd.1.coherent, hd.2⟩
  unfold checkDeferralThresholds
  split_ifs
  · split
    · exact hpass
    · split
      · exact hpass
      · exact Guards.bind (putWaiting_guards _ record hkey hstate ⟨rfl, by simp [hstate], rfl, rfl⟩) fun _ =>
          Guards.pure fun _ hd => ⟨hd.1, hd.2.2⟩
  · exact hpass

theorem notifyProjected_guards (hkey : key ∈ keys) (hstate : record.state = .reservedPendingPrereqs) :
    Guards w (fun d => Holds w key record d ∧ Unhurried env keys d) (notifyProjected env w.reg key record)
      fun _ => Unhurried env keys := by
  refine Method.Meets.bind (R := fun _ d => Holds w key record d ∧ Unhurried env keys d)
    (Method.Meets.write fun d hd => ?_) fun _ => ?_
  · exact ⟨⟨hd.1.coherent.congr rfl rfl, hd.1.stored, hd.1.fresh⟩, hd.2.mono rfl le_rfl⟩
  -- once it is written as processing, the record is no longer one of those that wait
  have hready : ∀ d, Holds w key record d → Unhurried env keys d → record.HasFailed → env.Completes d.tick.clock :=
    fun d hheld hd hfailed => (hd key hkey record hheld.stored hstate hfailed).mono (Nat.le_succ _)
  refine Guards.bind (putAdmission_guards record.toProcessing record ⟨rfl, nofun, rfl, rfl⟩
    (G := fun d => Unhurried env keys d ∧ (record.HasFailed → env.Completes d.clock)) ?_ ?_) fun r => ?_
  · exact fun d hheld hd => ⟨hd.mono rfl (Nat.le_succ _), hready d hheld hd⟩
  · exact fun d hheld hd => ⟨hd.put nofun, hready d hheld hd⟩
  cases r with
  | error err => exact Guards.pure fun _ hd => ⟨hd.1, hd.2.2.1⟩
  | ok u =>
    cases hget : env.dag.get record.eventID with
    | error err => exact Guards.pure fun _ hd => ⟨hd.1, hd.2.2.1⟩
    | ok ev =>
      have hid : ev.id = record.toProcessing.eventID := env.dag.id_eq _ _ hget
      refine Guards.bind ((invokeConsumers_guards hid).of_imp fun d hd => ?_) fun _ => Guards.pure fun _ hd => hd
      exact ⟨⟨hd.2.1 u rfl, rfl, hd.2.2.2⟩, hd.2.2.1⟩

theorem notifyDeferred_guards (hmem : key ∈ keys) (hkey : old.key = key) (hstate : old.state = .reservedPendingPrereqs)
    (missing : List EventID) :
    Guards w (fun d => Holds w key old d ∧ Unhurried env keys d)
      (notifyDeferred env key { old with missingPrerequisites := missing }) fun _ => Unhurried env keys := by
  refine Guards.bind (putWaiting_guards { old with missingPrerequisites := missing } old hmem hstate
    ⟨rfl, by simp [hstate], rfl, rfl⟩) fun r => ?_
  cases r with
  | error err => exact Guards.pure fun _ hd => ⟨hd.1, hd.2.2⟩
  | ok u =>
    subst hkey
    exact (checkDeferralThresholds_guards { old with missingPrerequisites := missing } hmem hstate).of_imp fun d hd =>
      ⟨hd.2.1 u rfl, hd.2.2⟩

theorem notifyAdmission_guards (hkey : key ∈ keys) :
    Guards w (fun d => d.Coherent w ∧ Unhurried env keys d) (notifyAdmission env w.reg key)
      fun _ => Unhurried env keys := by
  refine Method.Meets.bind (R := fun r d => (d.Coherent w ∧ Unhurried env keys d) ∧ getAdmission env key d = r)
    (Method.Meets.read fun d hd => ⟨hd, rfl⟩) fun r => ?_
  cases r with
  | error err => exact Guards.pure fun d hd => hd.1
  | ok record =>
    dsimp only
    by_cases hstate : record.state = .reservedPendingPrereqs
    · rw [if_neg (not_not_intro hstate)]
      rintro d ⟨⟨hcoherent, hunhurried⟩, hget⟩
      have hlookup := lookup_of_getAdmission hget
      -- a record that waits says what was done
      have hheld : Holds w key record d := by
        refine ⟨hcoherent, hlookup, hcoherent.fresh hlookup fun hprocessing => ?_⟩
        rw [hstate] at hprocessing
        cases hprocessing
      cases env.dag.notProjected record.missingPrerequisites with
      | nil => exact notifyProjected_guards hkey hstate d ⟨hheld, hunhurried⟩
      | cons pid rest =>
        exact notifyDeferred_guards hkey (hcoherent.describes key record hlookup).keyed hstate _ d ⟨hheld, hunhurried⟩
    · rw [if_pos hstate]
      exact Guards.pure fun d hd => hd.1

theorem Coherent.notifyProjection (h : d.Coherent w) {id : EventID} (hretry : Unhurried env (d.deferralIndex id) d) :
    (Dispatcher.notifyProjection env w.reg id d).2.Coherent w := by
  have hloop : Guards w (fun d' => d'.Coherent w ∧ Unhurried env (d.deferralIndex id) d')
      (forM (d.deferralIndex id) (notifyAdmission env w.reg)) fun _ => Unhurried env (d.deferralIndex id) :=
    Method.Meets.loop (motive := fun _ (d' : Dispatcher) => d'.Coherent w ∧ Unhurried env (d.deferralIndex id) d')
      fun _ key hkey => notifyAdmission_guards hkey
  exact hloop.holds ⟨h, hretry⟩

end Notify

section Recover

def Same (d₀ d : Dispatcher) : Prop := d.store = d₀.store ∧ d.effects = d₀.effects

/-- What the probes of `Recover` answer: each consumer that is pending is asked, and one that has done its work says
    so. -/
def Probed (d₀ : Dispatcher) (ev : Event) (rest : List (String × PerConsumerStatus)) (record : AdmissionRecord)
    (r : Except Error AdmissionRecord) (d : Dispatcher) : Prop :=
  Same d₀ d ∧ ∀ record', r = .ok record' → ∃ answers, record' = record.answered answers ∧
    answers.map Prod.fst = (rest.filter fun x => x.2 = .pending).map Prod.fst ∧
    ∀ x ∈ answers, (x.1, ev.id) ∈ d₀.effects → x.2 = .applied

theorem probeConsumers_meets (env : CallEnv) {reg : Registry} {ev : Event} (rest : List (String × PerConsumerStatus))
    (hregistered : ∀ x ∈ rest, x.1 ∈ reg.byName) (record : AdmissionRecord) :
    Method.Meets (Same d₀) (probeConsumers env reg ev rest record) (Probed d₀ ev rest record) (Same d₀) := by
  induction rest generalizing record with
  | nil => exact Method.Meets.pure fun d hd => ⟨hd, fun r hr => ⟨[], (Except.ok.inj hr).symm, rfl, nofun⟩⟩
  | cons x rest ih =>
    obtain ⟨name, status⟩ := x
    obtain ⟨hname, hrest⟩ := List.forall_mem_cons.mp hregistered
    unfold probeConsumers
    split_ifs with hskip
    · have hstatus : status ≠ .pending := hskip.resolve_right (not_not_intro hname)
      refine (ih hrest record).imp (fun r d h => ⟨h.1, fun record' hr => ?_⟩) fun _ h => h
      rw [List.filter_cons_of_neg (by simpa using hstatus)]
      exact h.2 record' hr
    · obtain rfl : status = .pending := not_not.mp fun hne => hskip (.inl hne)
      -- the rest of the probes, after this consumer has answered
      have hnext : ∀ status', ((name, ev.id) ∈ d₀.effects → status' = .applied) →
          Method.Meets (Same d₀) (probeConsumers env reg ev rest (record.setStatus name status'))
            (Probed d₀ ev ((name, .pending) :: rest) record) (Same d₀) := by
        intro status' hstatus'
        refine (ih hrest (record.setStatus name status')).imp (fun r d h => ⟨h.1, fun record' hr => ?_⟩) fun _ h => h
        obtain ⟨answers, hrecord, hnames, hsound⟩ := h.2 record' hr
        refine ⟨(name, status') :: answers, hrecord, ?_, List.forall_mem_cons.mpr ⟨hstatus', hsound⟩⟩
        rw [List.filter_cons_of_pos rfl, List.map_cons, List.map_cons, hnames]
      refine Method.Meets.bind (R := fun r d => Same d₀ d ∧
        ∀ answer, r = .ok answer → (name, ev.id) ∈ d₀.effects → answer = .completed) ?_ fun r => ?_
      · refine act_meets (fun d hd _ => hd) fun d hd _ => ?_
        cases env.probeErr d.clock with
        | some err => exact ⟨hd, nofun⟩
        | none =>
          refine ⟨hd, fun answer hanswer heffect => ?_⟩
          cases hanswer
          exact if_pos (hd.2 ▸ heffect)
      · cases r with
        | error err => exact Method.Meets.pure fun d hd => ⟨hd.1, nofun⟩
        | ok answer =>
          cases answer with
          | completed => exact (hnext .applied fun _ => rfl).of_imp fun d hd => hd.1
          | notStarted =>
            intro d hd
            exact hnext .failedRetryable (fun heffect => nomatch hd.2 _ rfl heffect) d hd.1

def Elsewhere (d₀ : Dispatcher) (key : String) (d : Dispatcher) : Prop :=
  ∀ k, k ≠ key → d.store.lookup k = d₀.store.lookup k

theorem Same.pass (hd : Same d₀ d) (h : d₀.Coherent w) : d.Coherent w ∧ Elsewhere d₀ key d :=
  ⟨h.congr hd.1 hd.2, fun k _ => by rw [hd.1]⟩

theorem putRecovered_guards (h : d₀.Coherent w) {A : Type} {f : Except Error Unit → Method Dispatcher A}
    (hput : Holds w key record (tick { d₀ with store := d₀.store.insert key record })) (hf : ∀ r, ∃ a, f r = pure a) :
    Guards w (Same d₀) (putAdmission env key record >>= f) fun _ => Elsewhere d₀ key := by
  refine Guards.bind (R := fun _ => Elsewhere d₀ key) (write_meets (fun d hd _ => h.congr hd.1 hd.2)
    (fun d err hd _ => ⟨h.congr hd.1 hd.2, (hd.pass h).2⟩) fun d hd => ?_) fun r => ?_
  · refine ⟨hput.coherent.congr ?_ hd.2, fun k hk => ?_⟩
    · rw [tick, tick, hd.1]
    · rw [tick, lookup_insert_of_ne _ hk, hd.1]
  · obtain ⟨a, ha⟩ := hf r
    rw [ha]
    exact Guards.pure fun _ hd => hd

/-- `Recover` for a record that is processing, or is from now on. -/
theorem recoverProcessing_guards (record : AdmissionRecord) (h : d₀.Coherent w)
    (hstored : d₀.store.lookup record.key = some old) (hevent : record.eventID = old.eventID)
    (hconsumers : record.consumers = old.consumers) :
    Guards w (Same d₀) (recoverProcessing env w.reg record) fun _ => Elsewhere d₀ record.key := by
  have hold := h.describes _ old hstored
  unfold recoverProcessing
  split
  · exact Guards.pure fun d hd => hd.pass h
  next ev hget =>
    have hregistered : ∀ x ∈ env.statusOrder.visit record.consumers, x.1 ∈ w.reg.byName := by
      rintro ⟨name, status⟩ hx
      rw [env.statusOrder.mem_visit_iff, hconsumers] at hx
      exact hold.registered name (mem_of_lookup_eq_some hx)
    refine Method.Meets.bind ((probeConsumers_meets env _ hregistered record).imp (fun _ _ hd => hd) fun d hd =>
      h.congr hd.1 hd.2) fun r => ?_
    cases r with
    | error err => exact Guards.pure fun d hd => hd.1.pass h
    | ok record' =>
      rintro d ⟨hsame, hprobed⟩
      obtain ⟨answers, rfl, hnames, hsound⟩ := hprobed record' rfl
      have hframe := record.answered_eq answers
      have hkey : (record.answered answers).key = record.key := by rw [hframe]
      have hid : (record.answered answers).eventID = record.eventID := by rw [hframe]
      have hpending : ∀ name, name ∈ answers.map Prod.fst ↔ record.consumers.lookup name = some .pending := by
        intro name
        rw [hnames, ← env.statusOrder.mem_visit_iff]
        simp
      -- every consumer has been probed
      have hfresh : Fresh (record.answered answers) d₀ := by
        intro name status hstatus heffect
        rw [hid] at heffect
        obtain hanswer | ⟨hnot, hlookup⟩ := AdmissionRecord.lookup_answered hstatus
        · exact hsound _ hanswer (by rwa [env.dag.id_eq _ _ hget])
        · obtain happlied | ⟨rfl, -⟩ := hold.recorded name status (hconsumers ▸ hlookup) (hevent ▸ heffect)
          · exact happlied
          · exact absurd ((hpending name).mpr hlookup) hnot
      have hmem : ∀ name, name ∈ (record.answered answers).consumers ↔ name ∈ old.consumers := by
        intro name
        rw [AdmissionRecord.mem_answered, hconsumers, hpending, hconsumers, or_iff_right_iff_imp]
        exact mem_of_lookup_eq_some
      have hput := h.put
        { record.answered answers with state := computeTopLevelState (record.answered answers).consumers }
        (hkey.symm ▸ hstored) (hkey.trans hold.keyed.symm) (computeTopLevelState_cases _).1
        (hid.trans hevent) hmem hfresh
      have hpersist : Guards w (Same d₀) (persistRecovered env (record.answered answers))
          fun _ => Elsewhere d₀ (record.answered answers).key :=
        putRecovered_guards h hput fun r => by cases r <;> exact ⟨_, rfl⟩
      rw [hkey] at hpersist
      exact hpersist d hsame

theorem recoverReserved_guards (h : d₀.Coherent w) (hstored : d₀.store.lookup record.key = some record)
    (hstate : record.state = .reservedPendingPrereqs) :
    Guards w (Same d₀) (recoverReserved env w.reg record) fun _ => Elsewhere d₀ record.key := by
  unfold recoverReserved
  dsimp only
  split_ifs
  · exact Method.Meets.bind (R := fun _ => Same d₀) (Method.Meets.write fun d hd => hd) fun _ =>
      recoverProcessing_guards record.toProcessing h hstored rfl rfl
  · exact Guards.pure fun d hd => hd.pass h
  · have hheld : Holds w record.key record d₀ := ⟨h, hstored, h.fresh hstored fun hprocessing => by
      rw [hstate] at hprocessing
      cases hprocessing⟩
    exact putRecovered_guards h (hheld.rewrite ⟨rfl, by simp [hstate], rfl, rfl⟩) fun r => by
      cases r <;> exact ⟨_, rfl⟩

theorem recoverRecord_guards (h : d₀.Coherent w) (hstored : d₀.store.lookup record.key = some record) :
    Guards w (Same d₀) (recoverRecord env w.reg record) fun _ => Elsewhere d₀ record.key := by
  have hpass : ∀ r : Except Error Unit, Guards w (Same d₀) (pure r) fun _ => Elsewhere d₀ record.key :=
    fun _ => Guards.pure fun d hd => hd.pass h
  unfold recoverRecord
  split_ifs
  · exact hpass _
  · split
    · exact hpass _
    · split
      · exact hpass _
      · exact hpass _
      next hstate => exact recoverReserved_guards h hstored hstate
      · exact recoverProcessing_guards record h hstored rfl rfl
      next hstate => exact absurd hstate (h.describes _ record hstored).present

theorem recoverRecords_guards {records : List AdmissionRecord} (hnodup : (records.map AdmissionRecord.key).Nodup) :
    Guards w (fun d => d.Coherent w ∧ ∀ record ∈ records, d.store.lookup record.key = some record)
      (recoverRecords env w.reg records) fun _ _ => True := by
  induction records with
  | nil => exact Guards.pure fun d hd => ⟨hd.1, trivial⟩
  | cons record rest ih =>
    rw [List.map_cons, List.nodup_cons] at hnodup
    refine Guards.bind (R := fun _ d => ∀ r ∈ rest, d.store.lookup r.key = some r) ?_ fun r => ?_
    · intro d hd
      refine Method.Meets.imp (recoverRecord_guards hd.1 (hd.2 record List.mem_cons_self))
        (fun _ d' hd' => ⟨hd'.1, fun r hr => ?_⟩) (fun _ hd' => hd') d ⟨rfl, rfl⟩
      have hne : r.key ≠ record.key := fun hsame => hnodup.1 (hsame ▸ List.mem_map_of_mem hr)
      rw [hd'.2 r.key hne]
      exact hd.2 r (List.mem_cons_of_mem record hr)
    · cases r with
      | error err => exact Guards.pure fun d hd => ⟨hd.1, trivial⟩
      | ok u => exact ih hnodup.2

theorem rebuildDeferralIndex_eq (records : List AdmissionRecord) (d : Dispatcher) :
    d.rebuildDeferralIndex records = { d with deferralIndex := (d.rebuildDeferralIndex records).deferralIndex } := by
  refine List.foldlRecOn records _
    (motive := fun d' : Dispatcher => d' = { d with deferralIndex := d'.deferralIndex }) rfl fun d' hd' record _ => ?_
  split_ifs
  · rw [addToDeferralIndex, hd']
  · exact hd'

theorem Coherent.recover (h : d.Coherent w) (env : CallEnv) : (Dispatcher.recover env w.reg d).2.Coherent w := by
  let records := (env.scanOrder.visit d.store).map Prod.snd
  have hkeyed : ∀ x ∈ env.scanOrder.visit d.store, d.store.lookup x.1 = some x.2 ∧ x.2.key = x.1 := by
    rintro ⟨key, record⟩ hx
    have hstored : d.store.lookup key = some record := (env.scanOrder.mem_visit_iff _).mp hx
    exact ⟨hstored, (h.describes key record hstored).keyed⟩
  have hnodup : (records.map AdmissionRecord.key).Nodup := by
    rw [List.map_map]
    exact (List.map_congr_left fun x hx => (hkeyed x hx).2) ▸ env.scanOrder.nodup_keys d.store
  have hloop : (recoverRecords env w.reg records (d.rebuildDeferralIndex records)).2.Coherent w := by
    refine (recoverRecords_guards hnodup).holds ⟨?_, fun record hrecord => ?_⟩
    all_goals rw [rebuildDeferralIndex_eq]
    · exact h.congr rfl rfl
    · obtain ⟨x, hx, rfl⟩ := List.mem_map.mp hrecord
      obtain ⟨hstored, hkey⟩ := hkeyed x hx
      rwa [hkey]
  unfold Dispatcher.recover
  cases hscan : env.scanErr with
  | some err =>
    rw [Method.read_bind, allAdmissions, hscan]
    exact h
  | none =>
    rw [Method.read_bind, allAdmissions, hscan]
    exact hloop

end Recover

section Admit

variable {ev : Event} {consumers : List Consumer}

/-- When `Admit` may be called: a record under the key of the event that is processing has no consumer as pending that
    has done its work, the call is not cut short if a consumer has failed before, and the prerequisites are not forged
    once a consumer is applied. -/
structure Admissible (env : CallEnv) (ev : Event) (consumers : List Consumer) (record : AdmissionRecord)
    (d : Dispatcher) : Prop where
  probed : record.state = .processing → ∀ name, record.consumers.lookup name = some .pending →
    (name, ev.id) ∉ d.effects
  retry : record.HasFailed → env.Completes d.clock
  forged : (env.dag.checkPrerequisites ev (prerequisites env ev consumers)).isOk = false → record.state ≠ .applied →
    ∀ name, record.consumers.lookup name ≠ some .applied

/-- What `Admit` finds after `reserveOrLoad`. -/
structure Loaded (w : Wiring) (env : CallEnv) (ev : Event) (key : String) (consumers : List Consumer)
    (record : AdmissionRecord) (d : Dispatcher) : Prop
    extends Holds w key record d, Admissible env ev consumers record d where
  eventID : record.eventID = ev.id
  retried : record.state ≠ .failedRetryable

theorem admitForged_guards (happlied : record.state ≠ .applied)
    (hforged : (env.dag.checkPrerequisites ev (prerequisites env ev consumers)).isOk = false) (err : Error) :
    Guards w (Loaded w env ev key consumers record) (admitForged env key err) fun _ _ => True := by
  refine Guards.bind (R := fun _ _ => True) (write_meets (fun d hd _ => hd.coherent)
    (fun d err hd _ => ⟨hd.coherent.congr rfl rfl, trivial⟩) fun d hd => ⟨?_, trivial⟩) fun _ =>
    Guards.pure fun _ hd => hd
  refine hd.coherent.erase fun record' hrecord' name hname heffect => ?_
  obtain rfl := Option.some.inj (hrecord'.symm.trans hd.stored)
  obtain ⟨status, hstatus⟩ := mem_iff.mp hname
  obtain rfl := hd.fresh name status hstatus heffect
  exact hd.forged hforged happlied name hstatus

theorem admitProjected_guards (happlied : record.state ≠ .applied) :
    Guards w (Loaded w env ev key consumers record) (admitProjected env w.reg ev key record) fun _ _ => True := by
  intro d hd
  have hinvoke : ∀ record' : AdmissionRecord, record'.eventID = record.eventID →
      Guards w (Invocable w env key record') (invokeConsumers env w.reg ev key record') fun _ _ => True := by
    intro record' hid
    refine Method.Meets.imp ((invokeConsumers_guards (hd.eventID.symm.trans hid.symm)).of_imp
      fun d hd => ⟨hd, show Unhurried env [] d from nofun⟩) (fun _ _ hd => ⟨hd.1, trivial⟩) fun _ hd => hd
  unfold admitProjected
  by_cases hreserved : record.state = .reservedPendingPrereqs
  · rw [if_pos hreserved]
    have hready : ∀ d : Dispatcher, (record.HasFailed → env.Completes d.clock) →
        record.HasFailed → env.Completes d.tick.clock := fun d hd hfailed => (hd hfailed).mono (Nat.le_succ _)
    refine Guards.bind (putAdmission_guards record.toProcessing record ⟨rfl, nofun, rfl, rfl⟩
      (G := fun d => record.HasFailed → env.Completes d.clock) (fun d _ => hready d) fun d _ => hready d)
      (fun r => ?_) d
      ⟨hd.toHolds, hd.retry⟩
    cases r with
    | error err => exact Guards.pure fun _ hd => ⟨hd.1, trivial⟩
    | ok u => exact (hinvoke record.toProcessing rfl).of_imp fun d hd => ⟨hd.2.1 u rfl, rfl, hd.2.2⟩
  · rw [if_neg hreserved]
    have hprocessing : record.state = .processing := by
      cases hstate : record.state with
      | absent => exact absurd hstate (hd.coherent.describes _ record hd.stored).present
      | reservedPendingPrereqs => exact absurd hstate hreserved
      | processing => rfl
      | applied => exact absurd hstate happlied
      | failedRetryable => exact absurd hstate hd.retried
    exact hinvoke record rfl d ⟨hd.toHolds, hprocessing, hd.retry⟩

theorem admitDeferred_guards (missing : List EventID) :
    Guards w (Loaded w env ev key consumers record) (admitDeferred env key missing record) fun _ _ => True := by
  let deferred := { record with state := .reservedPendingPrereqs, missingPrerequisites := missing }
  refine Guards.bind ((putAdmission_guards deferred record ⟨rfl, nofun, rfl, rfl⟩ (F := fun _ => True)
    (G := fun _ => True) (fun _ _ hd => hd) fun _ _ hd => hd).of_imp fun d hd => ⟨hd.toHolds, trivial⟩) fun r => ?_
  cases r with
  | error err => exact Guards.pure fun _ hd => ⟨hd.1, trivial⟩
  | ok u =>
    exact Method.Meets.bind (R := fun _ => Coherent w) (Method.Meets.write fun d hd => hd.1.congr rfl rfl) fun _ =>
      Guards.pure fun _ hd => ⟨hd, trivial⟩

theorem admitRecord_guards :
    Guards w (Loaded w env ev key consumers record) (admitRecord env w.reg ev key consumers record)
      fun _ _ => True := by
  unfold admitRecord
  split_ifs with happlied
  · exact Guards.pure fun d hd => ⟨hd.coherent, trivial⟩
  · split
    next err hforged => exact admitForged_guards happlied (by rw [hforged]; rfl) err
    · exact admitProjected_guards happlied
    · exact admitDeferred_guards _

theorem name_mem_of_interested {reg : Registry} {order : RangeOrder String Consumer} {consumer : Consumer}
    (hmem : consumer ∈ reg.snapshotInterestedConsumers order ev) : consumer.name ∈ reg.byName := by
  obtain ⟨hvisited, -⟩ := List.mem_filter.mp hmem
  obtain ⟨⟨name, consumer⟩, hx, rfl⟩ := List.mem_map.mp hvisited
  have hlookup : reg.byName.lookup name = some consumer := (order.mem_visit_iff _).mp hx
  rw [reg.keyed name consumer hlookup]
  exact mem_of_lookup_eq_some hlookup

theorem lookup_reservation {name : String} {status : PerConsumerStatus}
    (hlookup : (reservation env key ev consumers).consumers.lookup name = some status) : status = .pending := by
  obtain ⟨x, hx, rfl⟩ := exists_mem_of_lookup_ofInserts hlookup
  obtain ⟨consumer, -, rfl⟩ := List.mem_map.mp hx
  rfl

theorem loaded_reservation (env : CallEnv) (h : d.Coherent w) (hnew : key ∉ d.store) (hev : ev ∈ w.events)
    (hkey : admissionKey w.c w.blake3 ev = .ok key) (hregistered : ∀ consumer ∈ consumers, consumer.name ∈
      w.reg.byName) :
    Loaded w env ev key consumers (reservation env key ev consumers)
      (tick { d with store := d.store.insert key (reservation env key ev consumers) }) := by
  have hnames : ∀ name ∈ (reservation env key ev consumers).consumers, name ∈ w.reg.byName := by
    intro name hname
    rw [reservation, mem_ofInserts, List.map_map] at hname
    obtain ⟨consumer, hconsumer, rfl⟩ := List.mem_map.mp hname
    exact hregistered consumer hconsumer
  refine ⟨h.reserve hnew hev hkey rfl nofun rfl hnames, ⟨nofun, ?_, fun _ _ name happlied => ?_⟩, rfl, nofun⟩
  · rintro ⟨name, hfailed⟩
    cases lookup_reservation hfailed
  · cases lookup_reservation happlied

theorem createReservation_guards (hev : ev ∈ w.events) (hkey : admissionKey w.c w.blake3 ev = .ok key)
    (hregistered : ∀ consumer ∈ consumers, consumer.name ∈ w.reg.byName) :
    Guards w (fun d => d.Coherent w ∧ key ∉ d.store) (createReservation env key ev consumers)
      fun r d => ∀ record, r = .ok record → Loaded w env ev key consumers record d := by
  refine Guards.bind (R := fun r d => ∀ u, r = .ok u → Loaded w env ev key consumers
    (reservation env key ev consumers) d)
    (write_meets (fun d hd _ => hd.1) (fun d err hd _ => ⟨hd.1.congr rfl rfl, nofun⟩) fun d hd => ?_) fun r => ?_
  · have hloaded := loaded_reservation env hd.1 hd.2 hev hkey hregistered
    exact ⟨hloaded.coherent, fun _ _ => hloaded⟩
  · cases r with
    | error err => exact Guards.pure fun _ hd => ⟨hd.1, nofun⟩
    | ok u => exact Guards.pure fun _ hd => ⟨hd.1, fun _ hr => Except.ok.inj hr ▸ hd.2 u rfl⟩

theorem reserveOrLoad_guards (hev : ev ∈ w.events) (hkey : admissionKey w.c w.blake3 ev = .ok key)
    (hregistered : ∀ consumer ∈ consumers, consumer.name ∈ w.reg.byName) :
    Guards w (fun d => d.Coherent w ∧ ∀ record, d.store.lookup key = some record → Admissible env ev consumers record d)
      (reserveOrLoad env key ev consumers)
      fun r d => ∀ record, r = .ok record → Loaded w env ev key consumers record d := by
  rintro d ⟨hcoherent, hadmissible⟩
  unfold reserveOrLoad
  rw [Method.read_bind]
  cases hget : getAdmission env key d with
  | error err =>
    dsimp only
    split_ifs with hnotFound
    · refine createReservation_guards hev hkey hregistered d ⟨hcoherent, lookup_eq_none.mp ?_⟩
      -- the store answers not found only if there is no record
      cases hfail : env.getErr key with
      | none =>
        cases hlookup : d.store.lookup key with
        | none => rfl
        | some existing => simp only [getAdmission, hfail, hlookup, reduceCtorEq] at hget
      | some err' =>
        simp only [getAdmission, hfail, Except.error.injEq] at hget
        rw [← hget, env.getErr_not_notFound key err' hfail] at hnotFound
        cases hnotFound
    · exact ⟨hcoherent, nofun⟩
  | ok record =>
    have hstored := lookup_of_getAdmission hget
    have hrecord := hadmissible record hstored
    have heventID : record.eventID = ev.id := by
      obtain ⟨ev', hev', hkey', hid⟩ := (hcoherent.describes key record hstored).event
      rw [hid]
      exact (w.named ev hev ev' hev' key hkey).mpr hkey'
    have hheld : Holds w key record d :=
      ⟨hcoherent, hstored, hcoherent.fresh hstored (by rw [heventID]; exact hrecord.probed)⟩
    dsimp only
    by_cases hfailed : record.state = .failedRetryable
    · rw [if_pos hfailed]
      -- the record stays admissible: a consumer that it has as pending has done nothing, and it was not applied
      have hretried : ∀ d d' : Dispatcher, d'.effects = d.effects → d'.clock = d.clock + 1 → Holds w key record d →
          Admissible env ev consumers record d → Admissible env ev consumers
          { record with state := .processing } d' := by
        intro d d' heffects hclock hheld h
        refine ⟨fun _ name hpending heffect => ?_, fun hretry => ?_, fun hforged _ => h.forged hforged ?_⟩
        · rw [heffects, ← heventID] at heffect
          cases hheld.fresh name _ hpending heffect
        · rw [hclock]
          exact (h.retry hretry).mono (Nat.le_succ _)
        · rw [hfailed]
          nofun
      refine Guards.bind (putAdmission_guards { record with state := .processing } record
        ⟨rfl, nofun, rfl, rfl⟩ (fun d => hretried d _ rfl rfl) fun d => hretried d _ rfl rfl) (fun r => ?_) d
        ⟨hheld, hrecord⟩
      cases r with
      | error err => exact Guards.pure fun _ hd => ⟨hd.1, nofun⟩
      | ok u =>
        refine Guards.pure fun d' hd => ⟨hd.1, fun _ hr => ?_⟩
        obtain rfl := Except.ok.inj hr
        exact ⟨hd.2.1 u rfl, hd.2.2, heventID, nofun⟩
    · rw [if_neg hfailed]
      exact ⟨hcoherent, fun _ hr => Except.ok.inj hr ▸ ⟨hheld, hrecord, heventID, hfailed⟩⟩

theorem Coherent.admitEvent (h : d.Coherent w) (hev : ev ∈ w.events)
    (hadmissible : ∀ key record, admissionKey w.c w.blake3 ev = .ok key → d.store.lookup key = some record →
      Admissible env ev (w.reg.snapshotInterestedConsumers env.consumerOrder ev) record d) :
    (Dispatcher.admitEvent env w.reg w.c w.blake3 ev d).2.Coherent w := by
  unfold Dispatcher.admitEvent
  cases hkey : admissionKey w.c w.blake3 ev with
  | error err => exact h
  | ok key =>
    cases env.dag.verifyAnchor env.dag.currentAnchor with
    | error err => exact h
    | ok u =>
      dsimp only
      by_cases hnone : w.reg.snapshotInterestedConsumers env.consumerOrder ev = []
      · rw [if_pos hnone]
        exact h
      · rw [if_neg hnone]
        refine (Guards.bind (reserveOrLoad_guards hev hkey fun consumer hconsumer => name_mem_of_interested hconsumer)
          (Q := fun _ _ => True) fun r => ?_).holds ⟨h, fun record => hadmissible key record hkey⟩
        cases r with
        | error err => exact Guards.pure fun _ hd => ⟨hd.1, trivial⟩
        | ok record => exact admitRecord_guards.of_imp fun d hd => hd.2 record rfl

end Admit

variable (c : Crypto) (blake3 : Blake3) (reg : Registry) (events : Set Event)

/-- When a call may be made, in the state before it. -/
def Orderly (d : Dispatcher) : Call → Prop
  | .admitEvent env ev => ev ∈ events ∧
      ∀ key record, admissionKey c blake3 ev = .ok key → d.store.lookup key = some record →
        Admissible env ev (reg.snapshotInterestedConsumers env.consumerOrder ev) record d
  | .notifyProjection env id => ∀ key ∈ d.deferralIndex id, ∀ record, d.store.lookup key = some record →
      record.state = .reservedPendingPrereqs → record.HasFailed → env.Completes d.clock
  | .recover _ | .crash => True

theorem Coherent.runCall {A : Type} {x : Method Dispatcher A} (h : (x d).2.Coherent w) : (d.runCall x).Coherent w := by
  unfold Dispatcher.runCall
  split
  next heq =>
    rw [heq] at h
    exact h
  next heq =>
    rw [heq] at h
    exact h.congr rfl rfl

theorem Coherent.step (h : d.Coherent w) (call : Call) (horderly : d.Orderly w.c w.blake3 w.reg w.events call) :
    (d.step w.c w.blake3 w.reg call).Coherent w := by
  cases call with
  | admitEvent env ev => exact .runCall (h.admitEvent horderly.1 horderly.2)
  | notifyProjection env id => exact .runCall (h.notifyProjection horderly)
  | recover env => exact .runCall (h.recover env)
  | crash => exact h.congr rfl rfl

/-- Each consumer does its work at most once for each event. -/
theorem effects_count_le_one (hnamed : NamedByContent c blake3 events) (calls : List Call)
    (horderly : transition.MeetsAlong (step c blake3 reg) (Orderly c blake3 reg events) {} calls) (name : String)
    (id : EventID) : (calls.foldl (step c blake3 reg) {}).effects.count (name, id) ≤ 1 := by
  let w : Wiring := ⟨c, blake3, reg, events, hnamed⟩
  have hinitial : Coherent w {} := ⟨fun key record h => by simp at h, nofun, List.nodup_nil⟩
  have hcoherent : (calls.foldl (step c blake3 reg) {}).Coherent w :=
    transition.invariant_of_meetsAlong hinitial (fun d call h horderly => h.step call horderly) horderly
  exact List.nodup_iff_count_le_one.mp hcoherent.once _

end

section Sample

def sampleConsumer : Consumer where
  name := "settlement"
  type := .typeA
  interested _ := true
  prerequisites _ := []
  prerequisiteSchemaVersion := 0

def sampleRegistry : Registry := (Registry.empty.register sampleConsumer).2

def sampleDAG (ev : Event) : DAGAnchorReader where
  tips := []
  isAncestor _ _ := .ok false
  get id := if ev.id = id then .ok ev else .error (.new "dag: event not found")
  id_eq id ev' hget := by
    split_ifs at hget with hid
    cases hget
    exact hid

def sampleEvent : Event := transferEvent "e1" "alice" "bob" "100"

def sampleEnv : CallEnv where
  dag := sampleDAG sampleEvent

/-- A call in which the process crashes at this tick of the clock. -/
def crashingEnv (t : ℕ) : CallEnv := { sampleEnv with crashes := fun clock => clock = t }

/-- A call in which the consumers fail. -/
def failingEnv : CallEnv := { sampleEnv with applyErr := fun _ => some (.new "not ready") }

def sampleRun (reg : Registry) (calls : List Call) : Dispatcher := calls.foldl (step sampleCrypto (fun _ => []) reg) {}

/-- The first `Apply` is followed by a crash, and `Recover` finds out that it was done. -/
theorem effects_once_of_recover :
    (sampleRun sampleRegistry [.admitEvent (crashingEnv 3) sampleEvent, .recover sampleEnv,
      .admitEvent sampleEnv sampleEvent]).effects.count ("settlement", "e1") ≤ 1 := by
  have hnamed : NamedByContent sampleCrypto (fun _ => []) {sampleEvent} := by
    rintro ev rfl ev' rfl key hkey
    exact iff_of_true rfl hkey
  refine effects_count_le_one sampleCrypto (fun _ => []) sampleRegistry _ hnamed _ ?_ _ _
  have hrecovered : ((sampleRun sampleRegistry
      [.admitEvent (crashingEnv 3) sampleEvent, .recover sampleEnv]).store.lookup "dispatch:").map
        (fun record => (record.state, record.consumers)) =
      some (.applied, (∅ : Map String PerConsumerStatus).insert "settlement" .applied) := by
    decide +kernel
  refine ⟨⟨rfl, fun key record _ hlookup => ?_⟩, trivial, ⟨rfl, fun key record hkey hlookup => ?_⟩, trivial⟩
  · simp at hlookup
  · cases hkey
    have hstored : (sampleRun sampleRegistry
        [.admitEvent (crashingEnv 3) sampleEvent, .recover sampleEnv]).store.lookup "dispatch:" = some record := hlookup
    rw [hstored] at hrecovered
    simp only [Option.map_some, Option.some.injEq, Prod.mk.injEq] at hrecovered
    obtain ⟨hstate, hconsumers⟩ := hrecovered
    refine ⟨fun hprocessing => ?_, ?_, fun _ hne => absurd hstate hne⟩
    · rw [hstate] at hprocessing
      cases hprocessing
    · rintro ⟨name, hfailed⟩
      rw [hconsumers, lookup_insert_eq] at hfailed
      split_ifs at hfailed
      · cases hfailed
      · simp at hfailed

def sampleRegistryTwo : Registry :=
  (sampleRegistry.register { sampleConsumer with name := "reputation", prerequisites := fun _ => ["p"] }).2

/-- A call in which the prerequisite is an ancestor in the DAG, and its consumer, the first to be called, fails. -/
def projectedEnv : CallEnv :=
  { sampleEnv with
    dag :=
      { tips := []
        isAncestor := fun _ _ => .ok true
        get := fun id => .ok { sampleEvent with id := id }
        id_eq := fun id ev hget => by
          cases hget
          rfl }
    applyErr := fun t => if t = 2 then some (.new "not ready") else none }

/-- A consumer that has failed before is not probed, without `Recover` none is, and the record of an event is deleted
    with what it says if a prerequisite turns out not to be an ancestor. -/
theorem effects_twice_after_crash :
    (sampleRun sampleRegistry [.admitEvent failingEnv sampleEvent, .admitEvent (crashingEnv 6) sampleEvent,
      .recover sampleEnv,
      .admitEvent sampleEnv sampleEvent]).effects.count ("settlement", "e1") = 2 ∧
    (sampleRun sampleRegistry [.admitEvent (crashingEnv 3) sampleEvent,
      .admitEvent sampleEnv sampleEvent]).effects.count ("settlement", "e1") = 2 ∧
    (sampleRun sampleRegistryTwo [.admitEvent projectedEnv sampleEvent, .admitEvent sampleEnv sampleEvent,
      .admitEvent projectedEnv sampleEvent]).effects.count ("settlement", "e1") = 2 := by
  decide +kernel

end Sample

end aethernet.dispatch.Dispatcher
