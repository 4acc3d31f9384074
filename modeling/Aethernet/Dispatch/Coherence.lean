import Aethernet.Dispatch.Dispatcher

open golang aethernet.event Finmap

namespace aethernet.dispatch

/-- Two of the events have the same ID exactly if they have the same admission key. -/
def NamedByContent (c : Crypto) (blake3 : Blake3) (events : Set Event) : Prop :=
  ∀ ev ∈ events, ∀ ev' ∈ events, ∀ key, admissionKey c blake3 ev = .ok key →
    (ev'.id = ev.id ↔ admissionKey c blake3 ev' = .ok key)

def CallEnv.Completes (env : CallEnv) (clock : ℕ) : Prop :=
  ∀ t, clock ≤ t → env.crashes t = false ∧ env.writeErr t = none

theorem CallEnv.Completes.mono {env : CallEnv} {t t' : ℕ} (h : env.Completes t) (hle : t ≤ t') : env.Completes t' :=
  fun u hu => h u (hle.trans hu)

/-- What does not change in a run: the consumers, and the events with their names. -/
structure Wiring where
  c : Crypto
  blake3 : Blake3
  reg : Registry
  events : Set Event
  named : NamedByContent c blake3 events

namespace AdmissionRecord

def HasFailed (record : AdmissionRecord) : Prop :=
  ∃ name, record.consumers.lookup name = some .failedRetryable

def answered (record : AdmissionRecord) (answers : List (String × PerConsumerStatus)) : AdmissionRecord :=
  answers.foldl (fun r x => r.setStatus x.1 x.2) record

variable {record : AdmissionRecord} {answers : List (String × PerConsumerStatus)} {name : String}
  {status : PerConsumerStatus}

theorem answered_eq (record : AdmissionRecord) (answers : List (String × PerConsumerStatus)) :
    record.answered answers = { record with consumers := (record.answered answers).consumers } := by
  refine List.foldlRecOn answers _
    (motive := fun r : AdmissionRecord => r = { record with consumers := r.consumers }) rfl fun r hr x _ => ?_
  rw [hr]
  rfl

theorem mem_answered : name ∈ (record.answered answers).consumers ↔ name ∈ answers.map Prod.fst ∨
    name ∈ record.consumers := by
  unfold answered
  induction answers generalizing record with
  | nil => simp
  | cons x answers ih =>
    rw [List.foldl_cons, ih, setStatus, mem_insert, List.map_cons, List.mem_cons]
    tauto

theorem lookup_answered (hlookup : (record.answered answers).consumers.lookup name = some status) :
    (name, status) ∈ answers ∨ name ∉ answers.map Prod.fst ∧ record.consumers.lookup name = some status := by
  induction answers generalizing record with
  | nil => exact .inr ⟨List.not_mem_nil, hlookup⟩
  | cons x answers ih =>
    obtain hmem | ⟨hnot, hold⟩ := ih hlookup
    · exact .inl (List.mem_cons_of_mem x hmem)
    · obtain ⟨rfl, rfl⟩ | ⟨hne, hold⟩ := lookup_insert_cases hold
      · exact .inl List.mem_cons_self
      · exact .inr ⟨by simp [hne, hnot], hold⟩

end AdmissionRecord

namespace Dispatcher

/-- A record says what its consumers have done, except that it may still have one as pending whose `Apply` was the last
    thing before a crash. -/
structure Describes (w : Wiring) (effects : List (String × EventID)) (key : String) (record : AdmissionRecord) :
    Prop where
  keyed : record.key = key
  present : record.state ≠ .absent
  event : ∃ ev ∈ w.events, admissionKey w.c w.blake3 ev = .ok key ∧ record.eventID = ev.id
  registered : ∀ name ∈ record.consumers, name ∈ w.reg.byName
  recorded : ∀ name status, record.consumers.lookup name = some status → (name, record.eventID) ∈ effects →
    status = .applied ∨ status = .pending ∧ record.state = .processing

structure Coherent (w : Wiring) (d : Dispatcher) : Prop where
  describes : ∀ key record, d.store.lookup key = some record → Describes w d.effects key record
  known : ∀ name id, (name, id) ∈ d.effects →
    ∃ key record, d.store.lookup key = some record ∧ record.eventID = id ∧ name ∈ record.consumers
  once : d.effects.Nodup

def Fresh (record : AdmissionRecord) (d : Dispatcher) : Prop :=
  ∀ name status, record.consumers.lookup name = some status → (name, record.eventID) ∈ d.effects → status = .applied

/-- A record that says what its consumers have done is there. -/
structure Holds (w : Wiring) (key : String) (record : AdmissionRecord) (d : Dispatcher) : Prop where
  coherent : d.Coherent w
  stored : d.store.lookup key = some record
  fresh : Fresh record d

section

variable {w : Wiring} {d d' d₀ : Dispatcher} {env : CallEnv} {key : String} {record old : AdmissionRecord}

theorem Describes.key_eq {effects effects' : List (String × EventID)} (h : Describes w effects key record)
    {key' : String}
    {record' : AdmissionRecord} (h' : Describes w effects' key' record') (hsame : record'.eventID = record.eventID) :
    key' = key := by
  obtain ⟨ev, hev, hkey, hid⟩ := h.event
  obtain ⟨ev', hev', hkey', hid'⟩ := h'.event
  have hok := (w.named ev hev ev' hev' key hkey).mp (by rw [← hid, ← hid', hsame])
  rw [hkey'] at hok
  exact Except.ok.inj hok

theorem Coherent.congr (h : d.Coherent w) (hstore : d'.store = d.store) (heffects : d'.effects = d.effects) :
    d'.Coherent w := by
  obtain ⟨describes, known, once⟩ := h
  exact ⟨by rwa [hstore, heffects], by rwa [hstore, heffects], by rwa [heffects]⟩

theorem Coherent.fresh (h : d.Coherent w) (hstored : d.store.lookup key = some record)
    (hstate : record.state = .processing →
      ∀ name, record.consumers.lookup name = some .pending → (name, record.eventID) ∉ d.effects) : Fresh record d := by
  intro name status hstatus heffect
  obtain happlied | ⟨rfl, hprocessing⟩ := (h.describes key record hstored).recorded name status hstatus heffect
  · exact happlied
  · exact absurd heffect (hstate hprocessing name hstatus)

theorem Coherent.of_insert (h : d₀.Coherent w) (hrecord : Describes w d.effects key record)
    (hstore : d.store = d₀.store.insert key record) (honce : d.effects.Nodup)
    (hnew : ∀ name id, (name, id) ∈ d.effects →
      (name, id) ∈ d₀.effects ∨ id = record.eventID ∧ name ∈ record.consumers)
    (hold : ∀ old, d₀.store.lookup key = some old →
      record.eventID = old.eventID ∧ ∀ name ∈ old.consumers, name ∈ record.consumers) : d.Coherent w := by
  refine ⟨fun k r hk => ?_, fun name id heffect => ?_, honce⟩
  · rw [hstore] at hk
    obtain ⟨rfl, rfl⟩ | ⟨hne, hk⟩ := lookup_insert_cases hk
    · exact hrecord
    · have hr := h.describes k r hk
      refine { hr with recorded := fun name status hstatus heffect => ?_ }
      obtain hbefore | ⟨hid, -⟩ := hnew name _ heffect
      · exact hr.recorded name status hstatus hbefore
      · exact absurd (hrecord.key_eq hr hid) hne
  · rw [hstore]
    obtain hbefore | ⟨rfl, hname⟩ := hnew name id heffect
    · obtain ⟨k, r, hk, hid, hname⟩ := h.known name id hbefore
      by_cases hsame : k = key
      · subst hsame
        obtain ⟨hevent, hnames⟩ := hold r hk
        exact ⟨k, record, lookup_insert _, hevent.trans hid, hnames name hname⟩
      · exact ⟨k, r, (lookup_insert_of_ne _ hsame).trans hk, hid, hname⟩
    · exact ⟨key, record, lookup_insert _, rfl, hname⟩

theorem Coherent.put (h : d.Coherent w) (record : AdmissionRecord) (hstored : d.store.lookup key = some old)
    (hkey : record.key = old.key) (hpresent : record.state ≠ .absent) (hevent : record.eventID = old.eventID)
    (hnames : ∀ name, name ∈ record.consumers ↔ name ∈ old.consumers) (hfresh : Fresh record d) :
    Holds w key record (tick { d with store := d.store.insert key record }) := by
  have hold := h.describes key old hstored
  have hrecord : Describes w d.effects key record :=
    ⟨hkey.trans hold.keyed, hpresent, hevent ▸ hold.event,
      fun name hname => hold.registered name ((hnames name).mp hname),
      fun name status hstatus heffect => .inl (hfresh name status hstatus heffect)⟩
  refine ⟨h.of_insert hrecord rfl h.once (fun _ _ => .inl) fun old' hold' => ?_, lookup_insert _, hfresh⟩
  obtain rfl := Option.some.inj (hold'.symm.trans hstored)
  exact ⟨hevent, fun name => (hnames name).mpr⟩

/-- A record that takes the place of another one, with the same consumers. -/
structure Rewrites (record old : AdmissionRecord) : Prop where
  key : record.key = old.key
  present : record.state ≠ .absent
  eventID : record.eventID = old.eventID
  consumers : record.consumers = old.consumers

theorem Holds.rewrite (h : Holds w key old d) (hrewrites : Rewrites record old) :
    Holds w key record (tick { d with store := d.store.insert key record }) := by
  refine h.coherent.put record h.stored hrewrites.key hrewrites.present hrewrites.eventID
    (fun name => by rw [hrewrites.consumers]) fun name status hstatus heffect => ?_
  rw [hrewrites.consumers] at hstatus
  rw [hrewrites.eventID] at heffect
  exact h.fresh name status hstatus heffect

theorem Coherent.reserve (h : d.Coherent w) (hnew : key ∉ d.store) {ev : Event} (hev : ev ∈ w.events)
    (hevKey : admissionKey w.c w.blake3 ev = .ok key) (hkey : record.key = key) (hpresent : record.state ≠ .absent)
    (hevent : record.eventID = ev.id) (hregistered : ∀ name ∈ record.consumers, name ∈ w.reg.byName) :
    Holds w key record (tick { d with store := d.store.insert key record }) := by
  -- an effect on the event would have left a record under its key
  have hnone : ∀ name, (name, record.eventID) ∉ d.effects := by
    intro name heffect
    obtain ⟨k, r, hk, hid, -⟩ := h.known name _ heffect
    obtain ⟨ev', hev', hevKey', hid'⟩ := (h.describes k r hk).event
    have hok := (w.named ev hev ev' hev' key hevKey).mp (by rw [← hid', hid, hevent])
    rw [hevKey'] at hok
    obtain rfl := Except.ok.inj hok
    exact hnew (mem_of_lookup_eq_some hk)
  have hrecord : Describes w d.effects key record :=
    ⟨hkey, hpresent, ⟨ev, hev, hevKey, hevent⟩, hregistered, fun name _ _ heffect => absurd heffect (hnone name)⟩
  refine ⟨h.of_insert hrecord rfl h.once (fun _ _ => .inl) fun old hold => ?_, lookup_insert _,
    fun name _ _ heffect => absurd heffect (hnone name)⟩
  exact absurd (mem_of_lookup_eq_some hold) hnew

theorem Coherent.erase (h : d.Coherent w)
    (hnothing : ∀ record, d.store.lookup key = some record → ∀ name ∈ record.consumers,
      (name, record.eventID) ∉ d.effects) : Coherent w (tick { d with store := d.store.erase key }) := by
  refine ⟨fun k r hk => ?_, fun name id heffect => ?_, h.once⟩
  · change (d.store.erase key).lookup k = some r at hk
    rw [lookup_erase_eq] at hk
    split_ifs at hk
    exact h.describes k r hk
  · obtain ⟨k, r, hk, rfl, hname⟩ := h.known name id heffect
    have hne : k ≠ key := by
      rintro rfl
      exact hnothing r hk name hname heffect
    exact ⟨k, r, (lookup_erase_ne hne).trans hk, rfl, hname⟩

section Loop

variable {id : EventID} {rest answers : List (String × PerConsumerStatus)}

/-- Some of the consumers that are left and not applied have been called, with these results. -/
structure Applied (id : EventID) (rest answers : List (String × PerConsumerStatus)) (d d' : Dispatcher) : Prop where
  asked : (answers.map Prod.fst).Sublist ((rest.filter fun x => x.2 ≠ .applied).map Prod.fst)
  store : d'.store = d.store
  clock : d.clock ≤ d'.clock
  effects : d'.effects = d.effects ++ (answers.filter fun x => x.2 = .applied).map fun x => (x.1, id)

namespace Applied

theorem nil : Applied id rest [] d d := ⟨List.nil_sublist _, rfl, le_rfl, (List.append_nil _).symm⟩

theorem skip (x : String × PerConsumerStatus) (h : Applied id rest answers d d') :
    Applied id (x :: rest) answers d d' :=
  { h with asked := h.asked.trans (((List.sublist_cons_self x rest).filter _).map _) }

variable {name : String}

theorem cons {status status' : PerConsumerStatus} (hstatus : status ≠ .applied) (hstore : d'.store = d.store)
    (hclock : d.clock ≤ d'.clock)
    (heffects : d'.effects = d.effects ++ if status' = .applied then [(name, id)] else []) {d'' : Dispatcher}
    (h : Applied id rest answers d' d'') : Applied id ((name, status) :: rest) ((name, status') :: answers) d d'' where
  asked := by
    rw [List.filter_cons_of_pos (by simpa using hstatus)]
    exact h.asked.cons_cons name
  store := h.store.trans hstore
  clock := hclock.trans h.clock
  effects := by
    rw [h.effects, heffects, List.filter_cons, List.append_assoc]
    split_ifs <;> simp_all

variable {order : RangeOrder String PerConsumerStatus} (h : Applied record.eventID
    (order.visit record.consumers) answers d₀ d)

include h

theorem nodup : (answers.map Prod.fst).Nodup :=
  (order.nodup_keys _).sublist (h.asked.trans (List.filter_sublist.map _))

theorem lookup (hname : name ∈ answers.map Prod.fst) :
    ∃ status, record.consumers.lookup name = some status ∧ status ≠ .applied := by
  obtain ⟨x, hx, rfl⟩ := List.mem_map.mp (h.asked.subset hname)
  obtain ⟨hvisited, hstatus⟩ := List.mem_filter.mp hx
  exact ⟨x.2, (order.mem_visit_iff _).mp hvisited, of_decide_eq_true hstatus⟩

theorem mem_answered : name ∈ (record.answered answers).consumers ↔ name ∈ record.consumers := by
  rw [AdmissionRecord.mem_answered, or_iff_right_iff_imp]
  intro hname
  obtain ⟨status, hstatus, -⟩ := h.lookup hname
  exact mem_of_lookup_eq_some hstatus

theorem mem_effects {id : EventID} (heffect : (name, id) ∈ d.effects) :
    (name, id) ∈ d₀.effects ∨ id = record.eventID ∧ (name, .applied) ∈ answers := by
  rw [h.effects, List.mem_append] at heffect
  refine heffect.imp_right fun hnew => ?_
  obtain ⟨⟨n, s⟩, hx, heq⟩ := List.mem_map.mp hnew
  obtain ⟨hanswer, hs⟩ := List.mem_filter.mp hx
  obtain rfl : s = .applied := of_decide_eq_true hs
  cases heq
  exact ⟨rfl, hanswer⟩

theorem known {id : EventID} (heffect : (name, id) ∈ d.effects) :
    (name, id) ∈ d₀.effects ∨ id = record.eventID ∧ name ∈ record.consumers := by
  refine (h.mem_effects heffect).imp_right fun hnew => ⟨hnew.1, ?_⟩
  obtain ⟨status, hstatus, -⟩ := h.lookup (List.mem_map_of_mem hnew.2)
  exact mem_of_lookup_eq_some hstatus

theorem notMem_effects (hfresh : Fresh record d₀) (hname : name ∈ answers.map Prod.fst) :
    (name, record.eventID) ∉ d₀.effects := by
  obtain ⟨status, hstatus, hne⟩ := h.lookup hname
  exact fun heffect => hne (hfresh name status hstatus heffect)

theorem once (honce : d₀.effects.Nodup) (hfresh : Fresh record d₀) : d.effects.Nodup := by
  rw [h.effects, List.nodup_append]
  have hnames : ((answers.filter fun x => x.2 = .applied).map Prod.fst).Nodup :=
    h.nodup.sublist (List.filter_sublist.map _)
  refine ⟨honce, ?_, fun x hx y hy => ?_⟩
  · refine List.Nodup.of_map Prod.fst ?_
    rw [List.map_map]
    exact hnames
  · obtain ⟨z, hz, rfl⟩ := List.mem_map.mp hy
    rintro rfl
    exact h.notMem_effects hfresh (List.mem_map_of_mem (List.mem_filter.mp hz).1) hx

theorem interrupted (hheld : Holds w key record d₀) (hprocessing : record.state = .processing)
    (hfailed : ¬ record.HasFailed) : d.Coherent w := by
  have hbefore := hheld.coherent.describes key record hheld.stored
  have hstore : d.store = d₀.store.insert key record := by
    rw [h.store, ← insert_erase_of_lookup hheld.stored, insert_insert]
  refine hheld.coherent.of_insert { hbefore with recorded := fun name status hstatus heffect => ?_ } hstore
    (h.once hheld.coherent.once hheld.fresh) (fun _ _ => h.known) fun old hold => ?_
  · obtain hold | ⟨-, hanswer⟩ := h.mem_effects heffect
    · exact hbefore.recorded name status hstatus hold
    · obtain ⟨s, hs, hne⟩ := h.lookup (List.mem_map_of_mem hanswer)
      obtain rfl : s = status := Option.some.inj (hs.symm.trans hstatus)
      refine .inr ⟨?_, hprocessing⟩
      cases s with
      | pending => rfl
      | applied => exact absurd rfl hne
      | failedRetryable => exact absurd ⟨name, hstatus⟩ hfailed
  · obtain rfl := Option.some.inj (hold.symm.trans hheld.stored)
    exact ⟨rfl, fun _ => id⟩

theorem persisted (hheld : Holds w key record d₀) {state : AdmissionState} (hpresent : state ≠ .absent) :
    Coherent w (tick { d with store := d.store.insert key { record.answered answers with state := state } }) := by
  have hbefore := hheld.coherent.describes key record hheld.stored
  have hid : (record.answered answers).eventID = record.eventID := by rw [AdmissionRecord.answered_eq]
  have hfresh : Fresh (record.answered answers) d := by
    intro name status hstatus heffect
    rw [hid] at heffect
    obtain hmem | ⟨hnot, hlookup⟩ := AdmissionRecord.lookup_answered hstatus
    · obtain hold | ⟨-, hanswer⟩ := h.mem_effects heffect
      · exact absurd hold (h.notMem_effects hheld.fresh (List.mem_map_of_mem hmem))
      · exact congrArg Prod.snd (List.inj_on_of_nodup_map h.nodup hmem hanswer rfl)
    · obtain hold | ⟨-, hanswer⟩ := h.mem_effects heffect
      · exact hheld.fresh name status hlookup hold
      · exact absurd (List.mem_map_of_mem hanswer) hnot
  have hrecord : Describes w d.effects key { record.answered answers with state := state } := by
    refine ⟨?_, hpresent, hid ▸ hbefore.event, fun name hname => hbefore.registered name (h.mem_answered.mp hname),
      fun name status hstatus heffect => .inl (hfresh name status hstatus heffect)⟩
    rw [AdmissionRecord.answered_eq]
    exact hbefore.keyed
  refine hheld.coherent.of_insert hrecord (congrArg (insert key _) h.store)
    (h.once hheld.coherent.once hheld.fresh) (fun name id heffect => ?_) fun old hold => ?_
  · exact (h.known heffect).imp (fun hold => hold) fun hnew => ⟨hnew.1.trans hid.symm, h.mem_answered.mpr hnew.2⟩
  · obtain rfl := Option.some.inj (hold.symm.trans hheld.stored)
    exact ⟨hid, fun _ => h.mem_answered.mpr⟩

end Applied

end Loop

section Calls

variable {A B : Type}

/-- From `P`, a call ends with `Q` and leaves the records coherent, also if it is cut short. -/
def Guards (w : Wiring) (P : Dispatcher → Prop) (x : Method Dispatcher A) (Q : A → Dispatcher → Prop) : Prop :=
  Method.Meets P x (fun a d => d.Coherent w ∧ Q a d) (Coherent w)

variable {P : Dispatcher → Prop} {x : Method Dispatcher A}

theorem Guards.bind {f : A → Method Dispatcher B} {R : A → Dispatcher → Prop} {Q : B → Dispatcher → Prop}
    (hx : Guards w P x R) (hf : ∀ a, Guards w (fun d => d.Coherent w ∧ R a d) (f a) Q) : Guards w P (x >>= f) Q :=
  Method.Meets.bind hx hf

variable {Q : A → Dispatcher → Prop}

theorem Guards.pure {a : A} (h : ∀ d, P d → d.Coherent w ∧ Q a d) : Guards w P (pure a) Q := h

theorem Guards.of_imp {P' : Dispatcher → Prop} (hx : Guards w P x Q) (himp : ∀ d, P' d → P d) :
    Guards w P' x Q := fun d hd => hx d (himp d hd)

theorem Guards.holds (hx : Guards w P x Q) (hd : P d) : (x d).2.Coherent w :=
  (Method.Meets.imp hx (fun _ _ h => h.1) fun _ h => h).holds hd

theorem act_meets {f : Dispatcher → A × Dispatcher} {E : Dispatcher → Prop}
    (hcrash : ∀ d, P d → env.crashes d.clock = true → E d)
    (hdone : ∀ d, P d → env.crashes d.clock = false → Q (f d).1 (f d).2.tick) : Method.Meets P (act env f) Q E := by
  intro d hd
  unfold act
  cases hcrashes : env.crashes d.clock with
  | true => exact hcrash d hd hcrashes
  | false => exact hdone d hd hcrashes

theorem write_meets {f : Map String AdmissionRecord → Map String AdmissionRecord} {P E : Dispatcher → Prop}
    {Q : Except Error Unit → Dispatcher → Prop} (hcrash : ∀ d, P d → env.crashes d.clock = true → E d)
    (hfailed : ∀ d err, P d → env.writeErr d.clock = some err → Q (.error err) d.tick)
    (hdone : ∀ d, P d → Q (.ok ()) (tick { d with store := f d.store })) :
    Method.Meets P (act env fun d => match env.writeErr d.clock with
      | some err => (.error err, d)
      | none => (.ok (), { d with store := f d.store })) Q E := by
  refine act_meets hcrash fun d hd _ => ?_
  cases hwrite : env.writeErr d.clock with
  | none => exact hdone d hd
  | some err => exact hfailed d err hd hwrite

theorem putAdmission_guards (record old : AdmissionRecord) (hrewrites : Rewrites record old) {F G : Dispatcher → Prop}
    (hfailed : ∀ d, Holds w key old d → F d → G d.tick)
    (hdone : ∀ d, Holds w key old d → F d → G (tick { d with store := d.store.insert key record })) :
    Guards w (fun d => Holds w key old d ∧ F d) (putAdmission env key record)
      fun r d => (∀ u, r = .ok u → Holds w key record d) ∧ G d :=
  write_meets (fun _ hd _ => hd.1.coherent)
    (fun d _ hd _ => ⟨hd.1.coherent.congr rfl rfl, ⟨nofun, hfailed d hd.1 hd.2⟩⟩)
    fun d hd => ⟨(hd.1.rewrite hrewrites).coherent, ⟨fun _ _ => hd.1.rewrite hrewrites, hdone d hd.1 hd.2⟩⟩

/-- The call is not cut short if a consumer of one of these records has failed before and it waits again. -/
def Unhurried (env : CallEnv) (keys : List String) (d : Dispatcher) : Prop :=
  ∀ key ∈ keys, ∀ record, d.store.lookup key = some record → record.state = .reservedPendingPrereqs → record.HasFailed →
    env.Completes d.clock

variable {keys : List String}

theorem Unhurried.mono (h : Unhurried env keys d) (hstore : d'.store = d.store) (hclock : d.clock ≤ d'.clock) :
    Unhurried env keys d' := by
  intro key hkey record hlookup hstate hfailed
  rw [hstore] at hlookup
  exact (h key hkey record hlookup hstate hfailed).mono hclock

theorem Unhurried.put (h : Unhurried env keys d)
    (hrecord : record.state = .reservedPendingPrereqs → record.HasFailed → env.Completes d.clock) :
    Unhurried env keys (tick { d with store := d.store.insert key record }) := by
  intro k hk r hlookup hstate hfailed
  refine CallEnv.Completes.mono ?_ (Nat.le_succ d.clock)
  obtain ⟨-, rfl⟩ | ⟨-, hlookup⟩ := lookup_insert_cases hlookup
  · exact hrecord hstate hfailed
  · exact h k hk r hlookup hstate hfailed

theorem computeTopLevelState_cases (consumers : Map String PerConsumerStatus) :
    computeTopLevelState consumers ≠ .absent ∧ computeTopLevelState consumers ≠ .reservedPendingPrereqs := by
  unfold computeTopLevelState
  split_ifs <;> decide

/-- The loop of `invokeConsumers`. -/
theorem applyConsumers_meets (env : CallEnv) (reg : Registry) (ev : Event) (rest : List (String × PerConsumerStatus))
    (r : AdmissionRecord × Bool) (d : Dispatcher) :
    Method.Meets (· = d) (applyConsumers env reg ev rest r)
      (fun r' d' => ∃ answers, Applied ev.id rest answers d d' ∧ r'.1 = r.1.answered answers ∧
        (r'.2 = false → r.2 = false ∧ answers = []))
      (fun d' => ∃ answers, Applied ev.id rest answers d d' ∧ env.crashes d'.clock = true) := by
  induction rest generalizing r d with
  | nil =>
    refine Method.Meets.pure ?_
    rintro d rfl
    exact ⟨[], .nil, rfl, fun hr => ⟨hr, rfl⟩⟩
  | cons x rest ih =>
    obtain ⟨name, status⟩ := x
    unfold applyConsumers
    split_ifs with hskip
    · refine (ih r d).imp (fun r' d' h => ?_) fun d' h => ?_
      · obtain ⟨answers, happlied, hanswers⟩ := h
        exact ⟨answers, happlied.skip _, hanswers⟩
      · obtain ⟨answers, happlied, hcrash⟩ := h
        exact ⟨answers, happlied.skip _, hcrash⟩
    · have hstatus : status ≠ .applied := fun happlied => hskip (.inl happlied)
      -- the rest of the loop, after this consumer has been called
      have hrest : ∀ status' d₁, d₁.store = d.store → d.clock ≤ d₁.clock →
          d₁.effects = d.effects ++ (if status' = .applied then [(name, ev.id)] else []) →
          Method.Meets (· = d₁) (applyConsumers env reg ev rest (r.1.setStatus name status', true))
            (fun r' d' => ∃ answers, Applied ev.id ((name, status) :: rest) answers d d' ∧
              r'.1 = r.1.answered answers ∧ (r'.2 = false → r.2 = false ∧ answers = []))
            (fun d' => ∃ answers, Applied ev.id ((name, status) :: rest) answers d d' ∧
              env.crashes d'.clock = true) := by
        intro status' d₁ hstore hclock heffects
        refine (ih (r.1.setStatus name status', true) d₁).imp (fun r' d' h => ?_) fun d' h => ?_
        · obtain ⟨answers, happlied, hr, hchanged⟩ := h
          exact ⟨_, happlied.cons hstatus hstore hclock heffects, hr, fun hfalse => nomatch (hchanged hfalse).1⟩
        · obtain ⟨answers, happlied, hcrash⟩ := h
          exact ⟨_, happlied.cons hstatus hstore hclock heffects, hcrash⟩
      refine Method.Meets.bind (R := fun res d' => d' = match res with
        | .error _ => d.tick
        | .ok _ => tick { d with effects := d.effects ++ [(name, ev.id)] }) ?_ fun res => ?_
      · refine act_meets ?_ ?_
        · rintro d rfl hcrash
          exact ⟨[], .nil, hcrash⟩
        · rintro d rfl -
          cases env.applyErr d.clock <;> rfl
      · cases res with
        | error err => exact hrest .failedRetryable d.tick rfl (Nat.le_succ _) (by simp [tick])
        | ok u => exact hrest .applied _ rfl (Nat.le_succ _) rfl

/-- What a call needs to invoke the consumers of a record: it is stored as processing, none of its consumers that are
    not applied has done anything, and the call is not cut short if one of them has failed before. -/
structure Invocable (w : Wiring) (env : CallEnv) (key : String) (record : AdmissionRecord) (d : Dispatcher) : Prop
    extends Holds w key record d where
  processing : record.state = .processing
  retry : record.HasFailed → env.Completes d.clock

theorem invokeConsumers_guards {ev : Event} (hev : ev.id = record.eventID) :
    Guards w (fun d => Invocable w env key record d ∧ Unhurried env keys d) (invokeConsumers env w.reg ev key record)
      fun _ => Unhurried env keys := by
  rintro d₀ ⟨h, hunhurried⟩
  -- a crash in the loop, and a crash or a failure in the write after it
  have hcut : ∀ answers d, Applied ev.id (env.statusOrder.visit record.consumers) answers d₀ d →
      (env.crashes d.clock = true ∨ env.writeErr d.clock ≠ none) → d.Coherent w := by
    intro answers d happlied hcut
    rw [hev] at happlied
    refine happlied.interrupted h.toHolds h.processing fun hfailed => ?_
    obtain ⟨hcrashes, hwrite⟩ := h.retry hfailed d.clock happlied.clock
    obtain hcrash | hfailed := hcut
    · rw [hcrashes] at hcrash
      cases hcrash
    · exact hfailed hwrite
  refine Method.Meets.bind
    ((applyConsumers_meets env w.reg ev _ (record, false) d₀).imp (fun _ _ hd => hd) ?_) ?_ d₀ rfl
  · rintro d ⟨answers, happlied, hcrash⟩
    exact hcut answers d happlied (.inl hcrash)
  · rintro ⟨record', changed⟩
    cases changed with
    | false =>
      refine Guards.pure ?_
      rintro d ⟨answers, happlied, -, hchanged⟩
      obtain ⟨-, rfl⟩ := hchanged rfl
      exact ⟨h.coherent.congr happlied.store (happlied.effects.trans (List.append_nil _)),
        hunhurried.mono happlied.store happlied.clock⟩
    | true =>
      obtain ⟨hpresent, hreserved⟩ := computeTopLevelState_cases record'.consumers
      refine Guards.bind (R := fun _ => Unhurried env keys) (write_meets ?_ ?_ ?_) fun r => ?_
      · rintro d ⟨answers, happlied, -⟩ hcrash
        exact hcut answers d happlied (.inl hcrash)
      · rintro d err ⟨answers, happlied, -⟩ hfailed
        have hcoherent := hcut answers d happlied (.inr (by rw [hfailed]; exact Option.some_ne_none err))
        exact ⟨hcoherent.congr rfl rfl, hunhurried.mono happlied.store (happlied.clock.trans (Nat.le_succ _))⟩
      · rintro d ⟨answers, happlied, rfl, -⟩
        rw [hev] at happlied
        exact ⟨happlied.persisted h.toHolds hpresent,
          (hunhurried.mono happlied.store happlied.clock).put fun hstate => absurd hstate hreserved⟩
      · cases r <;> exact Guards.pure fun _ hd => hd

end Calls

end

end Dispatcher

end aethernet.dispatch
