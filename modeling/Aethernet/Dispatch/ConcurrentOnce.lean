import Aethernet.Dispatch.Concurrent
import Aethernet.Dispatch.ExactlyOnce

open golang aethernet.event transition Finmap

namespace aethernet.dispatch

def AdmissionRecord.Holds (record : AdmissionRecord) (x : String × EventID) : Prop :=
  record.eventID = x.2 ∧ record.consumers.lookup x.1 = some .applied

namespace Phase

/-- The copy of the record a call works on, and the key it is stored under. -/
def copy : Phase → Option (String × AdmissionRecord)
  | reserving _ key _ record | retrying _ key _ record | checking _ key _ record | forging key record
  | deferring key _ record | promoting _ key record | rechecking key record _ | waking key record _
      | fetching key record _
  | waiting key record _ | complaining key record _ | flagging key record _ | invoking _ key record _ _ _
  | persisting key record _ => some (key, record)
  | admitting _ | indexing _ _ | notifying _ | visiting _ => none

def Holds (phase : Phase) (x : String × EventID) : Prop := ∃ key record, phase.copy = some (key, record) ∧
    record.Holds x

/-- What the next step of a call amounts to. -/
inductive Deed where
  /-- An `Apply` that succeeds. -/
  | apply (x : String × EventID)
  | put (key : String) (record : AdmissionRecord)
  | delete (key : String)
  /-- The call is done with its copy, without a write. -/
  | giveUp
  | other

def deed (env : CallEnv) (reg : Registry) (d : Dispatcher) : Phase → Deed
  | reserving _ key _ record | retrying _ key _ record | deferring key _ record | promoting _ key record
  | waking key record _ | waiting key record _ | persisting key record _ =>
    if env.writeErr d.clock = none then .put key record else .giveUp
  | flagging _ record _ => if env.writeErr d.clock = none then .put record.key record else .giveUp
  | forging key _ => if env.writeErr d.clock = none then .delete key else .giveUp
  | fetching _ record _ => match env.dag.get record.eventID with
    | .error _ => .giveUp
    | .ok _ => .other
  | complaining key record keys => match complain env key record keys with
    | some (flagging _ _ _) => .other
    | _ => .giveUp
  | invoking _ _ _ [] changed _ => if changed then .other else .giveUp
  | invoking ev _ _ ((name, status) :: _) _ _ =>
    if status = .applied ∨ name ∉ reg.byName then .other
    else match env.applyErr d.clock with
      | some _ => .other
      | none => .apply (name, ev.id)
  | admitting _ | checking _ _ _ _ | indexing _ _ | notifying _ | visiting _ | rechecking _ _ _ => .other

end Phase

namespace Calls

def StoredUnder (s : Calls) (key : String) (x : String × EventID) : Prop :=
  ∃ record, s.dispatcher.store.lookup key = some record ∧ record.Holds x

def HeldByOthers (s : Calls) (i : ℕ) (x : String × EventID) : Prop :=
  ∃ j phase, j ≠ i ∧ s.phases j = some phase ∧ phase.Holds x

def Recorded (s : Calls) (x : String × EventID) : Prop :=
  (∃ key, s.StoredUnder key x) ∨ ∃ i phase, s.phases i = some phase ∧ phase.Holds x

def RecordedBeside (s : Calls) (key : String) (i : ℕ) (x : String × EventID) : Prop :=
  (∃ key', key' ≠ key ∧ s.StoredUnder key' x) ∨ s.HeldByOthers i x

/-- Every consumer was applied once to each event at most, and what was applied is still known. -/
structure Tracked (s : Calls) : Prop where
  once : s.dispatcher.effects.Nodup
  recorded : ∀ x ∈ s.dispatcher.effects, s.Recorded x

/-- The step does not apply a consumer that is known to be applied, and does not drop the last trace of one that is. -/
def Careful (reg : Registry) (s : Calls) : Move → Prop
  | .admitEvent _ _ | .notifyProjection _ _ => True
  | .proceed i env => match s.phases i with
    | none => True
    | some phase => match phase.deed env reg s.dispatcher with
      | .apply x => ¬s.Recorded x
      | .put key record => ∀ x, s.StoredUnder key x → record.Holds x ∨ s.RecordedBeside key i x
      | .delete key => ∀ x, s.StoredUnder key x ∨ phase.Holds x → s.RecordedBeside key i x
      | .giveUp => ∀ x, phase.Holds x → (∃ key, s.StoredUnder key x) ∨ s.HeldByOthers i x
      | .other => True

end Calls

section

variable {w : Wiring} {env : CallEnv} {d : Dispatcher} {key key' : String} {record : AdmissionRecord} {phase : Phase}
  {x y : String × EventID}

/-- The record is of the event whose admission key it is stored under. -/
structure AdmissionRecord.Named (w : Wiring) (key : String) (record : AdmissionRecord) : Prop where
  key_eq : record.key = key
  event_eq : ∀ ev ∈ w.events, admissionKey w.c w.blake3 ev = .ok key → record.eventID = ev.id

variable (keys : List String) {written failed : Option Phase} {ev : Event} {consumers : List Consumer}

namespace Phase

/-- What holds of a call on the way: its copy is of the right event, and the consumers it has still to visit have the
    statuses in the copy they were visited with. -/
def Valid (w : Wiring) : Phase → Prop
  | admitting ev => ev ∈ w.events
  | reserving ev key _ record | retrying ev key _ record | checking ev key _ record | promoting ev key record =>
    record.Named w key ∧ ev.id = record.eventID
  | invoking ev key record rest _ _ => record.Named w key ∧ ev.id = record.eventID ∧
      (rest.map Prod.fst).Nodup ∧ ∀ p ∈ rest, record.consumers.lookup p.1 = some p.2
  | forging key record | deferring key _ record | rechecking key record _ | waking key record _ | fetching key record _
  | waiting key record _ | complaining key record _ | flagging key record _ | persisting key record _ =>
    record.Named w key
  | indexing _ _ | notifying _ | visiting _ => True

def Held (phase : Option Phase) (x : String × EventID) : Prop := ∃ p, phase = some p ∧ p.Holds x

/-- What a deed does to the store, the consumers and the copy of the call. -/
def Deed.Does (d : Dispatcher) (before : Phase) (after : Option Phase) (d' : Dispatcher) : Deed → Prop
  | .apply x => d'.store = d.store ∧ d'.effects = d.effects ++ [x] ∧ ∀ y, Held after y ↔ before.Holds y ∨ y = x
  | .put key record => d'.store = d.store.insert key record ∧ d'.effects = d.effects ∧
      (∀ y, before.Holds y → record.Holds y) ∧ (∀ y, record.Holds y → before.Holds y) ∧ ∀ y, Held after y →
      record.Holds y
  | .delete key => d'.store = d.store.erase key ∧ d'.effects = d.effects ∧ ∀ y, ¬Held after y
  | .giveUp => d'.store = d.store ∧ d'.effects = d.effects ∧ ∀ y, ¬Held after y
  | .other => d'.store = d.store ∧ d'.effects = d.effects ∧ (∀ y, before.Holds y → Held after y) ∧
      ∀ y, Held after y → before.Holds y ∨ ∃ key record, d.store.lookup key = some record ∧ record.Holds y

@[simp]
theorem not_held_none : ¬Held none x := by
  rintro ⟨p, hp, -⟩
  cases hp

theorem held_some : Held (some phase) x ↔ phase.Holds x :=
  ⟨fun ⟨_, hp, hx⟩ => Option.some.inj hp ▸ hx, fun hx => ⟨phase, rfl, hx⟩⟩

theorem holds_iff_of_copy (h : phase.copy = some (key, record)) : phase.Holds x ↔ record.Holds x := by
  refine ⟨fun ⟨key', record', hcopy, hx⟩ => ?_, fun hx => ⟨key, record, h, hx⟩⟩
  rw [h] at hcopy
  cases hcopy
  exact hx

theorem holds_of_held (h : phase.copy = some (key, record)) (hheld : Held (some phase) x) : record.Holds x :=
  (holds_iff_of_copy h).mp (held_some.mp hheld)

theorem not_holds_of_copy (h : phase.copy = none) : ¬phase.Holds x := by
  rintro ⟨key, record, hcopy, -⟩
  rw [h] at hcopy
  cases hcopy

@[simp]
theorem not_held_next : ¬Held (next keys) x := by
  cases keys with
  | nil => exact not_held_none
  | cons key keys => exact fun h => not_holds_of_copy rfl (held_some.mp h)

theorem does_store_put (hcopy : phase.copy = some (key', record)) (hwritten : ∀ y, Held written y → record.Holds y)
    (hfailed : ∀ y, ¬Held failed y) :
    Deed.Does d phase (store env (·.insert key record) written failed d).1
    (store env (·.insert key record) written failed d).2
      (if env.writeErr d.clock = none then .put key record else .giveUp) := by
  unfold store
  cases env.writeErr d.clock with
  | none =>
    exact ⟨rfl, rfl, fun _ => (holds_iff_of_copy hcopy).mp, fun _ => (holds_iff_of_copy hcopy).mpr, hwritten⟩
  | some err =>
    exact ⟨rfl, rfl, hfailed⟩

variable {d' : Dispatcher}

theorem does_other {after : Phase} {record' : AdmissionRecord} (hstore : d'.store = d.store)
    (heffects : d'.effects = d.effects) (hcopy : phase.copy = some (key, record))
    (hafter : after.copy = some (key', record')) (hsame : ∀ y, record'.Holds y ↔ record.Holds y) :
    Deed.Does d phase (some after) d' .other := by
  have hkept : ∀ y, after.Holds y ↔ phase.Holds y := fun y =>
    (holds_iff_of_copy hafter).trans ((hsame y).trans (holds_iff_of_copy hcopy).symm)
  exact ⟨hstore, heffects, fun y hy => held_some.mpr ((hkept y).mpr hy), fun y hy =>
    .inl ((hkept y).mp (held_some.mp hy))⟩

theorem does_idle {after : Option Phase} (hstore : d'.store = d.store) (heffects : d'.effects = d.effects)
    (hcopy : phase.copy = none) (hnone : ∀ y, ¬Held after y) : Deed.Does d phase after d' .other :=
  ⟨hstore, heffects, fun _ hy => absurd hy (not_holds_of_copy hcopy), fun y hy => absurd hy (hnone y)⟩

theorem does_read {after : Phase} (hcopy : phase.copy = none) (hafter : after.copy = some (key, record))
    {old : AdmissionRecord} (hstored : d.store.lookup key = some old) (hsub : ∀ y, record.Holds y → old.Holds y) :
    Deed.Does d phase (some after) d .other :=
  ⟨rfl, rfl, fun _ hy => absurd hy (not_holds_of_copy hcopy), fun y hy =>
    .inr ⟨key, old, hstored, hsub y (holds_of_held hafter hy)⟩⟩

theorem not_holds_reservation : ¬(Dispatcher.reservation env key ev consumers).Holds x := by
  rintro ⟨-, happlied⟩
  cases Dispatcher.lookup_reservation happlied

theorem load_does {reg : Registry} {c : Crypto} {blake3 : Blake3} :
    Deed.Does d (admitting ev) (load env reg c blake3 ev d) d .other := by
  have hidle : Deed.Does d (admitting ev) none d .other := does_idle rfl rfl rfl fun _ => not_held_none
  unfold load
  split
  · exact hidle
  · split
    · exact hidle
    · dsimp only
      split
      · exact hidle
      · split
        · split
          · refine does_idle rfl rfl rfl fun y hy => ?_
            exact not_holds_reservation (holds_of_held rfl hy)
          · exact hidle
        · rename_i existing hget
          have hstored := Dispatcher.lookup_of_getAdmission hget
          split
          · exact does_read rfl rfl hstored fun _ => id
          · split
            · exact hidle
            · exact does_read rfl rfl hstored fun _ => id

theorem visit_does {keys : List String} : Deed.Does d (visiting (key :: keys)) (visit env key keys d) d .other := by
  have hidle : Deed.Does d (visiting (key :: keys)) (next keys) d .other := does_idle rfl rfl rfl fun _ =>
    not_held_next keys
  unfold visit
  split
  · exact hidle
  · rename_i record hget
    split
    · exact hidle
    · exact does_read rfl rfl (Dispatcher.lookup_of_getAdmission hget) fun _ => id

theorem check_does :
    Deed.Does d (checking ev key consumers record) (some (check env ev key consumers record)) d .other := by
  unfold check
  split
  · exact does_other rfl rfl rfl rfl fun _ => Iff.rfl
  · split
    · exact does_other rfl rfl rfl rfl fun _ => Iff.rfl
    · exact does_other rfl rfl rfl rfl fun _ => Iff.rfl
  · exact does_other rfl rfl rfl rfl fun _ => Iff.rfl

theorem complain_cases (env : CallEnv) (key : String) (record : AdmissionRecord) (keys : List String) :
    complain env key record keys = some (flagging key { record with evidenceEmitted := true } keys) ∨
      complain env key record keys = next keys := by
  unfold complain
  split_ifs
  · split
    · exact .inr rfl
    · split
      · exact .inr rfl
      · exact .inl rfl
  · exact .inr rfl

theorem holds_setStatus_iff {name : String} {status : PerConsumerStatus} :
    (record.setStatus name status).Holds x ↔ record.eventID = x.2 ∧
      (if x.1 = name then status = .applied else record.consumers.lookup x.1 = some .applied) := by
  unfold AdmissionRecord.Holds AdmissionRecord.setStatus
  rw [lookup_insert_eq]
  split_ifs <;> simp

/-- Every step does what its deed says. -/
theorem step_does (env : CallEnv) (d : Dispatcher) (hvalid : phase.Valid w) :
    (phase.deed env w.reg d).Does d phase (phase.step env w.reg w.c w.blake3 d).1
    (phase.step env w.reg w.c w.blake3 d).2 := by
  cases phase with
  | admitting ev => exact load_does
  | reserving ev key consumers record | retrying ev key consumers record | promoting ev key record =>
    exact does_store_put rfl (fun _ => holds_of_held rfl) fun _ => not_held_none
  | checking ev key consumers record => exact check_does
  | forging key record =>
    simp only [step, store, deed]
    cases env.writeErr d.clock <;> exact ⟨rfl, rfl, fun _ => not_held_none⟩
  | deferring key missing record =>
    exact does_store_put rfl (fun y hy => absurd (held_some.mp hy) (not_holds_of_copy rfl)) fun _ => not_held_none
  | indexing key missing => exact does_idle rfl rfl rfl fun _ => not_held_none
  | notifying id => exact does_idle rfl rfl rfl fun _ => not_held_next _
  | visiting keys => cases keys with
    | nil => exact does_idle rfl rfl rfl fun _ => not_held_none
    | cons key keys => exact visit_does
  | rechecking key record keys =>
    simp only [step, deed]
    split
    · exact does_other rfl rfl rfl rfl fun _ => Iff.rfl
    · exact does_other rfl rfl rfl rfl fun _ => Iff.rfl
  | waking key record keys | waiting key record keys =>
    exact does_store_put rfl (fun _ => holds_of_held rfl) fun _ => not_held_next keys
  | fetching key record keys =>
    simp only [step, deed]
    cases env.dag.get record.eventID with
    | error err => exact ⟨rfl, rfl, fun _ => not_held_next keys⟩
    | ok ev => exact does_other rfl rfl rfl rfl fun _ => Iff.rfl
  | complaining key record keys =>
    simp only [step, deed]
    obtain hflag | hnext := complain_cases env key record keys
    · rw [hflag]
      exact does_other rfl rfl rfl rfl fun _ => Iff.rfl
    · rw [hnext]
      cases keys <;> exact ⟨rfl, rfl, fun _ => not_held_next _⟩
  | flagging key record keys | persisting key record keys =>
    exact does_store_put rfl (fun y hy => absurd hy (not_held_next keys)) fun _ => not_held_next keys
  | invoking ev key record rest changed keys =>
    cases rest with
    | nil =>
      cases changed with
      | false => exact ⟨rfl, rfl, fun _ => not_held_next keys⟩
      | true => exact does_other rfl rfl rfl rfl fun _ => Iff.rfl
    | cons entry rest =>
      obtain ⟨name, status⟩ := entry
      obtain ⟨-, hid, -, hstatus⟩ := hvalid
      simp only [step, deed]
      split_ifs with hskip
      · exact does_other rfl rfl rfl rfl fun _ => Iff.rfl
      · have hpending : record.consumers.lookup name = some status := hstatus _ List.mem_cons_self
        have hne : status ≠ .applied := fun h => hskip (.inl h)
        cases env.applyErr d.clock with
        | some err =>
          refine does_other rfl rfl rfl rfl fun y => holds_setStatus_iff.trans (and_congr_right fun _ => ?_)
          split_ifs with hname
          · rw [hname, hpending]
            simp [hne]
          · rfl
        | none =>
          refine ⟨rfl, rfl, fun y => held_some.trans ((holds_iff_of_copy rfl).trans (holds_setStatus_iff.trans ?_))⟩
          have hbefore : (invoking ev key record ((name, status) :: rest) changed keys).Holds y ↔ record.Holds y :=
            holds_iff_of_copy rfl
          rw [hbefore]
          unfold AdmissionRecord.Holds
          obtain ⟨n, id⟩ := y
          by_cases hname : n = name
          · subst hname
            simp [hpending, hne, hid, eq_comm]
          · simp [hname]

def StoreNamed (w : Wiring) (d : Dispatcher) : Prop :=
  ∀ key record, d.store.lookup key = some record → record.Named w key

theorem StoreNamed.insert (h : StoreNamed w d) (hrecord : record.Named w key)
    (hstore : d'.store = d.store.insert key record) : StoreNamed w d' := by
  intro k r hk
  rw [hstore] at hk
  obtain ⟨rfl, rfl⟩ | ⟨-, hk⟩ := lookup_insert_cases hk
  · exact hrecord
  · exact h k r hk

theorem StoreNamed.erase (h : StoreNamed w d) (hstore : d'.store = d.store.erase key) : StoreNamed w d' := by
  intro k r hk
  rw [hstore, lookup_erase_eq] at hk
  split_ifs at hk
  exact h k r hk

def ValidNext (w : Wiring) : Option Phase → Prop
  | none => True
  | some phase => phase.Valid w

def Leaves (w : Wiring) (r : Option Phase × Dispatcher) : Prop :=
  ValidNext w r.1 ∧ StoreNamed w r.2

theorem valid_next : ValidNext w (next keys) := by
  cases keys <;> trivial

theorem leaves_store (h : StoreNamed w d) (hrecord : record.Named w key) (hwritten : ValidNext w written)
    (hfailed : ValidNext w failed) : Leaves w (store env (·.insert key record) written failed d) := by
  unfold store
  split
  · exact ⟨hfailed, h⟩
  · exact ⟨hwritten, h.insert hrecord rfl⟩

theorem valid_invoke (hrecord : record.Named w key) (hid : ev.id = record.eventID) :
    (invoke env ev key record keys).Valid w :=
  ⟨hrecord, hid, env.statusOrder.nodup_keys _, fun _ hp => (env.statusOrder.mem_visit_iff _).mp hp⟩

theorem valid_load (h : StoreNamed w d) (hev : ev ∈ w.events) : ValidNext w (load env w.reg w.c w.blake3 ev d) := by
  unfold load
  split
  · trivial
  · rename_i key hkey
    split
    · trivial
    · dsimp only
      split
      · trivial
      · split
        · split
          · refine ⟨⟨rfl, fun ev' hev' hkey' => ?_⟩, rfl⟩
            exact ((w.named ev hev ev' hev' key hkey).mpr hkey').symm
          · trivial
        · rename_i existing hget
          have hexisting := h key existing (Dispatcher.lookup_of_getAdmission hget)
          have hid : ev.id = existing.eventID := (hexisting.event_eq ev hev hkey).symm
          split
          · exact ⟨⟨hexisting.key_eq, hexisting.event_eq⟩, hid⟩
          · split
            · trivial
            · exact ⟨hexisting, hid⟩

theorem valid_check (hrecord : record.Named w key) (hid : ev.id = record.eventID) :
    (check env ev key consumers record).Valid w := by
  unfold check
  split
  · exact hrecord
  · split
    · exact ⟨⟨hrecord.key_eq, hrecord.event_eq⟩, hid⟩
    · exact valid_invoke [] hrecord hid
  · exact ⟨hrecord.key_eq, hrecord.event_eq⟩

theorem step_leaves (env : CallEnv) (hvalid : phase.Valid w) (h : StoreNamed w d) :
    Leaves w (phase.step env w.reg w.c w.blake3 d) := by
  cases phase with
  | admitting ev => exact ⟨valid_load h hvalid, h⟩
  | reserving ev key consumers record | retrying ev key consumers record =>
    exact leaves_store h hvalid.1 hvalid trivial
  | checking ev key consumers record =>
    exact ⟨valid_check hvalid.1 hvalid.2, h⟩
  | forging key record =>
    simp only [step, store]
    split
    · exact ⟨trivial, h⟩
    · exact ⟨trivial, h.erase rfl⟩
  | deferring key missing record =>
    exact leaves_store h hvalid trivial trivial
  | indexing key missing => exact ⟨trivial, h⟩
  | promoting ev key record =>
    exact leaves_store h hvalid.1 (valid_invoke [] hvalid.1 hvalid.2) trivial
  | notifying id => exact ⟨valid_next _, h⟩
  | visiting keys => cases keys with
    | nil => exact ⟨trivial, h⟩
    | cons key keys =>
      refine ⟨?_, h⟩
      simp only [step, visit]
      split
      · exact valid_next keys
      · rename_i record hget
        split
        · exact valid_next keys
        · exact h key record (Dispatcher.lookup_of_getAdmission hget)
  | rechecking key record keys =>
    have hsame : record.Named w key := hvalid
    simp only [step]
    split
    · exact ⟨⟨hsame.key_eq, hsame.event_eq⟩, h⟩
    · exact ⟨⟨hsame.key_eq, hsame.event_eq⟩, h⟩
  | waking key record keys | waiting key record keys =>
    exact leaves_store h hvalid hvalid (valid_next keys)
  | fetching key record keys =>
    simp only [step]
    cases hget : env.dag.get record.eventID with
    | error err => exact ⟨valid_next keys, h⟩
    | ok ev =>
      exact ⟨valid_invoke keys hvalid (env.dag.id_eq _ _ hget), h⟩
  | complaining key record keys =>
    have hsame : record.Named w key := hvalid
    refine ⟨?_, h⟩
    simp only [step]
    obtain hflag | hnext := complain_cases env key record keys
    · rw [hflag]
      exact ⟨hsame.key_eq, hsame.event_eq⟩
    · rw [hnext]
      exact valid_next keys
  | flagging key record keys =>
    have hsame : record.Named w key := hvalid
    obtain rfl := hsame.key_eq
    exact leaves_store h hsame (valid_next keys) (valid_next keys)
  | invoking ev key record rest changed keys =>
    obtain ⟨hsame, hid, hnodup, hstatus⟩ := hvalid
    cases rest with
    | nil =>
      cases changed with
      | false => exact ⟨valid_next keys, h⟩
      | true =>
        exact ⟨⟨hsame.key_eq, hsame.event_eq⟩, h⟩
    | cons entry rest =>
      obtain ⟨name, status⟩ := entry
      obtain ⟨hfresh, hnodup⟩ := List.nodup_cons.mp hnodup
      have hrest : ∀ p ∈ rest, record.consumers.lookup p.1 = some p.2 := fun p hp => hstatus p
        (List.mem_cons_of_mem _ hp)
      -- the consumer that was called is none of those still to be visited
      have hset : ∀ status', ∀ p ∈ rest, (record.setStatus name status').consumers.lookup p.1 = some p.2 := by
        intro status' p hp
        have hne : p.1 ≠ name := by
          rintro rfl
          exact hfresh (List.mem_map.mpr ⟨p, hp, rfl⟩)
        exact (lookup_insert_of_ne _ hne).trans (hrest p hp)
      simp only [step]
      split_ifs
      · exact ⟨⟨hsame, hid, hnodup, hrest⟩, h⟩
      · split
        all_goals
          exact ⟨⟨⟨hsame.key_eq, hsame.event_eq⟩, hid, hnodup, hset _⟩, h⟩
  | persisting key record keys => exact leaves_store h hvalid (valid_next keys) (valid_next keys)

end Phase

namespace Calls

variable {s : Calls} {i : ℕ} {move : Move} {after : Option Phase}

open Phase

/-- Everything on the way is valid. -/
structure Sane (w : Wiring) (s : Calls) : Prop where
  store : StoreNamed w s.dispatcher
  phases : ∀ i phase, s.phases i = some phase → phase.Valid w

/-- What is recorded as applied was applied. -/
def Sound (s : Calls) : Prop := ∀ x, s.Recorded x → x ∈ s.dispatcher.effects

theorem recorded_iff_of_update {d' : Dispatcher} :
    Recorded { dispatcher := d', phases := Function.update s.phases i after } x ↔
      (∃ key record, d'.store.lookup key = some record ∧ record.Holds x) ∨ Held after x ∨ s.HeldByOthers i x := by
  simp only [Recorded, StoredUnder]
  refine or_congr_right ⟨?_, ?_⟩
  · rintro ⟨j, phase, hphase, hx⟩
    by_cases hj : j = i
    · subst hj
      rw [Function.update_self] at hphase
      exact .inl ⟨phase, hphase, hx⟩
    · rw [Function.update_of_ne hj] at hphase
      exact .inr ⟨j, phase, hj, hphase, hx⟩
  · rintro (⟨phase, hphase, hx⟩ | ⟨j, phase, hj, hphase, hx⟩)
    · exact ⟨i, phase, by rw [Function.update_self, hphase], hx⟩
    · exact ⟨j, phase, by rw [Function.update_of_ne hj, hphase], hx⟩

theorem recorded_iff (hphase : s.phases i = some phase) :
    s.Recorded x ↔ (∃ key, s.StoredUnder key x) ∨ phase.Holds x ∨ s.HeldByOthers i x := by
  have hsame : s = { dispatcher := s.dispatcher, phases := Function.update s.phases i (some phase) } := by
    rw [← hphase, Function.update_eq_self]
  rw [hsame, recorded_iff_of_update, held_some]
  rw [← hsame]
  rfl

theorem recorded_iff_beside (hphase : s.phases i = some phase) (key : String) :
    s.Recorded x ↔ s.StoredUnder key x ∨ phase.Holds x ∨ s.RecordedBeside key i x := by
  have hkeys : (∃ k, s.StoredUnder k x) ↔ s.StoredUnder key x ∨ ∃ k, k ≠ key ∧ s.StoredUnder k x := by
    refine ⟨fun ⟨k, hk⟩ => ?_, fun h => h.elim (fun hx => ⟨key, hx⟩) fun ⟨k, _, hx⟩ => ⟨k, hx⟩⟩
    by_cases hsame : k = key
    · exact .inl (hsame ▸ hk)
    · exact .inr ⟨k, hsame, hk⟩
  rw [recorded_iff hphase, hkeys, RecordedBeside, or_assoc]
  exact or_congr_right or_left_comm

theorem recorded_insert {d' : Dispatcher} (hstore : d'.store = s.dispatcher.store.insert key record) :
    Recorded { dispatcher := d', phases := Function.update s.phases i after } x ↔
      record.Holds x ∨ Held after x ∨ s.RecordedBeside key i x := by
  rw [recorded_iff_of_update, hstore]
  constructor
  · rintro (⟨k, r, hk, hx⟩ | hheld | hothers)
    · obtain ⟨rfl, rfl⟩ | ⟨hne, hk⟩ := lookup_insert_cases hk
      · exact .inl hx
      · exact .inr (.inr (.inl ⟨k, hne, r, hk, hx⟩))
    · exact .inr (.inl hheld)
    · exact .inr (.inr (.inr hothers))
  · rintro (hx | hheld | ⟨k, hne, r, hk, hx⟩ | hothers)
    · exact .inl ⟨key, record, lookup_insert _, hx⟩
    · exact .inr (.inl hheld)
    · exact .inl ⟨k, r, (lookup_insert_of_ne _ hne).trans hk, hx⟩
    · exact .inr (.inr hothers)

theorem recorded_erase {d' : Dispatcher} (hstore : d'.store = s.dispatcher.store.erase key) :
    Recorded { dispatcher := d', phases := Function.update s.phases i after } x ↔
      Held after x ∨ s.RecordedBeside key i x := by
  rw [recorded_iff_of_update, hstore]
  constructor
  · rintro (⟨k, r, hk, hx⟩ | hheld | hothers)
    · rw [lookup_erase_eq] at hk
      split_ifs at hk with hne
      exact .inr (.inl ⟨k, hne, r, hk, hx⟩)
    · exact .inl hheld
    · exact .inr (.inr hothers)
  · rintro (hheld | ⟨k, hne, r, hk, hx⟩ | hothers)
    · exact .inr (.inl hheld)
    · exact .inl ⟨k, r, (lookup_erase_ne hne).trans hk, hx⟩
    · exact .inr (.inr hothers)

theorem Sane.begin (h : s.Sane w) (hvalid : phase.Valid w) :
    (s.begin i phase).Sane w := by
  unfold Calls.begin
  split
  · exact h
  · refine ⟨h.store, forall_update h.phases ?_⟩
    rintro _ ⟨⟩
    exact hvalid

theorem recorded_begin (hcopy : phase.copy = none) : (s.begin i phase).Recorded x ↔ s.Recorded x := by
  unfold Calls.begin
  split
  · rfl
  · rename_i hidle
    have hsame : s = { dispatcher := s.dispatcher, phases := Function.update s.phases i none } := by
      rw [← hidle, Function.update_eq_self]
    conv_rhs => rw [hsame]
    rw [recorded_iff_of_update, recorded_iff_of_update]
    simp [held_some, not_holds_of_copy hcopy, not_held_none]

theorem begin_dispatcher : (s.begin i phase).dispatcher = s.dispatcher := by
  unfold Calls.begin
  split <;> rfl

/-- The events that calls of `Admit` begin with are among these. -/
def Admits (events : Set Event) : Move → Prop
  | .admitEvent _ ev => ev ∈ events
  | _ => True

theorem Sane.step (h : s.Sane w) (hadmits : Admits w.events move) : (s.step w.reg w.c w.blake3 move).Sane w := by
  cases move with
  | admitEvent i ev => exact h.begin hadmits
  | notifyProjection i id => exact h.begin trivial
  | proceed i env =>
    simp only [Calls.step]
    split
    · exact h
    · rename_i phase hphase
      obtain ⟨hnext, hstore⟩ := step_leaves env (h.phases i phase hphase) h.store
      refine ⟨hstore, forall_update h.phases fun after hafter => ?_⟩
      rw [hafter] at hnext
      exact hnext

theorem tracked_iff_forgets_nothing {s' : Calls} {K R : String × EventID → Prop} (hsound : s.Sound)
    (htracked : s.Tracked) (heffects : s'.dispatcher.effects = s.dispatcher.effects)
    (hknown : ∀ x, s'.Recorded x ↔ K x) (hold : ∀ x, K x → s.Recorded x)
    (hkeeps : ∀ x, (s.Recorded x → K x) ↔ R x) : s'.Sound ∧ (s'.Tracked ↔ ∀ x, R x) := by
  simp only [← hknown, ← hkeeps] at *
  refine ⟨fun x hx => heffects ▸ hsound x (hold x hx), fun h x hx => ?_, fun h =>
    ⟨heffects ▸ htracked.once, fun x hx => ?_⟩⟩
  · exact h.recorded x (heffects ▸ hsound x hx)
  · exact h x (htracked.recorded x (heffects ▸ hx))

section Proceed

variable {after : Option Phase} {d' : Dispatcher}

/-- The state after a step of the call `i`. -/
def moved (s : Calls) (i : ℕ) (after : Option Phase) (d' : Dispatcher) : Calls :=
  { dispatcher := d', phases := Function.update s.phases i after }

theorem recorded_moved (hstore : d'.store = s.dispatcher.store) :
    (s.moved i after d').Recorded x ↔ (∃ key, s.StoredUnder key x) ∨ Held after x ∨ s.HeldByOthers i x := by
  rw [moved, recorded_iff_of_update, hstore]
  rfl

variable (hphase : s.phases i = some phase)

include hphase

theorem tracked_apply_iff (hsound : s.Sound) (htracked : s.Tracked)
    (hdoes : Deed.Does s.dispatcher phase after d' (.apply x)) :
    (s.moved i after d').Sound ∧ ((s.moved i after d').Tracked ↔ ¬s.Recorded x) := by
  obtain ⟨hstore, heffects, hheld⟩ := hdoes
  have hrecorded : ∀ y, (s.moved i after d').Recorded y ↔ s.Recorded y ∨ y = x := by
    intro y
    rw [recorded_iff hphase, recorded_moved hstore, hheld]
    tauto
  have hknown : x ∈ s.dispatcher.effects ↔ s.Recorded x := ⟨htracked.recorded x, hsound x⟩
  have heffects' : (s.moved i after d').dispatcher.effects = s.dispatcher.effects ++ [x] := heffects
  refine ⟨fun y hy => ?_, fun h hx => ?_, fun hx => ⟨?_, fun y hy => ?_⟩⟩
  · rw [heffects', List.mem_append, List.mem_singleton]
    exact ((hrecorded y).mp hy).imp_left (hsound y)
  · have honce := h.once
    rw [heffects', List.nodup_append] at honce
    exact honce.2.2 x (hknown.mpr hx) x (List.mem_singleton_self x) rfl
  · rw [heffects']
    refine List.nodup_append.mpr ⟨htracked.once, List.nodup_singleton x, fun y hy z hz => ?_⟩
    rintro rfl
    obtain rfl := List.mem_singleton.mp hz
    exact hx (hknown.mp hy)
  · rw [heffects', List.mem_append, List.mem_singleton] at hy
    exact (hrecorded y).mpr (hy.imp_left (htracked.recorded y))

theorem tracked_put_iff (hsound : s.Sound) (htracked : s.Tracked)
    (hdoes : Deed.Does s.dispatcher phase after d' (.put key record)) :
    (s.moved i after d').Sound ∧ ((s.moved i after d').Tracked ↔
      ∀ x, s.StoredUnder key x → record.Holds x ∨ s.RecordedBeside key i x) := by
  obtain ⟨hstore, heffects, hcopy, hcopy', hheld⟩ := hdoes
  have hsame : ∀ x, phase.Holds x ↔ record.Holds x := fun x => ⟨hcopy x, hcopy' x⟩
  refine tracked_iff_forgets_nothing (K := fun x => record.Holds x ∨ s.RecordedBeside key i x) hsound htracked heffects
    (fun x => (recorded_insert hstore).trans ?_) (fun x => ?_) fun x => ?_
  · have := hheld x
    tauto
  all_goals
    rw [recorded_iff_beside hphase key, hsame]
    tauto

theorem tracked_delete_iff (hsound : s.Sound) (htracked : s.Tracked)
    (hdoes : Deed.Does s.dispatcher phase after d' (.delete key)) :
    (s.moved i after d').Sound ∧ ((s.moved i after d').Tracked ↔
      ∀ x, s.StoredUnder key x ∨ phase.Holds x → s.RecordedBeside key i x) := by
  obtain ⟨hstore, heffects, hheld⟩ := hdoes
  refine tracked_iff_forgets_nothing hsound htracked heffects
    (fun x => (recorded_erase hstore).trans (or_iff_right (hheld x))) (fun x => ?_) fun x => ?_
  all_goals rw [recorded_iff_beside hphase key]
  · exact fun hx => .inr (.inr hx)
  · rw [← or_assoc, or_imp, and_iff_left id]

theorem tracked_giveUp_iff (hsound : s.Sound) (htracked : s.Tracked)
    (hdoes : Deed.Does s.dispatcher phase after d' .giveUp) :
    (s.moved i after d').Sound ∧ ((s.moved i after d').Tracked ↔
      ∀ x, phase.Holds x → (∃ key, s.StoredUnder key x) ∨ s.HeldByOthers i x) := by
  obtain ⟨hstore, heffects, hheld⟩ := hdoes
  refine tracked_iff_forgets_nothing hsound htracked heffects
    (fun x => (recorded_moved hstore).trans (or_congr_right (or_iff_right (hheld x)))) (fun x => ?_) fun x => ?_
  all_goals
    rw [recorded_iff hphase]
    tauto

theorem tracked_other (hsound : s.Sound) (htracked : s.Tracked) (hdoes : Deed.Does s.dispatcher phase after d' .other) :
    (s.moved i after d').Sound ∧ (s.moved i after d').Tracked := by
  obtain ⟨hstore, heffects, hkept, hnew⟩ := hdoes
  refine And.imp_right (fun h => h.mpr fun _ => trivial) (tracked_iff_forgets_nothing (R := fun _ => True) hsound
    htracked heffects (fun x => recorded_moved hstore) (fun x => ?_) fun x => ?_)
  · rw [recorded_iff hphase]
    exact Or.rec .inl (Or.rec (fun hx => (hnew x hx).elim (fun hx => .inr (.inl hx)) .inl) fun hx => .inr (.inr hx))
  · rw [recorded_iff hphase, iff_true]
    exact Or.imp_right (.imp_left (hkept x))

end Proceed

/-- From a tracked state, a step leads to a tracked one exactly if it is careful. -/
theorem sound_and_tracked_step_iff (hsane : s.Sane w) (hsound : s.Sound) (htracked : s.Tracked) :
    (s.step w.reg w.c w.blake3 move).Sound ∧ ((s.step w.reg w.c w.blake3 move).Tracked ↔ s.Careful w.reg move) := by
  have hbegin : ∀ i phase, phase.copy = none → (s.begin i phase).Sound ∧ ((s.begin i phase).Tracked ↔ True) := by
    intro i phase hcopy
    refine ⟨fun x hx => ?_, iff_of_true ⟨?_, fun x hx => ?_⟩ trivial⟩
    · rw [begin_dispatcher]
      exact hsound x ((recorded_begin hcopy).mp hx)
    · rw [begin_dispatcher]
      exact htracked.once
    · rw [begin_dispatcher] at hx
      exact (recorded_begin hcopy).mpr (htracked.recorded x hx)
  cases move with
  | admitEvent i ev => exact hbegin i (.admitting ev) rfl
  | notifyProjection i id => exact hbegin i (.notifying id) rfl
  | proceed i env =>
    simp only [Calls.step, Careful]
    cases hphase : s.phases i with
    | none => exact ⟨hsound, iff_of_true htracked trivial⟩
    | some phase =>
      have hdoes := step_does env s.dispatcher (hsane.phases i phase hphase)
      dsimp only
      revert hdoes
      generalize phase.deed env w.reg s.dispatcher = deed
      intro hdoes
      cases deed with
      | apply x => exact tracked_apply_iff hphase hsound htracked hdoes
      | put key record => exact tracked_put_iff hphase hsound htracked hdoes
      | delete key => exact tracked_delete_iff hphase hsound htracked hdoes
      | giveUp => exact tracked_giveUp_iff hphase hsound htracked hdoes
      | other => exact (tracked_other hphase hsound htracked hdoes).imp_right fun h => iff_of_true h trivial

theorem tracked_initial : Tracked {} where
  once := List.nodup_nil
  recorded _ hx := absurd hx List.not_mem_nil

theorem sound_initial : Sound {} := by
  rintro x (⟨key, record, hstored, -⟩ | ⟨i, phase, hphase, -⟩)
  · simp at hstored
  · cases hphase

theorem sane_initial : Sane w {} where
  store key record hstored := by simp at hstored
  phases i phase hphase := by cases hphase

/-- In every interleaving of calls on an empty store, the consumers are applied once each at most and this stays known
    at every moment exactly if every step is careful. -/
theorem tracked_along_iff (c : Crypto) (blake3 : Blake3) (reg : Registry) (events : Set Event)
    (hnamed : NamedByContent c blake3 events) (moves : List Move) (hadmits : ∀ move ∈ moves, Admits events move) :
    ((∀ before, before <+: moves → (before.foldl (step reg c blake3) {}).Tracked) ↔
        MeetsAlong (step reg c blake3) (Careful reg) {} moves) ∧
      (MeetsAlong (step reg c blake3) (Careful reg) {} moves → ∀ before, before <+: moves → ∀ name id,
        (before.foldl (step reg c blake3) {}).dispatcher.effects.count (name, id) ≤ 1) := by
  let w : Wiring := ⟨c, blake3, reg, events, hnamed⟩
  have hcareful : MeetsAlong (step reg c blake3) (fun s move => (s.step reg c blake3 move).Tracked) {} moves ↔
      MeetsAlong (step reg c blake3) (Careful reg) {} moves := by
    refine meetsAlong_iff_of_inputs (I := fun s => s.Sane w ∧ s.Sound) tracked_initial
      ⟨sane_initial, sound_initial⟩ (fun s move htracked hinv hmove => ?_) (fun s move htracked hinv _ => ?_) hadmits
    · exact ⟨hinv.1.step hmove, (sound_and_tracked_step_iff hinv.1 hinv.2 htracked).1⟩
    · exact (sound_and_tracked_step_iff hinv.1 hinv.2 htracked).2
  have hmoments : (∀ before, before <+: moves → (before.foldl (step reg c blake3) {}).Tracked) ↔ Tracked {} ∧
      MeetsAlong (step reg c blake3) (fun s move => (s.step reg c blake3 move).Tracked) {} moves := forall_moment_iff
  refine ⟨hmoments.trans ((and_iff_right tracked_initial).trans hcareful), fun h before hbefore name id => ?_⟩
  have htracked := hmoments.mpr ⟨tracked_initial, hcareful.mpr h⟩ before hbefore
  exact List.nodup_iff_count_le_one.mp htracked.once _

end Calls

end

section Sample

open Dispatcher Calls

theorem sample_runs_admit : Phase.Runs sampleEnv sampleRegistry sampleCrypto (fun _ => [])
    (some (.admitting sampleEvent)) {}
    (admitEvent sampleEnv sampleRegistry sampleCrypto (fun _ => []) sampleEvent {}).2 :=
  Phase.runs_admit (fun _ => rfl) {}

def sampleDeferred : Dispatcher :=
  let env := { sampleEnv with dag := { sampleDAG sampleEvent with isAncestor := fun _ _ => .ok true } }
  (admitEvent env sampleRegistryTwo sampleCrypto (fun _ => []) sampleEvent {}).2

/-- The prerequisite is projected, and the deferred record's two consumers are applied. -/
theorem sample_runs_notifyProjection :
    Phase.Runs projectedEnv sampleRegistryTwo sampleCrypto (fun _ => []) (some (.notifying "p")) sampleDeferred
      (notifyProjection projectedEnv sampleRegistryTwo "p" sampleDeferred).2 ∧
    sampleDeferred.deferralIndex "p" = ["dispatch:"] ∧ sampleDeferred.effects = [] ∧
    (notifyProjection projectedEnv sampleRegistryTwo "p" sampleDeferred).2.effects =
      [("reputation", "e1"), ("settlement", "e1")] :=
  ⟨Phase.runs_notifyProjection (fun _ => rfl) "p"
  sampleDeferred, by decide +kernel, by decide +kernel, by decide +kernel⟩

/-- Two goroutines admit the same event, and take turns. -/
def twoAdmits : List Move :=
  [.admitEvent 0 sampleEvent, .admitEvent 1 sampleEvent] ++ (List.replicate 5
  [Move.proceed 0 sampleEnv, .proceed 1 sampleEnv]).flatten

/-- Both find no record, both reserve, and both apply the consumer. -/
theorem two_admits_apply_twice :
    (twoAdmits.foldl (Calls.step sampleRegistry sampleCrypto (fun _ => [])) {}).dispatcher.effects =
      [("settlement", "e1"), ("settlement", "e1")] := by
  decide +kernel

/-- Two goroutines admit the same event while a third one goes through the deferred admissions. The second one comes to
    read the store when the first has written what it applied. -/
def servedAdmits : List Move :=
  [.admitEvent 0 sampleEvent, .admitEvent 1 sampleEvent, .proceed 0 sampleEnv, .notifyProjection 2 "p"] ++
    List.replicate 4 (.proceed 0 sampleEnv) ++ [.proceed 2 sampleEnv, .proceed 0 sampleEnv, .proceed 0 sampleEnv,
      .proceed 1 sampleEnv]

theorem tracked_of_holds {s : Calls} (honce : s.dispatcher.effects.Nodup) (hholds : ∀ x ∈ s.dispatcher.effects,
    (∃ record ∈ s.dispatcher.store.lookup "dispatch:", record.eventID = x.2 ∧ record.consumers.lookup x.1 =
      some .applied) ∨
      ∃ copy ∈ (s.phases 0).bind Phase.copy, copy.2.eventID = x.2 ∧ copy.2.consumers.lookup x.1 = some .applied) :
    s.Tracked := by
  refine ⟨honce, fun x hx => ?_⟩
  obtain ⟨record, hstored, hrecord⟩ | ⟨copy, hcopy, hrecord⟩ := hholds x hx
  · exact .inl ⟨_, record, hstored, hrecord⟩
  · obtain ⟨phase, hphase, hcopy⟩ := Option.bind_eq_some_iff.mp hcopy
    exact .inr ⟨0, phase, hphase, copy.1, copy.2, hcopy, hrecord⟩

theorem admits_careful_iff_served :
    (MeetsAlong (Calls.step sampleRegistry sampleCrypto (fun _ => [])) (Careful sampleRegistry) {} servedAdmits ∧
      (servedAdmits.foldl (Calls.step sampleRegistry sampleCrypto (fun _ => [])) {}).dispatcher.effects =
        [("settlement", "e1")]) ∧
    ¬MeetsAlong (Calls.step sampleRegistry sampleCrypto (fun _ => [])) (Careful sampleRegistry) {} twoAdmits := by
  have hnamed : NamedByContent sampleCrypto (fun _ => []) {sampleEvent} := by
    rintro ev rfl ev' rfl key hkey
    exact iff_of_true rfl hkey
  refine ⟨⟨?_, by decide +kernel⟩, fun hcareful => ?_⟩
  · have hadmits : ∀ move ∈ servedAdmits, Admits {sampleEvent} move := by
      simp [servedAdmits, Admits]
    refine (tracked_along_iff sampleCrypto (fun _ => []) sampleRegistry {sampleEvent} hnamed _ hadmits).1.mp ?_
    intro before hbefore
    replace hbefore := (List.mem_inits _ _).mpr hbefore
    refine tracked_of_holds ?_ ?_
    all_goals
      revert before
      decide +kernel
  · have hadmits : ∀ move ∈ twoAdmits, Admits {sampleEvent} move := by
      simp [twoAdmits, Admits]
    have honce := (tracked_along_iff sampleCrypto (fun _ => []) sampleRegistry {sampleEvent} hnamed _
      hadmits).2 hcareful
      twoAdmits List.prefix_rfl "settlement" "e1"
    have htwice : (twoAdmits.foldl (Calls.step sampleRegistry sampleCrypto (fun _ => [])) {}).dispatcher.effects.count
        ("settlement", "e1") = 2 := by
      decide +kernel
    omega

end Sample

end aethernet.dispatch
