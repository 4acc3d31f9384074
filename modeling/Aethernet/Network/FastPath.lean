import Aethernet.Dag.Reload
import Aethernet.Network.Ingest
import Aethernet.Transition.Invariant

open golang aethernet event dag Finmap transition

namespace aethernet.network

def errValidationNoBody : Error := .new "validation: body not available"
def errValidationIDMismatch : Error := .new "validation: reconstructed EventID does not match header"
def errValidationBadSignature : Error := .new "validation: signature verification failed"

def reconstructEvent (c : Crypto) (t : EventTracking) : Except Error Event :=
  match t.bodyAvailable, t.body with
  | false, _ | _, .absent => .error errValidationNoBody
  | true, body =>
    let e : Event := {
      id := t.header.eventID
      type := t.header.type
      causalRefs := t.header.causalRefs
      payload := body
      agentID := t.header.agentID
      causalTimestamp := t.header.causalTimestamp
      stakeAmount := t.header.stakeAmount
      signature := t.header.signature
      settlementState := .optimistic }
    match computeID c e with
    | .error err => .error (.wrap "validation: compute ID: " err "")
    | .ok computedID =>
      if computedID ≠ t.header.eventID then
        .error (.wrap "" errValidationIDMismatch s!": header={t.header.eventID} computed={computedID}")
      else .ok e

def validateEvent (c : Crypto) (validateTrajectoryCommit : Event → Except Error Unit) (e : Event) :
    Except Error Unit :=
  if e.signature.length = 0 then .error (.wrap "" errValidationBadSignature s!": missing signature on event {e.id}")
  else if !crypto.verifyEvent c e then .error (.wrap "" errValidationBadSignature s!": event {e.id}")
  else if e.type = .trajectoryCommit then validateTrajectoryCommit e
  else .ok ()

theorem id_of_reconstructEvent {c : Crypto} {t : EventTracking} {e : Event} (h : reconstructEvent c t = .ok e) :
    e.id = t.header.eventID := by
  unfold reconstructEvent at h
  split at h
  · cases h
  · cases h
  · dsimp only at h
    split at h
    · cases h
    · split_ifs at h
      cases h
      rfl

theorem verifyEvent_of_validateEvent {c : Crypto} {validateTrajectoryCommit : Event → Except Error Unit} {e : Event}
    (h : validateEvent c validateTrajectoryCommit e = .ok ()) : crypto.verifyEvent c e = true := by
  unfold validateEvent at h
  split_ifs at h with hsig hverify <;> simpa using hverify

/-- The parts of a `Node` that its fast path works on. -/
structure FastPath where
  dag : DAG
  ingest : IngestManager := ∅

namespace FastPath

/-- What the fast path is configured with and calls; the check of trajectory commits is left open. -/
structure Env where
  crypto : Crypto
  maxTracked : ℕ
  announceTTL : ℕ
  completeTTL : ℕ
  computeBodyCommitment : RawMessage → String
  validateTrajectoryCommit : Event → Except Error Unit

/-- A message of a peer, a worker's turn for an event, or a pass of the garbage collector. -/
inductive Action where
  | msgEventHeader (order : RangeOrder EventID EventTracking) (now : ℤ) (source : String) (hdr : EventHeader)
  | msgEventBody (now : ℤ) (id : EventID) (payload : RawMessage)
  | validateEvent (now : ℤ) (id : EventID)
  | materializeEvent (now : ℤ) (putEventErr : Option Error) (id : EventID)
  | gc (order : RangeOrder EventID EventTracking) (now : ℤ)

variable (env : Env)

/-- The `MsgEventHeader` case of `handleMessage`. -/
def msgEventHeader (order : RangeOrder EventID EventTracking) (now : ℤ) (source : String) (hdr : EventHeader)
    (n : FastPath) : FastPath :=
  match n.dag.get hdr.eventID with
  | .ok _ => n
  | .error _ => { n with ingest := (n.ingest.admitHeader env.maxTracked order now source hdr).2 }

def validateEvent (now : ℤ) (id : EventID) (n : FastPath) : FastPath :=
  match n.ingest.lookup id with
  | none => n
  | some t =>
    if t.stage ≠ .completed then n
    else match reconstructEvent env.crypto t with
      | .error _ => n
      | .ok reconstructed =>
        match network.validateEvent env.crypto env.validateTrajectoryCommit reconstructed with
        | .error _ => n
        | .ok () => { n with ingest := (n.ingest.setReconstructedEvent id reconstructed).markValidated now id }

/-- `materializeEvent`, without the sync handler. -/
def materializeEvent (now : ℤ) (putEventErr : Option Error) (id : EventID) (n : FastPath) : FastPath :=
  match n.ingest.lookup id with
  | none => n
  | some t =>
    match t.reconstructed with
    | none => n
    | some ev =>
      if t.stage ≠ .validated then n
      else match n.dag.add env.crypto putEventErr ev with
        | (.ok (), dag) => { dag := dag, ingest := n.ingest.markMaterialized now id }
        | (.error err, _) =>
          let missing := IngestManager.missingParents n.dag ev
          if err.is errMissingCausalRef ∧ missing.Nonempty then
            { n with ingest := n.ingest.setMissingParents id missing }
          else { n with ingest := n.ingest.erase id }

/-- A body goes to `CompleteBody`; the blobs that come with it or are asked for afterwards are left out. -/
def step (n : FastPath) : Action → FastPath
  | .msgEventHeader order now source hdr => n.msgEventHeader env order now source hdr
  | .msgEventBody now id payload =>
    { n with ingest := n.ingest.completeBody now id env.computeBodyCommitment payload }
  | .validateEvent now id => n.validateEvent env now id
  | .materializeEvent now putEventErr id => n.materializeEvent env now putEventErr id
  | .gc order now => { n with ingest := n.ingest.gc env.announceTTL env.completeTTL order now }

/-- A run of a node that starts with a DAG and tracks nothing. -/
def run (dag : DAG) (actions : List Action) : FastPath := actions.foldl (step env) { dag := dag }

def trackedHeader (n : FastPath) (id : EventID) : Option EventHeader := (n.ingest.lookup id).map (·.header)

/-- The header that an action makes the tracked one of an ID. -/
def admits (id : EventID) (n : FastPath) : Action → Option EventHeader
  | .msgEventHeader order now source hdr =>
    if hdr.eventID = id ∧ (n.ingest.admitHeader env.maxTracked order now source hdr).1 then some hdr else none
  | _ => none

/-- An action frees the entry of an ID: a `gc` pass after its time is over, or a header that finds the map full and
    the entry the oldest one announced. -/
def frees (id : EventID) (n : FastPath) : Action → Prop
  | .msgEventHeader order _ _ hdr => hdr.eventID ∉ n.dag.events ∧ hdr.eventID ∉ n.ingest ∧
      id ∈ n.ingest ∧ id ∉ n.ingest.makeRoom env.maxTracked order
  | .gc _ now => ∃ t ∈ n.ingest.lookup id, t.isStale env.announceTTL env.completeTTL now
  | _ => False

instance frees.decidable (id : EventID) (n : FastPath) (a : Action) : Decidable (frees env id n a) := by
  cases a <;> unfold frees <;> infer_instance

section Invariant

variable {env} {n n' : FastPath} {id key : EventID} {im : IngestManager} {f : EventTracking → Option EventTracking}
  {now : ℤ} {c : Crypto}

theorem lookup_change (key : EventID) (f : EventTracking → Option EventTracking) (id : EventID) :
    (im.change key f).lookup id = (im.lookup id).map fun t => if id = key then (f t).getD t else t := by
  unfold IngestManager.change
  by_cases hid : id = key
  · subst hid
    cases hlookup : im.lookup id with
    | none => simpa using hlookup
    | some t => cases hf : f t <;> simp [hf, hlookup]
  · cases (im.lookup key).bind f with
    | none => simp [hid]
    | some t => simp [hid, lookup_insert_of_ne]

def Checked (c : Crypto) (im : IngestManager) : Prop :=
  ∀ id t, im.lookup id = some t →
    t.header.eventID = id ∧ ∀ ev, t.reconstructed = some ev → ev.id = id ∧ crypto.verifyEvent c ev = true

/-- What an operation may do to the entry of an ID: the header stays, and a new event is valid. -/
def Refines (c : Crypto) (key : EventID) (t t' : EventTracking) : Prop :=
  t'.header = t.header ∧
    ∀ ev, t'.reconstructed = some ev → t.reconstructed = some ev ∨ ev.id = key ∧ crypto.verifyEvent c ev = true

theorem refines_of_advanceTo {t t' : EventTracking} {target : EventStage} (h : t.advanceTo now target = some t') :
    Refines c key t t' := by
  unfold EventTracking.advanceTo at h
  split_ifs at h <;> cases h <;> exact ⟨rfl, fun _ hev => .inl hev⟩

/-- What the bodies and the workers can do: the headers of the events that the DAG does not hold stay. -/
structure Quiet (c : Crypto) (n n' : FastPath) : Prop where
  header : ∀ id ∉ n.dag.events, n'.trackedHeader id = n.trackedHeader id
  checked : Checked c n'.ingest
  grows : ∀ id ∈ n.dag.events, id ∈ n'.dag.events

theorem Quiet.refl (h : Checked c n.ingest) : Quiet c n n := ⟨fun _ _ => rfl, h, fun _ hid => hid⟩

theorem Quiet.change (h : Quiet c n n') (hf : ∀ t t', f t = some t' → Refines c key t t') :
    Quiet c n { n' with ingest := n'.ingest.change key f } where
  header id hid := by
    rw [← h.header id hid, trackedHeader, trackedHeader, lookup_change, Option.map_map]
    refine congrArg (Option.map · _) (funext fun t => ?_)
    dsimp only [Function.comp_apply]
    split_ifs
    · cases hnew : f t with
      | none => rfl
      | some t' => exact (hf t t' hnew).1
    · rfl
  checked id t ht := by
    rw [lookup_change] at ht
    obtain ⟨old, hold, rfl⟩ := Option.map_eq_some_iff.mp ht
    have hentry := h.checked id old hold
    split_ifs with hid
    · subst hid
      cases hnew : f old with
      | none => exact hentry
      | some t' =>
        obtain ⟨hheader, hvalid⟩ := hf old t' hnew
        exact ⟨hheader ▸ hentry.1, fun ev hev => (hvalid ev hev).elim (hentry.2 ev) fun hev => hev⟩
    · exact hentry
  grows := h.grows

theorem missing_of_add_error {d : DAG} {putEventErr : Option Error} {ev : Event} {err : Error}
    (hadd : (d.add c putEventErr ev).1 = .error err) (hnew : ev.id ∉ d.events)
    (hverify : crypto.verifyEvent c ev = true) :
    err.is errMissingCausalRef ∧ (IngestManager.missingParents d ev).Nonempty := by
  have hsig : ev.signature.length ≠ 0 := fun hnone => by simp [crypto.verifyEvent, hnone] at hverify
  rw [DAG.add, if_neg hnew] at hadd
  split at hadd
  · rename_i ref hfind
    cases hadd
    refine ⟨by simp [Error.is], ref, Finset.mem_filter.mpr ⟨?_, ?_⟩⟩
    · exact List.mem_toFinset.mpr (List.mem_of_find?_eq_some hfind)
    · simpa using List.find?_some hfind
  · simp [hsig, hverify] at hadd

variable (h : Checked env.crypto n.ingest)
include h

theorem quiet_msgEventBody (now : ℤ) (key : EventID) (payload : RawMessage) :
    Quiet env.crypto n (n.step env (.msgEventBody now key payload)) := by
  refine (Quiet.refl h).change fun t t' ht => ?_
  split_ifs at ht
  cases ht
  cases hadvance : ({ t with body := payload, bodyAvailable := true } : EventTracking).advanceTo now .completed with
  | none => exact ⟨rfl, fun _ hev => .inl hev⟩
  | some t' => exact refines_of_advanceTo (t := { t with body := payload, bodyAvailable := true }) hadvance

theorem quiet_validateEvent (now : ℤ) (key : EventID) : Quiet env.crypto n (n.validateEvent env now key) := by
  unfold FastPath.validateEvent
  split
  · exact .refl h
  · rename_i t ht
    split_ifs
    · exact .refl h
    · split
      · exact .refl h
      · rename_i e hreconstruct
        split
        · exact .refl h
        · rename_i hvalid
          have hset : ∀ old new, some { old with reconstructed := some e } = some new →
              Refines env.crypto key old new := by
            rintro old _ ⟨⟩
            refine ⟨rfl, fun ev hev => .inr ?_⟩
            obtain rfl := Option.some.inj hev
            exact ⟨(id_of_reconstructEvent hreconstruct).trans (h key t ht).1, verifyEvent_of_validateEvent hvalid⟩
          exact ((Quiet.refl h).change hset).change fun _ _ => refines_of_advanceTo

theorem quiet_materializeEvent (now : ℤ) (putEventErr : Option Error) (key : EventID) :
    Quiet env.crypto n (n.materializeEvent env now putEventErr key) := by
  unfold FastPath.materializeEvent
  split
  · exact .refl h
  · rename_i t ht
    split
    · exact .refl h
    · rename_i ev hev
      obtain ⟨hid, hverify⟩ := (h key t ht).2 ev hev
      split_ifs
      · exact .refl h
      · split
        · rename_i dag hadd
          have hgrown : Quiet env.crypto n { n with dag := dag } := by
            refine ⟨fun _ _ => rfl, h, fun id hold => mem_iff.mpr ((mem_iff.mp hold).imp fun e he => ?_)⟩
            rw [← he, ← DAG.add_lookup_of_mem env.crypto putEventErr ev hold, hadd]
          exact hgrown.change fun _ _ => refines_of_advanceTo
        · rename_i err _ hadd
          dsimp only
          split_ifs with hmissing
          · refine (Quiet.refl h).change ?_
            rintro old _ ⟨⟩
            exact ⟨rfl, fun _ hev => .inl hev⟩
          · have hheld : key ∈ n.dag.events := by
              by_contra hnew
              exact hmissing (missing_of_add_error (by rw [hadd]) (hid ▸ hnew) hverify)
            refine ⟨fun id hnew => ?_, fun id t ht => h id t ?_, fun _ hold => hold⟩
            · rw [trackedHeader, trackedHeader, lookup_erase_ne]
              rintro rfl
              exact hnew hheld
            · rw [lookup_erase_eq] at ht
              split_ifs at ht
              exact ht

theorem Checked.msgEventHeader (order : RangeOrder EventID EventTracking) (now : ℤ) (source : String)
    (hdr : EventHeader) : Checked env.crypto (n.msgEventHeader env order now source hdr).ingest := by
  have hroom : Checked env.crypto (n.ingest.makeRoom env.maxTracked order) := fun id t ht =>
    h id t (IngestManager.lookup_makeRoom (mem_of_lookup_eq_some ht) ▸ ht)
  unfold FastPath.msgEventHeader IngestManager.admitHeader
  dsimp only
  split
  · exact h
  · split_ifs
    · exact h
    · intro id t ht
      obtain ⟨rfl, rfl⟩ | ⟨-, hold⟩ := lookup_insert_cases ht
      · exact ⟨rfl, fun _ hev => by cases hev⟩
      · exact hroom id t hold
    · exact hroom

theorem Checked.step (a : Action) : Checked env.crypto (n.step env a).ingest := by
  cases a with
  | msgEventHeader order now source hdr => exact h.msgEventHeader order now source hdr
  | msgEventBody now key payload => exact (quiet_msgEventBody h now key payload).checked
  | validateEvent now key => exact (quiet_validateEvent h now key).checked
  | materializeEvent now putEventErr key => exact (quiet_materializeEvent h now putEventErr key).checked
  | gc order now => exact fun id t ht => h id t (IngestManager.lookup_gc_iff.mp ht).1

theorem mem_dag_step (a : Action) (hid : id ∈ n.dag.events) : id ∈ (n.step env a).dag.events := by
  cases a with
  | msgEventHeader order now source hdr =>
    simp only [step, msgEventHeader]
    split <;> exact hid
  | msgEventBody now key payload => exact hid
  | validateEvent now key => exact (quiet_validateEvent h now key).grows id hid
  | materializeEvent now putEventErr key => exact (quiet_materializeEvent h now putEventErr key).grows id hid
  | gc order now => exact hid

variable {hdr : EventHeader}

omit h in
theorem trackedHeader_msgEventHeader_iff {order : RangeOrder EventID EventTracking} {now : ℤ} {source : String}
    {new : EventHeader} (hnew : id ∉ n.dag.events) :
    (n.msgEventHeader env order now source new).trackedHeader id = some hdr ↔
      admits env id n (.msgEventHeader order now source new) = some hdr ∨
        n.trackedHeader id = some hdr ∧ ¬ frees env id n (.msgEventHeader order now source new) := by
  unfold FastPath.msgEventHeader DAG.get admits frees
  cases hheld : n.dag.events.lookup new.eventID with
  | some e =>
    have hne : new.eventID ≠ id := by
      rintro rfl
      exact hnew (mem_of_lookup_eq_some hheld)
    simp [hne, mem_of_lookup_eq_some hheld]
  | none =>
    have hheld := lookup_eq_none.mp hheld
    by_cases htracked : new.eventID ∈ n.ingest
    · simp [IngestManager.admitHeader, htracked, trackedHeader]
    · -- what is there after an eviction is what was there and is not evicted, so only the insertion counts
      have hkept : ((n.ingest.makeRoom env.maxTracked order).lookup id).map (·.header) = some hdr ↔
          (n.ingest.lookup id).map (·.header) = some hdr ∧
            ¬ (id ∈ n.ingest ∧ id ∉ n.ingest.makeRoom env.maxTracked order) := by
        by_cases hid : id ∈ n.ingest.makeRoom env.maxTracked order
        · simp [IngestManager.lookup_makeRoom hid, hid]
        · rw [lookup_eq_none.mpr hid]
          cases hlookup : n.ingest.lookup id with
          | none => simp
          | some t => simp [hid, mem_of_lookup_eq_some hlookup]
      simp only [IngestManager.admitHeader, htracked, hheld, if_false, not_false_eq_true, true_and, trackedHeader]
      generalize n.ingest.makeRoom env.maxTracked order = im at hkept ⊢
      by_cases hlen : im.len < env.maxTracked
      · obtain rfl | hne := eq_or_ne new.eventID id
        · simp [hlen, lookup_eq_none.mpr htracked]
        · simpa [hlen, hne, lookup_insert_of_ne _ hne.symm] using hkept
      · simpa [hlen] using hkept

/-- What one action does to the header tracked for an event outside the DAG. -/
theorem trackedHeader_step_iff {a : Action} (hnew : id ∉ (n.step env a).dag.events) :
    (n.step env a).trackedHeader id = some hdr ↔
      admits env id n a = some hdr ∨ n.trackedHeader id = some hdr ∧ ¬ frees env id n a := by
  have hunheld : id ∉ n.dag.events := fun hid => hnew (mem_dag_step h a hid)
  have hquiet : ∀ n', Quiet env.crypto n n' → (n'.trackedHeader id = some hdr ↔
      none = some hdr ∨ n.trackedHeader id = some hdr ∧ ¬ False) := fun n' hn' => by simp [hn'.header id hunheld]
  cases a with
  | msgEventHeader order now source new => exact trackedHeader_msgEventHeader_iff hunheld
  | msgEventBody now key payload => exact hquiet _ (quiet_msgEventBody h now key payload)
  | validateEvent now key => exact hquiet _ (quiet_validateEvent h now key)
  | materializeEvent now putEventErr key => exact hquiet _ (quiet_materializeEvent h now putEventErr key)
  | gc order now =>
    simp only [step, trackedHeader, admits, frees, Option.map_eq_some_iff, IngestManager.lookup_gc_iff]
    cases n.ingest.lookup id <;> simp [and_comm]

end Invariant

section Run

variable {env} {dag : DAG}

theorem run_concat (actions : List Action) (a : Action) :
    run env dag (actions ++ [a]) = (run env dag actions).step env a := List.foldl_append

theorem checked_run (actions : List Action) : Checked env.crypto (run env dag actions).ingest := by
  induction actions using List.reverseRecOn with
  | nil => exact fun _ _ ht => by simp [run] at ht
  | append_singleton actions a ih =>
    rw [run_concat]
    exact ih.step a

theorem trackedHeader_run_iff {actions : List Action} {id : EventID} (P : EventHeader → Prop)
    (hnew : id ∉ (run env dag actions).dag.events) :
    (∃ hdr ∈ (run env dag actions).trackedHeader id, P hdr) ↔
      Since (step env) (fun n a => ∃ hdr ∈ admits env id n a, P hdr) (frees env id) { dag := dag } actions := by
  induction actions using List.reverseRecOn with
  | nil => simp [run, trackedHeader, Since]
  | append_singleton actions a ih =>
    rw [run_concat] at hnew ⊢
    rw [since_concat_iff, ← ih fun hid => hnew (mem_dag_step (checked_run actions) a hid)]
    simp only [Option.mem_def, trackedHeader_step_iff (checked_run actions) hnew, or_and_right, exists_or]
    refine or_congr Iff.rfl ⟨?_, ?_⟩
    · rintro ⟨hdr, ⟨htracked, hkept⟩, hP⟩
      exact ⟨⟨hdr, htracked, hP⟩, hkept⟩
    · rintro ⟨⟨hdr, htracked, hP⟩, hkept⟩
      exact ⟨hdr, ⟨htracked, hkept⟩, hP⟩

variable (env dag) in
/-- Announced at a moment when the map has room, a header of an event outside the DAG is the tracked one exactly if
    there is no other header that was admitted for its ID and whose entry was not freed since. -/
theorem header_tracked_iff (actions : List Action) (order : RangeOrder EventID EventTracking) (now : ℤ)
    (source : String) (hdr : EventHeader) (hnew : hdr.eventID ∉ (run env dag actions).dag.events)
    (hroom : (run env dag actions).ingest.len < env.maxTracked) :
    (run env dag (actions ++ [.msgEventHeader order now source hdr])).trackedHeader hdr.eventID = some hdr ↔
      ¬ Since (step env) (fun n a => ∃ forged ∈ admits env hdr.eventID n a, forged ≠ hdr) (frees env hdr.eventID)
        { dag := dag } actions := by
  rw [← trackedHeader_run_iff (· ≠ hdr) hnew, run_concat, step, trackedHeader_msgEventHeader_iff hnew, admits, frees,
    IngestManager.makeRoom, if_pos hroom]
  cases htracked : (run env dag actions).ingest.lookup hdr.eventID with
  | some t => simp [trackedHeader, htracked, IngestManager.admitHeader, mem_of_lookup_eq_some htracked]
  | none =>
    simp [trackedHeader, htracked, IngestManager.admitHeader, IngestManager.makeRoom, lookup_eq_none.mp htracked, hroom]

end Run

section Sample

def sampleEnv : Env where
  crypto := DAG.lengthHash
  maxTracked := 2
  announceTTL := 60
  completeTTL := 30
  computeBodyCommitment payload :=
    match marshalRaw payload >>= jcs.canonicalize DAG.lengthHash.number with
    | .ok text => hexEncode (DAG.lengthHash.sha256 text)
    | .error _ => ""
  validateTrajectoryCommit _ := .ok ()

/-- A signed event under its own ID, and one with that ID and another receiver. -/
def honestEvent : Event := (transferEvent "e1" "alice" "bob" "5").signed

def forgedEvent : Event := (transferEvent "e1" "alice" "mallory" "5").signed

def announce (now : ℤ) (source : String) (ev : Event) : Action :=
  .msgEventHeader .byKey now source (headerOf sampleEnv.computeBodyCommitment ev)

/-- The header of the forged event, its body, and a turn of each worker. -/
def forgedRun : List Action :=
  [announce 1 "mallory" forgedEvent, .msgEventBody 2 "e1" forgedEvent.payload, .validateEvent 3 "e1",
    .materializeEvent 4 none "e1"]

def recoveredRun : List Action := forgedRun ++ [.gc .byKey 40, announce 41 "bob" honestEvent]

/-- The right header is tracked once the forged entry has timed out. -/
theorem header_tracked_after_recoveredRun :
    (run sampleEnv {} (recoveredRun ++ [announce 43 "alice" honestEvent])).trackedHeader "e1" =
      some (headerOf sampleEnv.computeBodyCommitment honestEvent) :=
  (header_tracked_iff sampleEnv {} _ .byKey 43 "alice" _ (by decide +kernel) (by decide +kernel)).mpr
    (by decide +kernel)

/-- A forged header keeps the right one out, also after its body came and the event was found to have another ID. -/
theorem forged_header_stays :
    crypto.verifyEvent DAG.lengthHash honestEvent = true ∧ computeID DAG.lengthHash honestEvent = .ok honestEvent.id ∧
      ((run sampleEnv {} forgedRun).ingest.lookup "e1").map (·.stage) = some .completed ∧
      (run sampleEnv {} forgedRun).ingest.len < sampleEnv.maxTracked ∧ "e1" ∉ (run sampleEnv {} forgedRun).dag.events ∧
      (run sampleEnv {} (forgedRun ++ [.gc .byKey 20, announce 21 "alice" honestEvent])).trackedHeader "e1" =
        some (headerOf sampleEnv.computeBodyCommitment forgedEvent) := by
  decide +kernel

end Sample

end FastPath

end aethernet.network
