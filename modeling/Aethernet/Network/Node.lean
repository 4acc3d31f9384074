import Aethernet.Dag.Invariant

open golang aethernet event dag

namespace aethernet.network

variable {S S' : Type}

/-- A `Node`: its DAG and the state its sync handler works on. Connections and the header pipeline are left out. -/
structure Node (S : Type) where
  dag : DAG
  rep : dag.Rep
  state : S

/-- An event of a message, with what the event store answers, should it be asked. -/
structure Incoming where
  event : Event
  putEventErr : Option Error := none

variable (c : Crypto) (syncHandler : Event → S → S)

namespace Node

/-- `n.dag.Add(e)`, and the sync handler on an event that is new. -/
def add (e : Incoming) (n : Node S) : Except Error Unit × Node S :=
  ((n.dag.add c e.putEventErr e.event).1,
    { dag := (n.dag.add c e.putEventErr e.event).2
      rep := n.rep.add c e.putEventErr e.event
      state := match (n.dag.add c e.putEventErr e.event).1 with
        | .ok () => syncHandler e.event n.state
        | .error _ => n.state })

/-- The `MsgEvent` case of `handleMessage`. -/
def msgEvent (e : Incoming) (n : Node S) : Node S :=
  if !crypto.verifyEvent c e.event then n else (n.add c syncHandler e).2

/-- One pass over the pending events of a batch: those still pending, and whether one was added. -/
def insertPass (c : Crypto) (syncHandler : Event → S → S) :
    List Incoming → Node S → (List Incoming × Bool) × Node S
  | [], n => (([], false), n)
  | e :: rest, n =>
    let (stillPending, n') := insertPass c syncHandler rest (n.add c syncHandler e).2
    match (n.add c syncHandler e).1 with
    | .ok () => ((stillPending.1, true), n')
    | .error err =>
      ((if err.is errMissingCausalRef then e :: stillPending.1 else stillPending.1, stillPending.2), n')

theorem insertPass_length (pending : List Incoming) (n : Node S) : (insertPass c syncHandler pending n).1.1.length +
      (insertPass c syncHandler pending n).1.2.toNat ≤ pending.length := by
  induction pending generalizing n with
  | nil => rfl
  | cons e rest ih =>
    have hrest := ih (n.add c syncHandler e).2
    simp only [insertPass, List.length_cons]
    split
    · simp only [Bool.toNat_true]
      omega
    · dsimp only
      split
      · rw [List.length_cons]
        omega
      · omega

/-- The loop over the passes, which ends with the first that adds nothing. -/
def insertAll (c : Crypto) (syncHandler : Event → S → S) (pending : List Incoming) (n : Node S) : Node S :=
  if pending = [] then n
  else if (insertPass c syncHandler pending n).1.2 then
    insertAll c syncHandler (insertPass c syncHandler pending n).1.1 (insertPass c syncHandler pending n).2
  else (insertPass c syncHandler pending n).2
termination_by pending.length
decreasing_by
  rename_i hprogress
  have hlength := insertPass_length c syncHandler pending n
  rw [hprogress, Bool.toNat_true] at hlength
  omega

/-- The `MsgSyncBatch` case of `handleMessage`, on the batch as `sort.Slice` leaves it, which looks at nothing but
    the timestamps. -/
def msgSyncBatch (batch : List Incoming) (n : Node S) : Node S :=
  insertAll c syncHandler (batch.filter fun e => crypto.verifyEvent c e.event) n

end Node

end aethernet.network

namespace aethernet.event

def Event.SameContent (e e' : Event) : Prop := e' = { e with settlementState := e'.settlementState }

theorem Event.SameContent.refl (e : Event) : e.SameContent e := rfl

namespace Event.SameContent

variable {e e' : Event}

variable (h : e.SameContent e')

include h

theorem id_eq : e'.id = e.id := by rw [h]

theorem type_eq : e'.type = e.type := by rw [h]

theorem refs_eq : e'.refs = e.refs := by rw [h]; rfl

theorem signature_eq : e'.signature = e.signature := by rw [h]

theorem transferPayload_eq : e'.transferPayload = e.transferPayload := by rw [h]; rfl

theorem verifyEvent_eq (c : Crypto) : crypto.verifyEvent c e' = crypto.verifyEvent c e := by
  rw [h]; rfl

end Event.SameContent

end aethernet.event

namespace aethernet.dag.DAG

def Alike (d d' : DAG) : Prop := ∀ id, Option.Rel Event.SameContent (d.events.lookup id) (d'.events.lookup id)

namespace Alike

variable {d d' : DAG} {e e' : Event}

theorem refl (d : DAG) : d.Alike d := by
  intro id
  cases d.events.lookup id with
  | none => exact .none
  | some e => exact .some (.refl e)

theorem lookup_cases (h : d.Alike d') (id : EventID) :
    (d.events.lookup id = none ∧ d'.events.lookup id = none) ∨
    ∃ e e', e.SameContent e' ∧ d.events.lookup id = some e ∧ d'.events.lookup id = some e' := by
  have hrel := h id
  generalize d.events.lookup id = found at hrel
  generalize d'.events.lookup id = found' at hrel
  cases hrel with
  | none => exact .inl ⟨rfl, rfl⟩
  | some hsame => exact .inr ⟨_, _, hsame, rfl, rfl⟩

theorem mem_iff (h : d.Alike d') (id : EventID) : id ∈ d'.events ↔ id ∈ d.events := by
  obtain ⟨hnone, hnone'⟩ | ⟨e, e', -, hsome, hsome'⟩ := h.lookup_cases id
  · exact iff_of_false (Finmap.lookup_eq_none.mp hnone') (Finmap.lookup_eq_none.mp hnone)
  · exact iff_of_true (Finmap.mem_of_lookup_eq_some hsome') (Finmap.mem_of_lookup_eq_some hsome)

theorem insert (h : d.Alike d') (hsame : e.SameContent e') (id : EventID) :
    Option.Rel Event.SameContent ((d.events.insert e.id e).lookup id) ((d'.events.insert e'.id e').lookup id) := by
  rw [hsame.id_eq, Finmap.lookup_insert_eq, Finmap.lookup_insert_eq]
  split_ifs
  · exact .some hsame
  · exact h id

theorem add (h : d.Alike d') (hsame : e.SameContent e') (c : Crypto) (putEventErr : Option Error) :
    (d'.add c putEventErr e').1 = (d.add c putEventErr e).1 ∧
      (d.add c putEventErr e).2.Alike (d'.add c putEventErr e').2 := by
  have hcommit : ((d.commit e).putEvent putEventErr e).Alike ((d'.commit e').putEvent putEventErr e') := by
    intro id
    rw [putEvent_events, putEvent_events, commit_events, commit_events]
    exact h.insert hsame id
  unfold DAG.add
  simp only [hsame.id_eq, hsame.refs_eq, hsame.signature_eq, hsame.verifyEvent_eq, h.mem_iff]
  split
  · exact ⟨rfl, h⟩
  · split
    · exact ⟨rfl, h⟩
    · split
      · exact ⟨rfl, h⟩
      · split
        · exact ⟨rfl, h⟩
        · exact ⟨rfl, hcommit⟩

end Alike

end aethernet.dag.DAG

namespace aethernet.network

/-- Two messages carry the same event up to its settlement state. -/
structure Incoming.SameContent (e e' : Incoming) : Prop where
  event : e.event.SameContent e'.event
  putEventErr : e'.putEventErr = e.putEventErr

namespace Node

variable {S S' : Type}

/-- The nodes' DAGs hold events of the same content, and their states are related. -/
structure Alike (R : S → S' → Prop) (n : Node S) (n' : Node S') : Prop where
  dag : n.dag.Alike n'.dag
  state : R n.state n'.state

variable {R : S → S' → Prop} {sh : Event → S → S} {sh' : Event → S' → S'} {n : Node S} {n' : Node S'}

section Handler

variable (hsh : ∀ e e' s s', e.SameContent e' → R s s' → R (sh e s) (sh' e' s')) {pending pending' : List Incoming}
include hsh

theorem Alike.add (h : Alike R n n') {e e' : Incoming} (hsame : e.SameContent e') (c : Crypto) :
    (n'.add c sh' e').1 = (n.add c sh e).1 ∧ Alike R (n.add c sh e).2 (n'.add c sh' e').2 := by
  obtain ⟨hresult, hdag⟩ := h.dag.add hsame.event c e.putEventErr
  refine ⟨by simpa only [Node.add, hsame.putEventErr] using hresult,
    by simpa only [Node.add, hsame.putEventErr] using hdag, ?_⟩
  simp only [Node.add, hsame.putEventErr] at hresult ⊢
  rw [hresult]
  cases (n.dag.add c e.putEventErr e.event).1 with
  | ok _ => exact hsh _ _ _ _ hsame.event h.state
  | error err => exact h.state

theorem Alike.msgEvent (h : Alike R n n') {e e' : Incoming} (hsame : e.SameContent e') (c : Crypto) :
    Alike R (n.msgEvent c sh e) (n'.msgEvent c sh' e') := by
  unfold Node.msgEvent
  rw [hsame.event.verifyEvent_eq]
  split
  · exact h
  · exact (h.add hsh hsame c).2

theorem Alike.insertPass (h : Alike R n n') (hsame : List.Forall₂ Incoming.SameContent pending pending') (c : Crypto) :
    let pass := n.insertPass c sh pending
    let pass' := n'.insertPass c sh' pending'
    List.Forall₂ Incoming.SameContent pass.1.1 pass'.1.1 ∧ pass'.1.2 = pass.1.2 ∧ Alike R pass.2 pass'.2 := by
  induction hsame generalizing n n' with
  | nil => exact ⟨.nil, rfl, h⟩
  | cons hevent _ ih =>
    obtain ⟨hresult, hadded⟩ := h.add hsh hevent c
    obtain ⟨hpending, hprogress, hnode⟩ := ih hadded
    simp only [Node.insertPass, hresult]
    split
    · exact ⟨hpending, rfl, hnode⟩
    · refine ⟨?_, hprogress, hnode⟩
      split
      · exact .cons hevent hpending
      · exact hpending

theorem Alike.insertAll (h : Alike R n n') (hsame : List.Forall₂ Incoming.SameContent pending pending') (c : Crypto) :
    Alike R (n.insertAll c sh pending) (n'.insertAll c sh' pending') := by
  fun_induction Node.insertAll c sh pending n generalizing n' pending' with
  | case1 n =>
    cases hsame
    rw [Node.insertAll.eq_def c sh' [] n', if_pos rfl]
    exact h
  | case2 pending n hne hprogress ih =>
    obtain ⟨hpending, hprogress', hnode⟩ := h.insertPass hsh hsame c
    have hne' : pending' ≠ [] := fun hnil => hne (List.forall₂_nil_right_iff.mp (hnil ▸ hsame))
    rw [Node.insertAll.eq_def c sh' pending' n', if_neg hne']
    simp only [hprogress'.trans hprogress]
    exact ih hnode hpending
  | case3 pending n hne hprogress =>
    obtain ⟨-, hprogress', hnode⟩ := h.insertPass hsh hsame c
    have hne' : pending' ≠ [] := fun hnil => hne (List.forall₂_nil_right_iff.mp (hnil ▸ hsame))
    rw [Node.insertAll.eq_def c sh' pending' n', if_neg hne']
    simp only [hprogress'.trans (Bool.eq_false_of_not_eq_true hprogress)]
    exact hnode

theorem Alike.msgSyncBatch (h : Alike R n n') {batch batch' : List Incoming}
    (hsame : List.Forall₂ Incoming.SameContent batch batch') (c : Crypto) :
    Alike R (n.msgSyncBatch c sh batch) (n'.msgSyncBatch c sh' batch') := by
  refine h.insertAll hsh ?_ c
  refine List.rel_filter ?_ hsame
  intro e e' hevent
  simp [hevent.event.verifyEvent_eq]

end Handler

end Node

end aethernet.network
