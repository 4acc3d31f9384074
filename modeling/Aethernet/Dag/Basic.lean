import Aethernet.Event.Canonical
import Aethernet.Graph.Kahn

open golang aethernet.event

namespace aethernet.dag

def errEventNotFound : Error := .new "event not found"
def errDuplicateEvent : Error := .new "duplicate event"
def errMissingCausalRef : Error := .new "causal reference not in DAG"
def errInvalidSignature : Error := .new "dag: invalid event signature"
def errMissingSignature : Error := .new "dag: event has no signature"

/-- `DAG`: the events by ID, the IDs of the events that refer to each one, the frontier, and what an
    attached store has been given. The mutex and the commit hook are left out. -/
structure DAG where
  events : Map EventID Event := ∅
  children : Map EventID (Finset EventID) := ∅
  tips : Finset EventID := ∅
  store : Option (Map EventID Event) := none

namespace DAG

def link (id : EventID) (d : DAG) (ref : EventID) : DAG :=
  { d with
    children := d.children.insert ref (insert id (d.children.getD ref ∅))
    tips := d.tips.erase ref }

/-- The commit phase `Add` and `addFromStore` share. -/
def commit (e : Event) (d : DAG) : DAG :=
  let stored := { d with events := d.events.insert e.id e, children := d.children.insert e.id ∅ }
  let linked := e.refs.foldl (link e.id) stored
  { linked with tips := insert e.id linked.tips }

/-- `d.store.PutEvent(e)`; a failure is only logged. -/
def putEvent (putEventErr : Option Error) (e : Event) (d : DAG) : DAG :=
  match putEventErr with
  | some _ => d
  | none => { d with store := d.store.map fun s => s.insert e.id e }

/-- `Add`. `putEventErr` is what the store answers, should it be asked. -/
def add (c : Crypto) (putEventErr : Option Error) (e : Event) (d : DAG) : Except Error Unit × DAG :=
  if e.id ∈ d.events then
    (.error (.wrap "dag: " errDuplicateEvent s!": {e.id}"), d)
  else match e.refs.find? fun ref => ref ∉ d.events with
    | some ref => (.error (.wrap "dag: " errMissingCausalRef s!": {ref} (referenced by {e.id})"), d)
    | none =>
      if e.signature.length = 0 then
        (.error (.wrap "" errMissingSignature s!": {e.id}"), d)
      else if !crypto.verifyEvent c e then
        (.error (.wrap "" errInvalidSignature s!": {e.id}"), d)
      else (.ok (), (d.commit e).putEvent putEventErr e)

/-- `addFromStore`, which checks the ID and lets an event without signature pass. An event with a
    missing reference is skipped. -/
def addFromStore (c : Crypto) (e : Event) (d : DAG) : Except Error Unit × DAG :=
  if e.id ∈ d.events then (.ok (), d)
  else match computeID c e with
    | .error err =>
      (.error (.wrap s!"dag: replay: failed to recompute EventID for {e.id}: " err ""), d)
    | .ok recomputed =>
      if recomputed ≠ e.id then
        (.error (.new (s!"dag: replay: EventID mismatch for {e.id}: stored={e.id} computed={recomputed}"
          ++ " — possible store corruption")), d)
      else if 0 < e.signature.length ∧ !crypto.verifyEvent c e then
        (.error (.wrap "" errInvalidSignature s!": {e.id} (detected during store replay)"), d)
      else match e.refs.find? fun ref => ref ∉ d.events with
        | some _ => (.ok (), d)
        | none => (.ok (), d.commit e)

def get (id : EventID) (d : DAG) : Except Error Event :=
  match d.events.lookup id with
  | some e => .ok e
  | none => .error (.wrap "dag: " errEventNotFound s!": {id}")

def topoSort (events : List Event) : List Event × List Event :=
  graph.topoSort Event.id Event.refs events

/-- The replay loop of `LoadFromStore`. -/
def replay (c : Crypto) : List Event → DAG → Except Error DAG
  | [], d => .ok d
  | e :: rest, d =>
    match d.addFromStore c e with
    | (.error err, _) => .error (.wrap s!"dag: replay event {e.id}: " err "")
    | (.ok (), d') => replay c rest d'

/-- `LoadFromStore` on a store that holds `s` and answers `AllEvents` with `allEvents`. -/
def loadFromStore (c : Crypto) (s : Map EventID Event) (allEvents : Except Error (List Event)) :
    Except Error DAG :=
  match allEvents with
  | .error err => .error (.wrap "dag: load from store: " err "")
  | .ok events => replay c (topoSort events).1 { store := some s }

/-- A sequence of `Add` calls, each with the store's answer; errors are dropped. -/
def addAll (c : Crypto) (d : DAG) (calls : List (Option Error × Event)) : DAG :=
  calls.foldl (fun d call => (d.add c call.1 call.2).2) d

/-- The checks of `Add` in the state before the call. -/
def Accepts (c : Crypto) (d : DAG) (e : Event) : Prop :=
  e.id ∉ d.events ∧ (∀ ref ∈ e.refs, ref ∈ d.events) ∧ crypto.verifyEvent c e = true

theorem find?_missing_eq_none {d : DAG} {refs : List EventID} :
    refs.find? (fun ref => ref ∉ d.events) = none ↔ ∀ ref ∈ refs, ref ∈ d.events := by
  simp [List.find?_eq_none]

theorem add_cases (c : Crypto) (putEventErr : Option Error) (e : Event) (d : DAG) :
    ((∃ err, (d.add c putEventErr e).1 = .error err) ∧ ¬ d.Accepts c e ∧ (d.add c putEventErr e).2 = d) ∨
    ((d.add c putEventErr e).1 = .ok () ∧ d.Accepts c e ∧
      (d.add c putEventErr e).2 = (d.commit e).putEvent putEventErr e) := by
  unfold add
  by_cases hdup : e.id ∈ d.events
  · rw [if_pos hdup]
    exact .inl ⟨⟨_, rfl⟩, fun h => h.1 hdup, rfl⟩
  · rw [if_neg hdup]
    cases hfind : e.refs.find? fun ref => ref ∉ d.events with
    | some ref =>
      refine .inl ⟨⟨_, rfl⟩, fun h => ?_, rfl⟩
      rw [find?_missing_eq_none.mpr h.2.1] at hfind
      cases hfind
    | none =>
      have hrefs := find?_missing_eq_none.mp hfind
      by_cases hsig : e.signature.length = 0
      · simp only [if_pos hsig]
        refine .inl ⟨⟨_, rfl⟩, fun h => ?_, trivial⟩
        have := h.2.2
        rw [crypto.verifyEvent, if_pos hsig] at this
        cases this
      · cases hverify : crypto.verifyEvent c e with
        | false =>
          simp only [if_neg hsig, Bool.not_false, if_true]
          exact .inl ⟨⟨_, rfl⟩, fun h => by simp [h.2.2] at hverify, trivial⟩
        | true =>
          simp only [if_neg hsig, Bool.not_true, Bool.false_eq_true, if_false]
          exact .inr ⟨trivial, ⟨hdup, hrefs, hverify⟩, trivial⟩

end DAG

end aethernet.dag
