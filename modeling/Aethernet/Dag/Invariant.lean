import Aethernet.Dag.Basic

open golang aethernet.event Finmap

namespace aethernet.dag

namespace DAG

/-- The stored event `child` refers to `parent`. -/
def Child (d : DAG) (parent child : EventID) : Prop :=
  ∃ e, d.events.lookup child = some e ∧ parent ∈ e.refs

/-- The representation invariant: events are stored under their IDs, references are stored, every event
    has a child set and these sets are the inverse of the references, the tips are the events nothing
    stored refers to, and the references close no cycle. -/
structure Rep (d : DAG) : Prop where
  keyed : ∀ id e, d.events.lookup id = some e → e.id = id
  closed : ∀ id e, d.events.lookup id = some e → ∀ ref ∈ e.refs, ref ∈ d.events
  childKeys : ∀ id, id ∈ d.children ↔ id ∈ d.events
  children : ∀ parent child, child ∈ d.children.getD parent ∅ ↔ d.Child parent child
  tips : ∀ id, id ∈ d.tips ↔ id ∈ d.events ∧ ∀ child, ¬ d.Child id child
  acyclic : graph.Acyclic d.Child

theorem Rep.empty (store : Option (Map EventID Event)) : Rep { store := store } where
  keyed id e hlookup := by simp at hlookup
  closed id e hlookup := by simp at hlookup
  childKeys id := by simp [notMem_empty]
  children parent child := by simp [getD_empty, Child]
  tips id := by simp [notMem_empty]
  acyclic x hcycle := by
    obtain ⟨y, ⟨e, hlookup, -⟩, -⟩ := Relation.TransGen.head'_iff.mp hcycle
    simp at hlookup

theorem Rep.fresh : Rep {} := .empty none

variable {d : DAG} (e : Event)

theorem Rep.id_of_get (h : d.Rep) {id : EventID} {ev : Event} (hget : d.get id = .ok ev) : ev.id = id := by
  unfold get at hget
  split at hget
  next hlookup =>
    cases hget
    exact h.keyed id ev hlookup
  · cases hget

theorem Rep.mem_of_child (h : d.Rep) {parent child : EventID} (hchild : d.Child parent child) :
    parent ∈ d.events ∧ child ∈ d.events := by
  obtain ⟨e, hlookup, href⟩ := hchild
  exact ⟨h.closed child e hlookup parent href, mem_of_lookup_eq_some hlookup⟩

theorem foldl_link (id : EventID) (refs : List EventID) (d : DAG) :
    (refs.foldl (link id) d).events = d.events ∧
    (∀ x, x ∈ (refs.foldl (link id) d).children ↔ x ∈ d.children ∨ x ∈ refs) ∧
    (∀ parent child, child ∈ (refs.foldl (link id) d).children.getD parent ∅ ↔
      child ∈ d.children.getD parent ∅ ∨ parent ∈ refs ∧ child = id) ∧
    ∀ x, x ∈ (refs.foldl (link id) d).tips ↔ x ∈ d.tips ∧ x ∉ refs := by
  induction refs generalizing d with
  | nil => simp
  | cons ref refs ih =>
    obtain ⟨hevents, hkeys, hchildren, htips⟩ := ih (d.link id ref)
    rw [List.foldl_cons]
    refine ⟨hevents, ?_, ?_, ?_⟩
    · intro x
      rw [hkeys, link, mem_insert, List.mem_cons]
      tauto
    · intro parent child
      rw [hchildren, link, List.mem_cons]
      by_cases hparent : parent = ref
      · subst hparent
        rw [getD_insert, Finset.mem_insert]
        tauto
      · rw [getD_insert_of_ne _ _ _ hparent]
        tauto
    · intro x
      rw [htips, link, Finset.mem_erase, List.mem_cons]
      tauto

theorem commit_events (d : DAG) : (d.commit e).events = d.events.insert e.id e :=
  (foldl_link e.id e.refs _).1

theorem mem_children_commit (d : DAG) (x : EventID) :
    x ∈ (d.commit e).children ↔ (x = e.id ∨ x ∈ d.children) ∨ x ∈ e.refs := by
  have hlinked := (foldl_link e.id e.refs
    { d with events := d.events.insert e.id e, children := d.children.insert e.id ∅ }).2.1 x
  rwa [mem_insert] at hlinked

theorem mem_getD_children_commit (d : DAG) (parent child : EventID) (hne : parent ≠ e.id) :
    child ∈ (d.commit e).children.getD parent ∅ ↔
      child ∈ d.children.getD parent ∅ ∨ parent ∈ e.refs ∧ child = e.id := by
  have hlinked := (foldl_link e.id e.refs
    { d with events := d.events.insert e.id e, children := d.children.insert e.id ∅ }).2.2.1 parent child
  rwa [getD_insert_of_ne _ _ _ hne] at hlinked

theorem mem_getD_children_commit_self (d : DAG) (child : EventID) :
    child ∈ (d.commit e).children.getD e.id ∅ ↔ e.id ∈ e.refs ∧ child = e.id := by
  have hlinked := (foldl_link e.id e.refs
    { d with events := d.events.insert e.id e, children := d.children.insert e.id ∅ }).2.2.1 e.id child
  rw [getD_insert] at hlinked
  simp only [Finset.notMem_empty, false_or] at hlinked
  exact hlinked

theorem mem_tips_commit (d : DAG) (x : EventID) : x ∈ (d.commit e).tips ↔ x = e.id ∨ x ∈ d.tips ∧ x ∉ e.refs := by
  have hlinked := (foldl_link e.id e.refs
    { d with events := d.events.insert e.id e, children := d.children.insert e.id ∅ }).2.2.2 x
  rw [commit, Finset.mem_insert, hlinked]

theorem child_commit {e : Event} (hnew : e.id ∉ d.events) (parent child : EventID) :
    (d.commit e).Child parent child ↔ d.Child parent child ∨ child = e.id ∧ parent ∈ e.refs := by
  unfold Child
  rw [commit_events]
  by_cases hchild : child = e.id
  · subst hchild
    rw [lookup_insert, lookup_eq_none.mpr hnew]
    simp
  · simp [hchild]

/-- Committing a new event whose references are stored keeps the invariant. -/
theorem Rep.commit {e : Event} (h : d.Rep) (hnew : e.id ∉ d.events)
    (hrefs : ∀ ref ∈ e.refs, ref ∈ d.events) : (d.commit e).Rep := by
  have hself : e.id ∉ e.refs := fun hmem => hnew (hrefs _ hmem)
  have hchildless : ∀ child, ¬ d.Child e.id child := fun child hchild => hnew (h.mem_of_child hchild).1
  constructor
  · intro id e' hlookup
    rw [commit_events, lookup_insert_eq] at hlookup
    split_ifs at hlookup with hid
    · cases hlookup
      exact hid.symm
    · exact h.keyed id e' hlookup
  · intro id e' hlookup ref href
    rw [commit_events] at hlookup ⊢
    rw [mem_insert]
    rw [lookup_insert_eq] at hlookup
    split_ifs at hlookup
    · cases hlookup
      exact .inr (hrefs ref href)
    · exact .inr (h.closed id e' hlookup ref href)
  · intro id
    rw [mem_children_commit, commit_events, mem_insert, h.childKeys]
    constructor
    · rintro (hold | href)
      · exact hold
      · exact .inr (hrefs id href)
    · exact .inl
  · intro parent child
    rw [child_commit hnew]
    by_cases hparent : parent = e.id
    · subst hparent
      rw [mem_getD_children_commit_self]
      simp [hself, hchildless]
    · rw [mem_getD_children_commit e d parent child hparent, h.children]
      tauto
  · intro id
    rw [mem_tips_commit, commit_events, mem_insert, h.tips]
    simp only [child_commit hnew]
    constructor
    · rintro (rfl | ⟨⟨hmem, hnone⟩, hnotref⟩)
      · refine ⟨.inl rfl, fun child hchild => ?_⟩
        rcases hchild with hold | ⟨-, href⟩
        · exact hchildless child hold
        · exact hself href
      · refine ⟨.inr hmem, fun child hchild => ?_⟩
        rcases hchild with hold | ⟨-, href⟩
        · exact hnone child hold
        · exact hnotref href
    · rintro ⟨rfl | hmem, hnone⟩
      · exact .inl rfl
      · exact .inr ⟨⟨hmem, fun child hchild => hnone child (.inl hchild)⟩,
          fun href => hnone e.id (.inr ⟨rfl, href⟩)⟩
  · refine h.acyclic.add_sink (n := e.id) (fun x y hedge => ?_) (fun y hedge => ?_)
    · rcases (child_commit hnew x y).mp hedge with hold | ⟨rfl, -⟩
      · exact .inl hold
      · exact .inr rfl
    · rcases (child_commit hnew e.id y).mp hedge with hold | ⟨-, href⟩
      · exact hchildless y hold
      · exact hself href

theorem putEvent_events (putEventErr : Option Error) (e : Event) (d : DAG) :
    (d.putEvent putEventErr e).events = d.events := by
  cases putEventErr <;> rfl

theorem Rep.putEvent (h : d.Rep) (putEventErr : Option Error) (e : Event) : (d.putEvent putEventErr e).Rep := by
  cases putEventErr with
  | none => exact ⟨h.keyed, h.closed, h.childKeys, h.children, h.tips, h.acyclic⟩
  | some _ => exact h

theorem add_lookup_of_mem (c : Crypto) (putEventErr : Option Error) (e : Event) {id : EventID}
    (hid : id ∈ d.events) : (d.add c putEventErr e).2.events.lookup id = d.events.lookup id := by
  obtain ⟨-, -, hsame⟩ | ⟨-, haccepts, hcommit⟩ := add_cases c putEventErr e d
  · rw [hsame]
  · have hne : id ≠ e.id := by
      rintro rfl
      exact haccepts.1 hid
    rw [hcommit, putEvent_events, commit_events, lookup_insert_of_ne _ hne]

theorem Rep.add (h : d.Rep) (c : Crypto) (putEventErr : Option Error) (e : Event) : (d.add c putEventErr e).2.Rep := by
  obtain ⟨-, -, hsame⟩ | ⟨-, haccepts, hcommit⟩ := add_cases c putEventErr e d
  · rw [hsame]
    exact h
  · rw [hcommit]
    exact (h.commit haccepts.1 haccepts.2.1).putEvent putEventErr e

theorem Rep.addAll (h : d.Rep) (c : Crypto) (calls : List (Option Error × Event)) : (d.addAll c calls).Rep := by
  induction calls generalizing d with
  | nil => exact h
  | cons call calls ih => exact ih (h.add c call.1 call.2)

/-- Any sequence of `Add` calls on an empty DAG, with any events and any store, ends in a DAG that
    meets the representation invariant, and a further call that returns an error changes nothing. -/
theorem rep_addAll_and_error_unchanged (c : Crypto) (store : Option (Map EventID Event))
    (calls : List (Option Error × Event)) :
    (addAll c { store := store } calls).Rep ∧
    ∀ putEventErr e, (∃ err, ((addAll c { store := store } calls).add c putEventErr e).1 = .error err) →
      ((addAll c { store := store } calls).add c putEventErr e).2 = addAll c { store := store } calls := by
  refine ⟨(Rep.empty store).addAll c calls, ?_⟩
  rintro putEventErr e ⟨err, herr⟩
  obtain ⟨-, -, hsame⟩ | ⟨hok, -, -⟩ := add_cases c putEventErr e (addAll c { store := store } calls)
  · exact hsame
  · rw [hok] at herr
    cases herr

end DAG

end aethernet.dag
