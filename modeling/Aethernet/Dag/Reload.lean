import Aethernet.Dag.Invariant
import Aethernet.Graph.KahnSort
import Aethernet.Transition.Invariant

open golang aethernet.event Finmap

namespace aethernet.dag

variable {d : DAG} {c : Crypto}

namespace DAG

/-- Every stored event goes by the hash of its content. -/
def ContentAddressed (c : Crypto) (d : DAG) : Prop :=
  ∀ id e, d.events.lookup id = some e → computeID c e = .ok e.id

/-- The answer of `AllEvents`: every event the store holds, once, in any order. -/
def Lists (s : Map EventID Event) (events : List Event) : Prop :=
  events.Nodup ∧ ∀ e, e ∈ events ↔ ∃ id, s.lookup id = some e

/-- The two DAGs have the same events, child relation and tips. -/
def SameGraph (d d' : DAG) : Prop :=
  d'.events = d.events ∧ d'.children = d.children ∧ d'.tips = d.tips

/-- Reloading what the store holds gives the same graph, in whatever order the store lists it. -/
def Reloads (c : Crypto) (d : DAG) : Prop :=
  ∃ s, d.store = some s ∧
    ∀ events, Lists s events → ∃ d', loadFromStore c s (.ok events) = .ok d' ∧ SameGraph d d'

theorem Rep.sameGraph {d' : DAG} (h : d.Rep) (h' : d'.Rep) (hevents : d'.events = d.events) : SameGraph d d' := by
  have hchild : ∀ parent child, d'.Child parent child ↔ d.Child parent child := by
    intro parent child
    rw [Child, Child, hevents]
  refine ⟨hevents, ext_lookup fun parent => ?_, Finset.ext fun id => ?_⟩
  · have hkeys : parent ∈ d'.children ↔ parent ∈ d.children := by
      rw [h'.childKeys, h.childKeys, hevents]
    have hsets : d'.children.getD parent ∅ = d.children.getD parent ∅ := by
      ext child
      rw [h'.children, h.children, hchild]
    by_cases hmem : parent ∈ d.children
    · obtain ⟨set, hset⟩ := mem_iff.mp hmem
      obtain ⟨set', hset'⟩ := mem_iff.mp (hkeys.mpr hmem)
      simp only [getD, hset, hset', Option.getD_some] at hsets
      rw [hset, hset', hsets]
    · rw [lookup_eq_none.mpr hmem, lookup_eq_none.mpr (fun h => hmem (hkeys.mp h))]
  · rw [h'.tips, h.tips, hevents]
    simp [hchild]

/-- The DAG holds exactly the listed events. -/
structure Holds (d : DAG) (events : List Event) : Prop where
  rep : d.Rep
  lookup : ∀ id e, d.events.lookup id = some e ↔ e ∈ events ∧ e.id = id

variable {events : List Event} {e : Event}

theorem Holds.mem_iff (h : d.Holds events) (id : EventID) : id ∈ d.events ↔ id ∈ events.map Event.id := by
  rw [Finmap.mem_iff, List.mem_map]
  exact exists_congr fun e => h.lookup id e

theorem Holds.commit (h : d.Holds events) (hnew : e.id ∉ events.map Event.id)
    (hrefs : ∀ ref ∈ e.refs, ref ∈ events.map Event.id) : (d.commit e).Holds (events ++ [e]) := by
  refine ⟨h.rep.commit (fun hmem => hnew ((h.mem_iff _).mp hmem)) fun ref href =>
    (h.mem_iff ref).mpr (hrefs ref href), ?_⟩
  intro id e'
  rw [commit_events, lookup_insert_eq, List.mem_append, List.mem_singleton]
  by_cases hid : id = e.id
  · rw [if_pos hid]
    constructor
    · intro heq
      cases heq
      exact ⟨.inr rfl, hid.symm⟩
    · rintro ⟨hold | rfl, hkey⟩
      · exact absurd (List.mem_map.mpr ⟨e', hold, hkey.trans hid⟩) hnew
      · rfl
  · rw [if_neg hid, h.lookup]
    constructor
    · exact fun hold => ⟨.inl hold.1, hold.2⟩
    · rintro ⟨hold | rfl, hkey⟩
      · exact ⟨hold, hkey⟩
      · exact absurd hkey.symm hid

theorem addFromStore_eq_commit (hnew : e.id ∉ d.events) (hid : computeID c e = .ok e.id)
    (hsigned : crypto.verifyEvent c e = true) (hrefs : ∀ ref ∈ e.refs, ref ∈ d.events) :
    d.addFromStore c e = (.ok (), d.commit e) := by
  unfold addFromStore
  rw [if_neg hnew, hid]
  simp only [ne_eq, not_true_eq_false, if_false, hsigned, Bool.not_true, Bool.false_eq_true, and_false,
    find?_missing_eq_none.mpr hrefs]

theorem addFromStore_eq_skip (hid : computeID c e = .ok e.id) (hsigned : crypto.verifyEvent c e = true)
    (hrefs : ¬ ∀ ref ∈ e.refs, ref ∈ d.events) : d.addFromStore c e = (.ok (), d) := by
  unfold addFromStore
  by_cases hmem : e.id ∈ d.events
  · rw [if_pos hmem]
  · rw [← find?_missing_eq_none] at hrefs
    obtain ⟨ref, hmissing⟩ := Option.ne_none_iff_exists'.mp hrefs
    rw [if_neg hmem, hid]
    simp only [ne_eq, not_true_eq_false, if_false, hsigned, Bool.not_true, Bool.false_eq_true, and_false, hmissing]

/-- All transitive references of the event are among these events. -/
def Complete (events : List Event) (e : Event) : Prop :=
  ∀ id, Relation.TransGen (graph.Edge Event.id Event.refs events) id e.id → id ∈ events.map Event.id

section Complete

variable {events : List Event} {e : Event}

theorem Complete.mem_refs (h : Complete events e) (he : e ∈ events) {ref : EventID} (href : ref ∈ e.refs) :
    ref ∈ events.map Event.id := h ref (.single ⟨e, he, rfl, href⟩)

theorem complete_iff (hnodup : (events.map Event.id).Nodup) (he : e ∈ events) :
    Complete events e ↔ ∀ ref ∈ e.refs, ∃ parent ∈ events, parent.id = ref ∧ Complete events parent := by
  constructor
  · intro hcomplete ref href
    obtain ⟨parent, hparent, hid⟩ := List.mem_map.mp (hcomplete.mem_refs he href)
    refine ⟨parent, hparent, hid, fun id hpath => ?_⟩
    exact hcomplete id (.tail (hid ▸ hpath) ⟨e, he, rfl, href⟩)
  · intro hrefs id hpath
    -- the last reference of the path is one of the event
    obtain ⟨ref, hbefore, e', he', hid, href⟩ := Relation.TransGen.tail'_iff.mp hpath
    obtain rfl := List.inj_on_of_nodup_map hnodup he' he hid
    obtain ⟨parent, hparent, rfl, hcomplete⟩ := hrefs ref href
    obtain rfl | hbefore := Relation.reflTransGen_iff_eq_or_transGen.mp hbefore
    · exact List.mem_map_of_mem hparent
    · exact hcomplete id hbefore

theorem edge_iff_of_perm {events' : List Event} (hperm : events'.Perm events) {parent child : EventID} :
    graph.Edge Event.id Event.refs events' parent child ↔ graph.Edge Event.id Event.refs events parent child := by
  simp [graph.Edge, hperm.mem_iff]

theorem complete_iff_of_perm {events' : List Event} (hperm : events'.Perm events) :
    Complete events' e ↔ Complete events e := by
  have hedge : graph.Edge Event.id Event.refs events' = graph.Edge Event.id Event.refs events := by
    funext parent child
    exact propext (edge_iff_of_perm hperm)
  simp [Complete, hedge, (hperm.map Event.id).mem_iff]

end Complete

open Classical in
/-- Replaying events in an order in which references come first commits the complete ones and skips the others. -/
theorem replay_holds (c : Crypto) (hnodup : (events.map Event.id).Nodup)
    (hid : ∀ e ∈ events, computeID c e = .ok e.id) (hsigned : ∀ e ∈ events, crypto.verifyEvent c e = true)
    (done rest : List Event) (h : d.Holds (done.filter (Complete events ·))) (hperm : (done ++ rest).Perm events)
    (horder : graph.ParentsFirst Event.id Event.refs events (done ++ rest)) :
    ∃ d', replay c rest d = .ok d' ∧ d'.Holds ((done ++ rest).filter (Complete events ·)) := by
  induction rest generalizing done d with
  | nil => exact ⟨d, rfl, by rwa [List.append_nil]⟩
  | cons e rest ih =>
    have hsplit : done ++ e :: rest = (done ++ [e]) ++ rest := by simp
    have he : e ∈ events := hperm.mem_iff.mp (by simp)
    have hnew : e.id ∉ (done.filter (Complete events ·)).map Event.id := by
      have hids := (hperm.map Event.id).nodup_iff.mpr hnodup
      rw [List.map_append, List.map_cons] at hids
      intro hmem
      have hdone : e.id ∈ done.map Event.id := List.Sublist.subset (List.Sublist.map _ List.filter_sublist) hmem
      exact (List.nodup_append.mp hids).2.2 _ hdone _ List.mem_cons_self rfl
    have hrefs : (∀ ref ∈ e.refs, ref ∈ (done.filter (Complete events ·)).map Event.id) ↔ Complete events e := by
      rw [complete_iff hnodup he]
      refine forall₂_congr fun ref href => ?_
      rw [List.mem_map]
      constructor
      · rintro ⟨parent, hparent, hid⟩
        obtain ⟨hmem, hcomplete⟩ := List.mem_filter.mp hparent
        exact ⟨parent, hperm.mem_iff.mp (List.mem_append_left _ hmem), hid, of_decide_eq_true hcomplete⟩
      · rintro ⟨parent, hparent, rfl, hcomplete⟩
        obtain ⟨p, hp, hid⟩ := List.mem_map.mp (horder done e rest rfl _ href (List.mem_map_of_mem hparent))
        obtain rfl := List.inj_on_of_nodup_map hnodup (hperm.mem_iff.mp (List.mem_append_left _ hp)) hparent hid
        exact ⟨p, List.mem_filter.mpr ⟨hp, decide_eq_true hcomplete⟩, rfl⟩
    rw [hsplit] at hperm horder ⊢
    by_cases hcomplete : Complete events e
    · have hadd : d.addFromStore c e = (.ok (), d.commit e) :=
        addFromStore_eq_commit (fun hmem => hnew ((h.mem_iff _).mp hmem)) (hid e he) (hsigned e he) fun ref href =>
          (h.mem_iff ref).mpr (hrefs.mpr hcomplete ref href)
      rw [replay, hadd]
      refine ih (done ++ [e]) ?_ hperm horder
      rw [List.filter_append, List.filter_cons_of_pos (by simpa using hcomplete), List.filter_nil]
      exact h.commit hnew (hrefs.mpr hcomplete)
    · have hskip : d.addFromStore c e = (.ok (), d) := by
        refine addFromStore_eq_skip (hid e he) (hsigned e he) fun hall => hcomplete (hrefs.mp fun ref href => ?_)
        exact (h.mem_iff ref).mp (hall ref href)
      rw [replay, hskip]
      refine ih (done ++ [e]) ?_ hperm horder
      rwa [List.filter_append, List.filter_cons_of_neg (by simpa using hcomplete), List.filter_nil, List.append_nil]

open Classical in
theorem loadFromStore_holds (c : Crypto) (s : Map EventID Event)
    (hnodup : (events.map Event.id).Nodup) (hid : ∀ e ∈ events, computeID c e = .ok e.id)
    (hsigned : ∀ e ∈ events, crypto.verifyEvent c e = true)
    (hacyclic : graph.Acyclic (graph.Edge Event.id Event.refs events)) :
    ∃ d, loadFromStore c s (.ok events) = .ok d ∧ d.Holds (events.filter (Complete events ·)) := by
  obtain ⟨hperm, horder, -⟩ := graph.topoSort_spec hnodup hacyclic
  have hstart : Holds { store := some s } ([].filter (Complete events ·)) := ⟨.empty _, by simp⟩
  obtain ⟨d, hreplay, hholds⟩ := replay_holds c hnodup hid hsigned [] (topoSort events).1 hstart hperm horder
  refine ⟨d, hreplay, hholds.rep, fun id e => (hholds.lookup id e).trans ?_⟩
  have hmem : e ∈ (topoSort events).1 ↔ e ∈ events := hperm.mem_iff
  rw [List.nil_append, List.mem_filter, List.mem_filter, hmem]

/-- What holds after `Add` calls on an empty DAG with an empty store that never fails. -/
structure Persisted (c : Crypto) (d : DAG) : Prop where
  rep : d.Rep
  signed : ∀ id e, d.events.lookup id = some e → crypto.verifyEvent c e = true
  store : d.store = some d.events

theorem Persisted.empty (c : Crypto) : Persisted c { store := some ∅ } where
  rep := .empty _
  signed id e hlookup := by simp at hlookup
  store := rfl

theorem commit_store (e : Event) (d : DAG) : (d.commit e).store = d.store := by
  have hlink : ∀ (refs : List EventID) (d : DAG), (refs.foldl (link e.id) d).store = d.store := by
    intro refs
    induction refs with
    | nil => exact fun _ => rfl
    | cons ref refs ih => exact fun d => ih (d.link e.id ref)
  exact hlink e.refs _

theorem Persisted.add (h : Persisted c d) (e : Event) : Persisted c (d.add c none e).2 := by
  refine ⟨h.rep.add c none e, ?_, ?_⟩ <;>
    obtain ⟨-, -, hsame⟩ | ⟨-, haccepts, hcommit⟩ := add_cases c none e d
  · rw [hsame]
    exact h.signed
  · intro id e' hlookup
    rw [hcommit, putEvent_events, commit_events, lookup_insert_eq] at hlookup
    split_ifs at hlookup
    · cases hlookup
      exact haccepts.2.2
    · exact h.signed id e' hlookup
  · rw [hsame]
    exact h.store
  · rw [hcommit, putEvent_events, commit_events, putEvent, commit_store, h.store]
    rfl

/-- The state after `Add` calls on a store that takes every event. -/
def addEvents (c : Crypto) (d : DAG) (events : List Event) : DAG :=
  events.foldl (fun d e => (d.add c none e).2) d

theorem Persisted.addEvents (h : Persisted c d) (events : List Event) : Persisted c (d.addEvents c events) := by
  induction events generalizing d with
  | nil => exact h
  | cons e events ih => exact ih (h.add e)

theorem lists_map_id_nodup (h : d.Rep) (hlists : Lists d.events events) : (events.map Event.id).Nodup := by
  refine List.Nodup.map_on (fun e he e' he' heq => ?_) hlists.1
  obtain ⟨id, hlookup⟩ := (hlists.2 e).mp he
  obtain ⟨id', hlookup'⟩ := (hlists.2 e').mp he'
  have hids : id = id' := by rw [← h.keyed id e hlookup, ← h.keyed id' e' hlookup', heq]
  subst hids
  exact Option.some.inj (hlookup.symm.trans hlookup')

theorem lists_edge_iff (h : d.Rep) (hlists : Lists d.events events) (parent child : EventID) :
    graph.Edge Event.id Event.refs events parent child ↔ d.Child parent child := by
  constructor
  · rintro ⟨e, he, rfl, href⟩
    obtain ⟨id, hlookup⟩ := (hlists.2 e).mp he
    obtain rfl := h.keyed id e hlookup
    exact ⟨e, hlookup, href⟩
  · rintro ⟨e, hlookup, href⟩
    exact ⟨e, (hlists.2 e).mpr ⟨child, hlookup⟩, h.keyed child e hlookup, href⟩

theorem Persisted.reloads (h : Persisted c d) (hcontent : d.ContentAddressed c) : d.Reloads c := by
  classical
  refine ⟨d.events, h.store, fun events hlists => ?_⟩
  have hnodup := lists_map_id_nodup h.rep hlists
  have hacyclic : graph.Acyclic (graph.Edge Event.id Event.refs events) := by
    intro x hcycle
    exact h.rep.acyclic x (Relation.TransGen.mono (fun p q => (lists_edge_iff h.rep hlists p q).mp) x x hcycle)
  have hmem : ∀ {e}, e ∈ events → d.events.lookup e.id = some e := by
    intro e he
    obtain ⟨id, hlookup⟩ := (hlists.2 e).mp he
    rwa [h.rep.keyed id e hlookup]
  obtain ⟨d', hload, hholds⟩ := loadFromStore_holds c d.events hnodup (fun e he => hcontent e.id e (hmem he))
    (fun e he => h.signed e.id e (hmem he)) hacyclic
  refine ⟨d', hload, h.rep.sameGraph hholds.rep (ext_lookup fun id => Option.ext fun e => ?_)⟩
  rw [hholds.lookup, List.mem_filter]
  constructor
  · rintro ⟨⟨he, -⟩, rfl⟩
    exact hmem he
  · intro hlookup
    -- the references of what is stored are stored
    refine ⟨⟨(hlists.2 e).mpr ⟨id, hlookup⟩, decide_eq_true fun ref hpath => ?_⟩, h.rep.keyed id e hlookup⟩
    obtain ⟨child, hedge, -⟩ := Relation.TransGen.head'_iff.mp hpath
    obtain ⟨e', hstored⟩ := mem_iff.mp (h.rep.mem_of_child ((lists_edge_iff h.rep hlists _ _).mp hedge)).1
    rw [← h.rep.keyed ref e' hstored]
    exact List.mem_map_of_mem ((hlists.2 e').mpr ⟨ref, hstored⟩)

theorem lookup_addEvents {id : EventID} (hlookup : d.events.lookup id = some e) (events : List Event) :
    (d.addEvents c events).events.lookup id = some e := by
  induction events generalizing d with
  | nil => exact hlookup
  | cons e' events ih => exact ih ((add_lookup_of_mem c none e' (mem_of_lookup_eq_some hlookup)).trans hlookup)

/-- An event that passes the checks of `Add` goes by the hash of its content. -/
def Honest (c : Crypto) (d : DAG) (e : Event) : Prop :=
  d.Accepts c e → computeID c e = .ok e.id

theorem ContentAddressed.add (h : d.ContentAddressed c) (hhonest : d.Honest c e) :
    (d.add c none e).2.ContentAddressed c := by
  obtain ⟨-, -, hsame⟩ | ⟨-, haccepts, hcommit⟩ := add_cases c none e d
  · rw [hsame]
    exact h
  · intro id e' hlookup
    rw [hcommit, putEvent_events, commit_events, lookup_insert_eq] at hlookup
    split_ifs at hlookup
    · cases hlookup
      exact hhonest haccepts
    · exact h id e' hlookup

theorem meetsAlong_honest (h : (d.addEvents c events).ContentAddressed c) :
    transition.MeetsAlong (fun d e => (d.add c none e).2) (Honest c) d events := by
  induction events generalizing d with
  | nil => trivial
  | cons e events ih =>
    refine ⟨fun haccepts => ?_, ih h⟩
    obtain ⟨-, hnot, -⟩ | ⟨-, -, hcommit⟩ := add_cases c none e d
    · exact absurd haccepts hnot
    · have hlookup : (d.add c none e).2.events.lookup e.id = some e := by
        rw [hcommit, putEvent_events, commit_events, lookup_insert]
      exact h e.id e (lookup_addEvents hlookup events)

/-- After `Add` calls on an empty DAG over an empty store that takes every event, all events go by the
    hash of their content and the store reloads to the same graph exactly when every event that passed
    the checks of `Add` went by the hash of its content. `Add` itself does not compare the two. -/
theorem contentAddressed_and_reloads_iff (c : Crypto) (events : List Event) :
    ((addEvents c { store := some ∅ } events).ContentAddressed c ∧
      (addEvents c { store := some ∅ } events).Reloads c) ↔
    transition.MeetsAlong (fun d e => (d.add c none e).2) (Honest c) { store := some ∅ } events := by
  constructor
  · exact fun h => meetsAlong_honest h.1
  · intro hmeets
    have hcontent : (addEvents c { store := some ∅ } events).ContentAddressed c :=
      transition.invariant_of_meetsAlong (P := fun d => d.ContentAddressed c)
        (fun id e hlookup => by simp at hlookup) (fun d e h hhonest => h.add hhonest) hmeets
    exact ⟨hcontent, ((Persisted.empty c).addEvents events).reloads hcontent⟩

theorem accepts_with_id (hsigned : crypto.verifyEvent c e = true) (hroot : e.refs = []) (id : EventID)
    (store : Option (Map EventID Event)) : Accepts c { store := store } { e with id := id } := by
  refine ⟨notMem_empty, fun ref href => ?_, hsigned⟩
  rw [show ({ e with id := id } : Event).refs = e.refs from rfl, hroot] at href
  cases href

theorem not_contentAddressed_with_id (hsigned : crypto.verifyEvent c e = true) (hroot : e.refs = [])
    (id : EventID) (hforged : computeID c e ≠ .ok id) :
    ¬ (addEvents c { store := some ∅ } [{ e with id := id }]).ContentAddressed c := by
  intro h
  exact hforged ((meetsAlong_honest h).1 (accepts_with_id hsigned hroot id (some ∅)))

/-- A stand-in for the cryptography with one hash value, in which every signature of the right length
    is good. -/
def trusting : Crypto where
  sha256 _ := [0xa5]
  ed25519Verify _ _ _ := true
  number literal := .ok literal

/-- A signed root event whose ID is not a hash at all. -/
def forged : Event where
  id := "forged"
  type := .transfer
  payload := .document (.obj [])
  agentID := "0000000000000000000000000000000000000000000000000000000000000000"
  signature := List.replicate 64 0

/-- `Add` takes the forged event, and the store it was written to does not reload. -/
theorem forged_added_and_not_reloaded :
    "forged" ∈ (addEvents trusting { store := some ∅ } [forged]).events ∧
    ¬ (addEvents trusting { store := some ∅ } [forged]).ContentAddressed trusting ∧
    (loadFromStore trusting ((∅ : Map EventID Event).insert "forged" forged) (.ok [forged])).isOk = false := by
  have hid : (computeID trusting forged).toOption = some "a5" := by decide +kernel
  refine ⟨by decide +kernel, ?_, by decide +kernel⟩
  refine not_contentAddressed_with_id (e := forged) (by decide +kernel) rfl "forged" fun hok => ?_
  rw [hok] at hid
  exact absurd hid (by decide)

/-- From any listing of signed, acyclic events under their hashes, `LoadFromStore` loads exactly those whose transitive
    references are all listed, and the same graph from every order of the listing. -/
theorem loadFromStore_complete (c : Crypto) (s : Map EventID Event) {events : List Event}
    (hnodup : (events.map Event.id).Nodup) (hid : ∀ e ∈ events, computeID c e = .ok e.id)
    (hsigned : ∀ e ∈ events, crypto.verifyEvent c e = true)
    (hacyclic : graph.Acyclic (graph.Edge Event.id Event.refs events)) :
    ∃ d, loadFromStore c s (.ok events) = .ok d ∧
      (∀ id e, d.events.lookup id = some e ↔ (e ∈ events ∧ Complete events e) ∧ e.id = id) ∧
      ∀ events' : List Event, events'.Perm events → ∃ d', loadFromStore c s (.ok events') = .ok d' ∧
      SameGraph d d' := by
  classical
  obtain ⟨d, hload, hholds⟩ := loadFromStore_holds c s hnodup hid hsigned hacyclic
  refine ⟨d, hload, fun id e => ?_, fun events' hperm => ?_⟩
  · rw [hholds.lookup, List.mem_filter, decide_eq_true_iff]
  · have hacyclic' : graph.Acyclic (graph.Edge Event.id Event.refs events') := fun id hcycle =>
      hacyclic id (Relation.TransGen.mono (fun _ _ => (edge_iff_of_perm hperm).mp) id id hcycle)
    obtain ⟨d', hload', hholds'⟩ := loadFromStore_holds c s ((hperm.map Event.id).nodup_iff.mpr hnodup)
      (fun e he => hid e (hperm.mem_iff.mp he)) (fun e he => hsigned e (hperm.mem_iff.mp he)) hacyclic'
    refine ⟨d', hload', hholds.rep.sameGraph hholds'.rep (ext_lookup fun id => Option.ext fun e => ?_)⟩
    simp [hholds.lookup, hholds'.lookup, hperm.mem_iff, complete_iff_of_perm hperm]

section Sample

/-- A hash by length, for samples. -/
def lengthHash : Crypto where
  sha256 text := [UInt8.ofNat text.utf8ByteSize]
  ed25519Verify _ _ _ := true
  number literal := .ok literal

def rootEvent : Event := { (transferEvent "e1" "alice" "bob" "1").signed with causalTimestamp := 5 }

/-- An event with a lower timestamp than the root it refers to. -/
def backdatedEvent : Event :=
  { (transferEvent "e7" "alice" "bob" "333").signed with causalRefs := some ["e1"], causalTimestamp := 1 }

/-- An event whose reference is lost. -/
def orphanEvent : Event := { (transferEvent "e8" "alice" "bob" "4444").signed with causalRefs := some ["ff"] }

/-- The orphan is skipped. -/
theorem loadFromStore_skips_orphan :
    ∃ d, loadFromStore lengthHash ∅ (.ok [orphanEvent, backdatedEvent, rootEvent]) = .ok d ∧
      (∀ id e, d.events.lookup id = some e ↔ (e ∈ [orphanEvent, backdatedEvent, rootEvent] ∧
        Complete [orphanEvent, backdatedEvent, rootEvent] e) ∧ e.id = id) ∧ "e8" ∉ d.events := by
  have hids : ([orphanEvent, backdatedEvent, rootEvent].map Event.id).Nodup := by decide
  have hacyclic : graph.Acyclic (graph.Edge Event.id Event.refs [orphanEvent, backdatedEvent, rootEvent]) := by
    have hdepth : ∀ e ∈ [orphanEvent, backdatedEvent, rootEvent], ∀ e' ∈ [orphanEvent, backdatedEvent, rootEvent],
        e'.id ∈ e.refs → e'.refs = [] := by decide
    intro id hcycle
    obtain ⟨_, ⟨e, he, -, href⟩, -⟩ := Relation.TransGen.head'_iff.mp hcycle
    obtain ⟨parent, -, ⟨e', he', rfl, hparent⟩⟩ := Relation.TransGen.tail'_iff.mp hcycle
    rw [hdepth e he e' he' href] at hparent
    cases hparent
  obtain ⟨d, hload, hlookup, -⟩ := loadFromStore_complete lengthHash ∅ hids (by decide +kernel)
    (by decide +kernel) hacyclic
  refine ⟨d, hload, hlookup, fun hmem => ?_⟩
  obtain ⟨e, he⟩ := mem_iff.mp hmem
  obtain ⟨⟨hlisted, hcomplete⟩, hid⟩ := (hlookup "e8" e).mp he
  have horphan : ∀ e ∈ [orphanEvent, backdatedEvent, rootEvent], e.id = "e8" → "ff" ∈ e.refs := by decide
  exact absurd (hcomplete.mem_refs hlisted (horphan e hlisted hid)) (by decide)

end Sample

end DAG

end aethernet.dag
