import Aethernet.Dag.Reload
import Aethernet.Golang.Sort

open golang aethernet.event Finmap

namespace aethernet.dag

/-- What `TopologicalSort` sorts by. -/
def sortKey (e : Event) : UInt64 ×ₗ String := toLex (e.causalTimestamp, e.id)

namespace DAG

/-- The loops of `TopologicalSort` over maps, in the orders in which they are visited. -/
structure SortOrders where
  degrees : RangeOrder EventID ℤ := .byKey
  children : SetOrder EventID := .byKey

/-- The queue loop of `TopologicalSort`. -/
def kahn (orders : SortOrders) (d : DAG) : List Event :=
  let inDegree : Map EventID ℤ := d.events.mapValues fun e => e.refs.length
  let queue := ((orders.degrees.visit inDegree).filter fun p => p.2 = 0).map Prod.fst
  (graph.drain d.events (d.children.mapValues orders.children.visit) d.events.len inDegree queue []).2

/-- `TopologicalSort`. The IDs make the keys of the last sort distinct, so that every way of sorting gives the same. -/
def topologicalSort (orders : SortOrders) (d : DAG) : Except Error (List Event) :=
  let result := d.kahn orders
  if result.length ≠ d.events.len then
    .error (.new "dag: cycle detected during topological sort — DAG invariant violated")
  else .ok (result.insertionSort fun e e' => sortKey e ≤ sortKey e')

/-- Every stored event once, each one after all the events it refers to. -/
def Topological (d : DAG) (sorted : List Event) : Prop :=
  Lists d.events sorted ∧
  ∀ before e after, sorted = before ++ e :: after → ∀ ref ∈ e.refs, ref ∈ before.map Event.id

/-- No stored event repeats a reference, and each one is greater than those it refers to, by timestamp and ID. -/
def Monotone (d : DAG) : Prop :=
  ∀ id e, d.events.lookup id = some e → e.refs.Nodup ∧
    ∀ ref ∈ e.refs, ∀ parent, d.events.lookup ref = some parent → sortKey parent < sortKey e

section Kahn

variable {d : DAG} {nodes : List Event} {id : EventID} {e : Event}

def repeats (e : Event) : ℕ := e.refs.length - e.refs.dedup.length

/-- What is left of the in-degree of an event when these are sorted: its references to others, and its repetitions,
    which nothing counts down. -/
def left (nodes : List Event) (done : List EventID) (e : Event) : ℕ :=
  repeats e + graph.waiting Event.id (fun e => e.refs.dedup) nodes done e

theorem repeats_eq_zero_iff : repeats e = 0 ↔ e.refs.Nodup := by
  unfold repeats
  rw [Nat.sub_eq_zero_iff_le, ← List.dedup_eq_self]
  constructor
  · exact fun hle => (List.dedup_sublist e.refs).eq_of_length_le hle
  · intro heq
    rw [heq]

theorem length_of_visits (hvisits : d.events.Visits nodes) : nodes.length = d.events.len := by
  rw [← Multiset.coe_card, hvisits, Multiset.card_map]
  rfl

theorem getD_children (order : SetOrder EventID) (id : EventID) :
    (d.children.mapValues order.visit).getD id [] = order.visit (d.children.getD id ∅) := by
  have hget := getD_mapValues order.visit d.children id ∅
  rwa [order.visit_empty] at hget

theorem count_children (h : d.Rep) (order : SetOrder EventID) (hlookup : d.events.lookup e.id = some e) :
    ((d.children.mapValues order.visit).getD id []).count e.id = e.refs.dedup.count id := by
  have hchild : e.id ∈ d.children.getD id ∅ ↔ id ∈ e.refs := by
    rw [h.children, Child]
    simp [hlookup]
  rw [getD_children, order.count_visit, List.Nodup.count (List.nodup_dedup _)]
  simp [hchild]

variable (h : d.Rep) (hvisits : d.events.Visits nodes)

include h hvisits

theorem lookup_of_visits (he : e ∈ nodes) : d.events.lookup e.id = some e := by
  obtain ⟨id, hlookup⟩ := (hvisits.mem_iff e).mp he
  rwa [h.keyed id e hlookup]

theorem nodup_ids_of_visits : (nodes.map Event.id).Nodup := by
  have hids : (nodes.map Event.id : Multiset EventID) = d.events.entries.map Sigma.fst := by
    rw [← Multiset.map_coe, hvisits, Multiset.map_map]
    refine Multiset.map_congr rfl fun entry hentry => ?_
    exact h.keyed entry.1 entry.2 (lookup_eq_some_iff.mpr hentry)
  rw [← Multiset.coe_nodup, hids]
  exact Multiset.nodup_keys.mpr d.events.nodupKeys

theorem mem_ids_of_visits : id ∈ nodes.map Event.id ↔ id ∈ d.events := by
  rw [List.mem_map, mem_iff]
  constructor
  · rintro ⟨e, he, rfl⟩
    exact ⟨e, lookup_of_visits h hvisits he⟩
  · rintro ⟨e, hlookup⟩
    exact ⟨e, (hvisits.mem_iff e).mpr ⟨id, hlookup⟩, h.keyed id e hlookup⟩

theorem lists_iff_perm {sorted : List Event} :
    Lists d.events sorted ↔ sorted.Perm nodes := by
  have hnodup : nodes.Nodup := (nodup_ids_of_visits h hvisits).of_map
  constructor
  · rintro ⟨hsorted, hmem⟩
    rw [List.perm_ext_iff_of_nodup hsorted hnodup]
    exact fun e => (hmem e).trans (hvisits.mem_iff e).symm
  · intro hperm
    exact ⟨hperm.nodup_iff.mpr hnodup, fun e => hperm.mem_iff.trans (hvisits.mem_iff e)⟩

theorem countsDown_children (order : SetOrder EventID) :
    graph.CountsDown Event.id nodes d.events (d.children.mapValues order.visit) (left nodes) where
  stored e he := lookup_of_visits h hvisits he
  listed p c hc := by
    rw [getD_children, order.mem_visit_iff, h.children] at hc
    exact (mem_ids_of_visits h hvisits).mpr (h.mem_of_child hc).2
  count done k hk hnew e he := by
    rw [count_children h order (lookup_of_visits h hvisits he), left, left, Nat.add_assoc,
      graph.waiting_append hk hnew e]

theorem left_nil (hlookup : d.events.lookup id = some e) : left nodes [] e = e.refs.length := by
  have hknown : graph.waiting Event.id (fun e => e.refs.dedup) nodes [] e = e.refs.dedup.length := by
    refine List.countP_eq_length.mpr fun ref href => ?_
    have hmem := (mem_ids_of_visits h hvisits).mpr (h.closed id e hlookup ref (List.mem_dedup.mp href))
    simpa using hmem
  rw [left, hknown, repeats, Nat.sub_add_cancel (List.dedup_sublist e.refs).length_le]

theorem kahn_countdown (orders : SortOrders) :
    ∃ inDegree, graph.Countdown Event.id nodes (left nodes) inDegree [] (d.kahn orders) := by
  refine ⟨_, graph.Countdown.drain (countsDown_children h hvisits orders.children) d.events.len
    (graph.Countdown.start ?_ ?_ ?_) ?_⟩
  · intro e he
    have hlookup := lookup_of_visits h hvisits he
    rw [left_nil h hvisits hlookup, getD, lookup_mapValues, hlookup]
    rfl
  · exact (orders.degrees.nodup_keys _).sublist (List.Sublist.map _ List.filter_sublist)
  · intro id
    rw [mem_ids_of_visits h hvisits, mem_iff, List.mem_map, getD, lookup_mapValues]
    constructor
    · rintro ⟨⟨id, degree⟩, hvisited, rfl⟩
      obtain ⟨hmem, hzero⟩ := List.mem_filter.mp hvisited
      rw [orders.degrees.mem_visit_iff, lookup_mapValues] at hmem
      obtain ⟨e, hlookup, -⟩ := Option.map_eq_some_iff.mp hmem
      refine ⟨⟨e, hlookup⟩, ?_⟩
      rw [hmem]
      exact of_decide_eq_true hzero
    · rintro ⟨⟨e, hlookup⟩, hzero⟩
      rw [hlookup] at hzero
      refine ⟨(id, 0), List.mem_filter.mpr ⟨?_, rfl⟩, rfl⟩
      rw [orders.degrees.mem_visit_iff, lookup_mapValues, hlookup]
      exact congrArg some hzero
  · rw [length_of_visits hvisits]
    rfl

theorem kahn_perm_iff (orders : SortOrders) :
    (d.kahn orders).Perm nodes ↔ ∀ e ∈ nodes, e.refs.Nodup := by
  obtain ⟨inDegree, hcountdown⟩ := kahn_countdown h hvisits orders
  constructor
  · intro hperm e he
    have hzero := (hcountdown.mem_sorted_iff he).mp (List.mem_map_of_mem (hperm.mem_iff.mpr he))
    exact repeats_eq_zero_iff.mp (Nat.add_eq_zero_iff.mp hzero).1
  · intro hnodup
    refine hcountdown.perm (nodup_ids_of_visits h hvisits) fun e he => hcountdown.complete h.acyclic ?_ he
    intro e he done hleft
    rw [left, repeats_eq_zero_iff.mpr (hnodup e he), Nat.zero_add] at hleft
    obtain ⟨ref, hknown, hopen, e', he', hid, href⟩ := graph.exists_unsorted_of_waiting he hleft
    exact ⟨ref, hknown, hopen, e', hid ▸ lookup_of_visits h hvisits he', List.mem_dedup.mp href⟩

theorem kahn_length_iff (orders : SortOrders) :
    (d.kahn orders).length = d.events.len ↔ (d.kahn orders).Perm nodes := by
  obtain ⟨inDegree, hcountdown⟩ := kahn_countdown h hvisits orders
  rw [← length_of_visits hvisits]
  refine ⟨fun hlen => ?_, List.Perm.length_eq⟩
  exact (List.subperm_of_subset hcountdown.sorted_nodup.of_map hcountdown.members).perm_of_length_le hlen.ge

end Kahn

section Sorted

variable {d : DAG}

theorem topological_iff_of_sorted (h : d.Rep) {sorted : List Event} (hlists : Lists d.events sorted)
    (hsorted : sorted.Pairwise fun e e' => sortKey e ≤ sortKey e') :
    (∀ before e after, sorted = before ++ e :: after → ∀ ref ∈ e.refs, ref ∈ before.map Event.id) ↔
      ∀ id e, d.events.lookup id = some e → ∀ ref ∈ e.refs, ∀ parent, d.events.lookup ref = some parent →
        sortKey parent < sortKey e := by
  constructor
  · intro hfirst id e hlookup ref href parent hparent
    obtain ⟨before, after, rfl⟩ := List.append_of_mem ((hlists.2 e).mpr ⟨id, hlookup⟩)
    obtain ⟨p, hp, hid⟩ := List.mem_map.mp (hfirst before e after rfl ref href)
    obtain ⟨id', hlookup'⟩ := (hlists.2 p).mp (List.mem_append_left _ hp)
    obtain rfl : p = parent := by
      rw [← hid, h.keyed id' p hlookup', hlookup'] at hparent
      exact Option.some.inj hparent
    have hle : sortKey p ≤ sortKey e := (List.pairwise_append.mp hsorted).2.2 p hp e List.mem_cons_self
    refine lt_of_le_of_ne hle fun heq => ?_
    -- equal keys are equal IDs, and no event refers to itself
    have hself : ref = id := by
      rw [← hid, ← h.keyed id e hlookup]
      exact congrArg (fun key => (ofLex key).2) heq
    exact h.acyclic id (.single ⟨e, hlookup, hself ▸ href⟩)
  · rintro hless before e after rfl ref href
    obtain ⟨id, hlookup⟩ := (hlists.2 e).mp (List.mem_append_right _ List.mem_cons_self)
    obtain ⟨parent, hparent⟩ := mem_iff.mp (h.closed id e hlookup ref href)
    have hlt := hless id e hlookup ref href parent hparent
    obtain hbefore | hrest := List.mem_append.mp ((hlists.2 parent).mpr ⟨ref, hparent⟩)
    · exact List.mem_map.mpr ⟨parent, hbefore, h.keyed ref parent hparent⟩
    · obtain rfl | hafter := List.mem_cons.mp hrest
      · exact absurd hlt (lt_irrefl _)
      · have hle := (List.pairwise_cons.mp (List.pairwise_append.mp hsorted).2.1).1 parent hafter
        exact absurd hlt (not_lt.mpr hle)

theorem pairwise_insertionSort (events : List Event) :
    (events.insertionSort fun e e' => sortKey e ≤ sortKey e').Pairwise fun e e' => sortKey e ≤ sortKey e' := by
  have : Std.Total fun e e' : Event => sortKey e ≤ sortKey e' := ⟨fun e e' => le_total (sortKey e) (sortKey e')⟩
  have : IsTrans Event fun e e' => sortKey e ≤ sortKey e' := ⟨fun _ _ _ => le_trans⟩
  exact List.pairwise_insertionSort _ events

theorem Rep.topologicalSort_iff (h : d.Rep) (orders : SortOrders) :
    (∃ sorted, d.topologicalSort orders = .ok sorted ∧ d.Topological sorted) ↔ d.Monotone := by
  obtain ⟨nodes, hvisits⟩ := exists_visits d.events
  have hlen := kahn_length_iff h hvisits orders
  have hperm := kahn_perm_iff h hvisits orders
  have hsort := List.perm_insertionSort (fun e e' => sortKey e ≤ sortKey e') (d.kahn orders)
  have hlists : (d.kahn orders).Perm nodes →
      Lists d.events ((d.kahn orders).insertionSort fun e e' => sortKey e ≤ sortKey e') := fun hall =>
    (lists_iff_perm h hvisits).mpr (hsort.trans hall)
  unfold topologicalSort
  constructor
  · rintro ⟨sorted, hok, htopological⟩
    dsimp only at hok
    split_ifs at hok with herr
    cases hok
    have hall := hlen.mp (not_not.mp herr)
    have hless := (topological_iff_of_sorted h (hlists hall) (pairwise_insertionSort _)).mp htopological.2
    intro id e hlookup
    exact ⟨hperm.mp hall e ((hvisits.mem_iff e).mpr ⟨id, hlookup⟩), hless id e hlookup⟩
  · intro hmonotone
    have hall : (d.kahn orders).Perm nodes := by
      refine hperm.mpr fun e he => ?_
      obtain ⟨id, hlookup⟩ := (hvisits.mem_iff e).mp he
      exact (hmonotone id e hlookup).1
    refine ⟨_, if_neg (not_not.mpr (hlen.mpr hall)), hlists hall, ?_⟩
    exact (topological_iff_of_sorted h (hlists hall) (pairwise_insertionSort _)).mpr fun id e hlookup =>
      (hmonotone id e hlookup).2

/-- After any `Add` calls, `TopologicalSort` lists every event once and after its references exactly if no stored event
    repeats a reference and each one is greater than its references by timestamp and ID. `Add` checks neither. -/
theorem topologicalSort_addAll_iff (c : Crypto) (store : Option (Map EventID Event))
    (calls : List (Option Error × Event)) (orders : SortOrders) :
    (∃ sorted, (addAll c { store := store } calls).topologicalSort orders = .ok sorted ∧
      (addAll c { store := store } calls).Topological sorted) ↔ (addAll c { store := store } calls).Monotone :=
  ((Rep.empty store).addAll c calls).topologicalSort_iff orders

end Sorted

section Sample

/-- An event that refers to the root twice. -/
def doubledEvent : Event :=
  { (transferEvent "eb" "alice" "bob" "22").signed with causalRefs := some ["e1", "e1"], causalTimestamp := 6 }

/-- Signed events under their hashes: one that repeats a reference makes the sort fail, and one with a lower timestamp
    than its reference comes before it. -/
theorem doubled_fails_and_backdated_first :
    (∀ e ∈ [rootEvent, doubledEvent, backdatedEvent],
      computeID lengthHash e = .ok e.id ∧ crypto.verifyEvent lengthHash e = true) ∧
    (addAll lengthHash {} [(none, rootEvent), (none, doubledEvent)]).events.len = 2 ∧
    ((addAll lengthHash {} [(none, rootEvent), (none, doubledEvent)]).topologicalSort {}).toOption = none ∧
    ((addAll lengthHash {} [(none, rootEvent), (none, backdatedEvent)]).topologicalSort {}).toOption.map
      (·.map Event.id) = some ["e7", "e1"] := by
  refine ⟨?_, ?_, ?_, ?_⟩
  · decide +kernel
  · decide +kernel
  · decide +kernel
  · decide +kernel

end Sample

end DAG

end aethernet.dag
