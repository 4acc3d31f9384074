import Aethernet.Dag.Invariant
import Aethernet.Graph.Search

open golang aethernet.event

namespace aethernet.dag.DAG

open Relation

def refsOf (d : DAG) (id : EventID) : List EventID :=
  match d.events.lookup id with
  | some e => e.refs
  | none => []

def searchRounds (d : DAG) : ℕ := 1 + d.events.sumBy fun e => e.refs.length

def isAncestor (ancestor descendant : EventID) (d : DAG) : Except Error Bool :=
  if ancestor ∉ d.events then .error (.wrap "dag: " errEventNotFound s!": {ancestor}")
  else if descendant ∉ d.events then .error (.wrap "dag: " errEventNotFound s!": {descendant}")
  else if ancestor = descendant then .ok false
  else .ok (graph.search d.refsOf ancestor d.searchRounds ({descendant}, [descendant]))

/-- `ancestorsLocked`, unless the rounds run out. -/
def ancestors (id : EventID) (d : DAG) : Option (Except Error (List EventID)) :=
  match d.events.lookup id with
  | none => some (.error (.wrap "dag: " errEventNotFound s!": {id}"))
  | some e => (graph.collect d.refsOf d.searchRounds (e.refs.foldl graph.enqueue (∅, []))).map .ok

variable {d : DAG} {ancestor descendant : EventID} {a b : EventID}

theorem step_refsOf_iff : graph.Step d.refsOf a b ↔ d.Child b a := by
  unfold graph.Step refsOf Child
  cases d.events.lookup a with
  | none => simp
  | some e => simp

def allRefs (d : DAG) : Multiset EventID := d.events.entries.bind fun entry => (entry.2.refs : Multiset EventID)

theorem card_allRefs (d : DAG) : d.allRefs.card = d.events.sumBy fun e => e.refs.length := by
  unfold allRefs Finmap.sumBy
  rw [Multiset.card_bind]
  rfl

theorem mem_allRefs {id ref : EventID} (href : ref ∈ d.refsOf id) : ref ∈ d.allRefs := by
  unfold refsOf at href
  cases hlookup : d.events.lookup id with
  | none => simp [hlookup] at href
  | some e =>
    rw [hlookup] at href
    exact Multiset.mem_bind.mpr ⟨⟨id, e⟩, Finmap.lookup_eq_some_iff.mp hlookup, href⟩

theorem card_toFinset_allRefs_le (d : DAG) : d.allRefs.toFinset.card + 1 ≤ d.searchRounds := by
  rw [searchRounds, ← card_allRefs, Nat.add_comm]
  exact Nat.add_le_add_left (Multiset.toFinset_card_le _) 1

theorem reflTransGen_refsOf_iff : ReflTransGen (graph.Step d.refsOf) descendant ancestor ↔
    ReflTransGen d.Child ancestor descendant := by
  have hswap : Function.swap (graph.Step d.refsOf) = d.Child := by
    funext b a
    exact propext step_refsOf_iff
  rw [← hswap, reflTransGen_swap]

theorem search_refsOf_iff : graph.search d.refsOf ancestor d.searchRounds ({descendant}, [descendant]) = true ↔
    ReflTransGen d.Child ancestor descendant := by
  rw [← reflTransGen_refsOf_iff]
  refine graph.search_iff (insert descendant d.allRefs.toFinset) (Finset.mem_insert_self _ _) (fun k _ b hb => ?_) ?_
  · exact Finset.mem_insert_of_mem (Multiset.mem_toFinset.mpr (mem_allRefs hb))
  · exact (Finset.card_insert_le _ _).trans d.card_toFinset_allRefs_le

theorem ancestors_of_mem (hmem : descendant ∈ d.events) : ∃ result, d.ancestors descendant = some (.ok result) ∧
    result.Nodup ∧ ∀ a, a ∈ result ↔ TransGen d.Child a descendant := by
  obtain ⟨e, hlookup⟩ := Finmap.mem_iff.mp hmem
  have hrefs : d.refsOf descendant = e.refs := by rw [refsOf, hlookup]
  have hinside : ∀ id, ∀ ref ∈ d.refsOf id, ref ∈ d.allRefs.toFinset :=
    fun id ref href => Multiset.mem_toFinset.mpr (mem_allRefs href)
  obtain ⟨result, hresult, hnodup, hreached⟩ := graph.collect_sources d.allRefs.toFinset (hinside descendant)
    (fun id _ => hinside id) (Nat.le_of_succ_le d.card_toFinset_allRefs_le)
  refine ⟨result, ?_, hnodup, fun a => ?_⟩
  · rw [hrefs] at hresult
    rw [ancestors, hlookup]
    simp [hresult]
  · rw [hreached, TransGen.tail'_iff]
    refine exists_congr fun source => ?_
    rw [← step_refsOf_iff, reflTransGen_refsOf_iff, and_comm]
    rfl

theorem mem_of_isAncestor_ok {b : Bool} (h : d.isAncestor ancestor descendant = .ok b) :
    ancestor ∈ d.events ∧ descendant ∈ d.events := by
  unfold isAncestor at h
  by_cases hancestor : ancestor ∈ d.events
  · by_cases hdescendant : descendant ∈ d.events
    · exact ⟨hancestor, hdescendant⟩
    · rw [if_neg (not_not.mpr hancestor), if_pos hdescendant] at h
      cases h
  · rw [if_pos hancestor] at h
    cases h

theorem isAncestor_eq_true_iff : d.isAncestor ancestor descendant = .ok true ↔
    ancestor ∈ d.events ∧ descendant ∈ d.events ∧ ancestor ≠ descendant ∧ TransGen d.Child ancestor descendant := by
  constructor
  · intro h
    obtain ⟨hancestor, hdescendant⟩ := mem_of_isAncestor_ok h
    unfold isAncestor at h
    split_ifs at h with hsame
    · cases h
    · refine ⟨hancestor, hdescendant, hsame, ?_⟩
      have hpath := search_refsOf_iff.mp (Except.ok.inj h)
      exact (reflTransGen_iff_eq_or_transGen.mp hpath).resolve_left fun heq => hsame heq.symm
  · rintro ⟨hancestor, hdescendant, hsame, hpath⟩
    unfold isAncestor
    rw [if_neg (not_not.mpr hancestor), if_neg (not_not.mpr hdescendant), if_neg hsame]
    exact congrArg _ (search_refsOf_iff.mpr hpath.to_reflTransGen)

theorem get_of_mem {id : EventID} (hmem : id ∈ d.events) : ∃ e, d.get id = .ok e := by
  obtain ⟨e, hlookup⟩ := Finmap.mem_iff.mp hmem
  exact ⟨e, by rw [get, hlookup]⟩

theorem Rep.mem_of_transGen (h : d.Rep) (hpath : TransGen d.Child a b) : a ∈ d.events := by
  obtain ⟨c, hchild, -⟩ := TransGen.head'_iff.mp hpath
  exact (h.mem_of_child hchild).1

theorem Rep.isAncestor_iff (h : d.Rep) : d.isAncestor ancestor descendant = .ok true ↔
    TransGen d.Child ancestor descendant := by
  refine isAncestor_eq_true_iff.trans ⟨fun hyes => hyes.2.2.2, fun hpath => ?_⟩
  obtain ⟨b, -, hlast⟩ := TransGen.tail'_iff.mp hpath
  refine ⟨h.mem_of_transGen hpath, (h.mem_of_child hlast).2, ?_, hpath⟩
  rintro rfl
  exact h.acyclic _ hpath

theorem Rep.transGen_of_extends (h : d.Rep) {full : DAG}
    (hextends : ∀ id e, d.events.lookup id = some e → full.events.lookup id = some e)
    (hpath : TransGen full.Child a b) (hmem : b ∈ d.events) : TransGen d.Child a b := by
  have hedge : ∀ {a b : EventID}, full.Child a b → b ∈ d.events → d.Child a b := by
    rintro a b ⟨e, hlookup, href⟩ hb
    obtain ⟨e', hlocal⟩ := Finmap.mem_iff.mp hb
    rw [hextends b e' hlocal] at hlookup
    cases hlookup
    exact ⟨e, hlocal, href⟩
  induction hpath with
  | single hchild => exact .single (hedge hchild hmem)
  | tail _ hchild ih =>
    have hlocal := hedge hchild hmem
    exact .tail (ih (h.mem_of_child hlocal).1) hlocal

/-- In a DAG built by `Add`, `Ancestors` of an event comes to an end with the transitive closure of its references,
    without repetition, and `IsAncestor` says of each event whether it is in there. -/
theorem ancestors_and_isAncestor (c : Crypto) (store : Option (Map EventID Event))
    (calls : List (Option Error × Event)) {d : DAG} (hbuilt : d = addAll c { store := store } calls) {id : EventID}
    (hid : id ∈ d.events) :
    ∃ result, d.ancestors id = some (.ok result) ∧ result.Nodup ∧ (∀ a, a ∈ result ↔ TransGen d.Child a id) ∧
      ∀ a ∈ d.events, d.isAncestor a id = .ok (decide (a ∈ result)) := by
  obtain ⟨result, hresult, hnodup, hmem⟩ := ancestors_of_mem hid
  refine ⟨result, hresult, hnodup, hmem, fun a ha => ?_⟩
  have hrep : d.Rep := hbuilt ▸ (Rep.empty store).addAll c calls
  obtain ⟨answer, hanswer⟩ : ∃ answer, d.isAncestor a id = .ok answer := by
    rw [isAncestor, if_neg (not_not.mpr ha), if_neg (not_not.mpr hid)]
    split_ifs
    · exact ⟨_, rfl⟩
    · exact ⟨_, rfl⟩
  have hyes : answer = true ↔ a ∈ result := by
    rw [hmem, ← hrep.isAncestor_iff, hanswer, Except.ok.injEq]
  exact hanswer.trans (congrArg _ (Bool.eq_iff_iff.mpr (hyes.trans decide_eq_true_iff.symm)))

def sampleReferences : List (Option Error × Event) :=
  [(none, (transferEvent "e1" "alice" "bob" "1").signed),
    (none, { (transferEvent "e7" "alice" "bob" "333").signed with causalRefs := some ["e1", "e1"] })]

theorem ancestors_of_sampleReferences :
    let d := addAll sampleCrypto {} sampleReferences
    "e7" ∈ d.events ∧ ∃ result, d.ancestors "e7" = some (.ok result) ∧ result.Nodup ∧
      (∀ a, a ∈ result ↔ TransGen d.Child a "e7") ∧
      ∀ a ∈ d.events, d.isAncestor a "e7" = .ok (decide (a ∈ result)) :=
  have hid : "e7" ∈ (addAll sampleCrypto {} sampleReferences).events := by decide +kernel
  ⟨hid, ancestors_and_isAncestor sampleCrypto none sampleReferences rfl hid⟩

end aethernet.dag.DAG
