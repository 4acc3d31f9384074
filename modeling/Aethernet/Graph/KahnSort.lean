import Aethernet.Graph.Kahn

open golang

namespace graph

variable {K V : Type} [DecidableEq K] {key : V → K} {refs : V → List K}

/-- The invariant of the inner loop over the children still to be released. `w` is where each node's
    in-degree will end. A node is sorted or queued exactly when its in-degree is zero. -/
structure Releasing (key : V → K) (nodes : List V) (done : List K) (w : V → ℕ) (cs : List K)
    (st : Map K ℤ × List K) : Prop where
  children : ∀ c ∈ cs, c ∈ nodes.map key
  queued : ∀ k ∈ st.2, k ∈ nodes.map key
  degree : ∀ v ∈ nodes, st.1.getD (key v) 0 = w v + cs.count (key v)
  nodup : (done ++ st.2).Nodup
  ready : ∀ v ∈ nodes, key v ∈ done ++ st.2 ↔ st.1.getD (key v) 0 = 0

variable {done cs : List K} {w : V → ℕ} {st : Map K ℤ × List K} {nodes : List V}

theorem Releasing.step {c : K} (h : Releasing key nodes done w (c :: cs) st) :
    Releasing key nodes done w cs (release st c) := by
  obtain ⟨v, hv, hc⟩ := List.mem_map.mp (h.children c List.mem_cons_self)
  have hdeg : st.1.getD c 0 = w v + (cs.count c + 1) := by
    have := h.degree v hv
    rw [hc, List.count_cons_self] at this
    exact_mod_cast this
  have hfresh : c ∉ done ++ st.2 := by
    intro hmem
    have := (h.ready v hv).mp (hc ▸ hmem)
    rw [hc] at this
    omega
  have hself : (release st c).1.getD c 0 = st.1.getD c 0 - 1 := Finmap.getD_insert _ _ _ _
  have hother : ∀ k ≠ c, (release st c).1.getD k 0 = st.1.getD k 0 := fun k hk =>
    Finmap.getD_insert_of_ne _ _ _ hk
  have hqueue : (release st c).2 = if st.1.getD c 0 - 1 = 0 then st.2 ++ [c] else st.2 := by
    unfold release
    simp [Finmap.getD_insert]
  have hmem : ∀ k, k ∈ done ++ (release st c).2 ↔ k ∈ done ++ st.2 ∨ k = c ∧ st.1.getD c 0 - 1 = 0 := by
    intro k
    rw [hqueue]
    split_ifs with hzero <;> simp [hzero, or_assoc]
  refine ⟨fun k hk => h.children k (List.mem_cons_of_mem c hk), ?_, ?_, ?_, ?_⟩
  · intro k hk
    rw [hqueue] at hk
    split_ifs at hk
    · rcases List.mem_append.mp hk with hold | hnew
      · exact h.queued k hold
      · rw [List.mem_singleton.mp hnew]
        exact h.children c List.mem_cons_self
    · exact h.queued k hk
  · intro u hu
    by_cases hkey : key u = c
    · have := h.degree u hu
      rw [hkey] at this ⊢
      rw [hself, this, List.count_cons_self]
      push_cast
      ring
    · rw [hother _ hkey, h.degree u hu, List.count_cons_of_ne (Ne.symm hkey)]
  · rw [hqueue]
    split_ifs
    · rw [← List.append_assoc]
      exact List.Nodup.append h.nodup (List.nodup_singleton c) (by simpa using hfresh)
    · exact h.nodup
  · intro u hu
    rw [hmem]
    by_cases hkey : key u = c
    · rw [hkey, hself]
      simp [hfresh]
    · rw [hother _ hkey, ← h.ready u hu]
      simp [hkey]

theorem Releasing.foldl (h : Releasing key nodes done w cs st) :
    Releasing key nodes done w [] (cs.foldl release st) := by
  induction cs generalizing st with
  | nil => exact h
  | cons c cs ih => exact ih h.step

/-- The children of a key count its dependents down: `left done v` is what remains of the in-degree of `v` once the keys
    of `done` are sorted. -/
structure CountsDown (key : V → K) (nodes : List V) (known : Map K V) (children : Map K (List K))
    (left : List K → V → ℕ) : Prop where
  stored : ∀ v ∈ nodes, known.lookup (key v) = some v
  listed : ∀ p, ∀ c ∈ children.getD p [], c ∈ nodes.map key
  count : ∀ done k, k ∈ nodes.map key → k ∉ done → ∀ v ∈ nodes,
    left (done ++ [k]) v + (children.getD k []).count (key v) = left done v

/-- The invariant of the queue loop. A node is sorted when nothing of its in-degree is left. -/
structure Countdown (key : V → K) (nodes : List V) (left : List K → V → ℕ) (inDegree : Map K ℤ) (queue : List K)
    (sorted : List V) : Prop where
  queued : ∀ k ∈ queue, k ∈ nodes.map key
  members : ∀ v ∈ sorted, v ∈ nodes
  degree : ∀ v ∈ nodes, inDegree.getD (key v) 0 = left (sorted.map key) v
  nodup : (sorted.map key ++ queue).Nodup
  ready : ∀ v ∈ nodes, key v ∈ sorted.map key ++ queue ↔ inDegree.getD (key v) 0 = 0
  spent : ∀ before v after, sorted = before ++ v :: after → left (before.map key) v = 0

namespace Countdown

variable {nodes : List V} {known : Map K V} {children : Map K (List K)} {left : List K → V → ℕ} {inDegree : Map K ℤ}
  {queue : List K} {sorted : List V}

/-- One round of the queue loop. -/
theorem step (hcounts : CountsDown key nodes known children left) {k : K}
    (h : Countdown key nodes left inDegree (k :: queue) sorted) :
    ∃ v ∈ nodes, known.lookup k = some v ∧
      Countdown key nodes left ((children.getD k []).foldl release (inDegree, queue)).1
        ((children.getD k []).foldl release (inDegree, queue)).2 (sorted ++ [v]) := by
  have hk := h.queued k List.mem_cons_self
  obtain ⟨v, hv, rfl⟩ := List.mem_map.mp hk
  have hsplit : sorted.map key ++ key v :: queue = (sorted.map key ++ [key v]) ++ queue := by simp
  have hnew : key v ∉ sorted.map key := by
    intro hmem
    exact (List.nodup_append.mp h.nodup).2.2 _ hmem _ List.mem_cons_self rfl
  have hreleasing : Releasing key nodes (sorted.map key ++ [key v]) (left (sorted.map key ++ [key v]))
      (children.getD (key v) []) (inDegree, queue) := by
    refine ⟨hcounts.listed _, fun c hc => h.queued c (List.mem_cons_of_mem _ hc), ?_, ?_, ?_⟩
    · intro u hu
      rw [h.degree u hu, ← hcounts.count _ _ hk hnew u hu]
      rfl
    · rw [← hsplit]
      exact h.nodup
    · intro u hu
      rw [← hsplit]
      exact h.ready u hu
  have hdone := hreleasing.foldl
  have hmap : (sorted ++ [v]).map key = sorted.map key ++ [key v] := by simp
  refine ⟨v, hv, hcounts.stored v hv, hdone.queued, ?_, ?_, ?_, ?_, ?_⟩
  · intro u hu
    rcases List.mem_append.mp hu with hold | hlast
    · exact h.members u hold
    · rw [List.mem_singleton.mp hlast]
      exact hv
  · intro u hu
    rw [hdone.degree u hu, hmap, List.count_nil, Nat.cast_zero, add_zero]
  · rw [hmap]
    exact hdone.nodup
  · rw [hmap]
    exact hdone.ready
  · intro before u after heq
    rcases List.eq_nil_or_concat after with rfl | ⟨after, last, rfl⟩
    · -- the node left the queue with in-degree zero
      obtain ⟨rfl, hu⟩ := List.append_inj' heq rfl
      obtain rfl : v = u := by simpa using hu
      have hzero := (h.ready v hv).mp (List.mem_append_right _ List.mem_cons_self)
      rwa [h.degree v hv, Nat.cast_eq_zero] at hzero
    · rw [List.concat_eq_append, ← List.cons_append, ← List.append_assoc] at heq
      obtain ⟨hbefore, -⟩ := List.append_inj' heq rfl
      exact h.spent before u after hbefore

theorem drain (hcounts : CountsDown key nodes known children left) (fuel : ℕ)
    (h : Countdown key nodes left inDegree queue sorted) (hfuel : nodes.length ≤ fuel + sorted.length) :
    Countdown key nodes left (graph.drain known children fuel inDegree queue sorted).1 []
      (graph.drain known children fuel inDegree queue sorted).2 := by
  induction fuel generalizing inDegree queue sorted with
  | zero =>
    have hsub : sorted.map key ++ queue ⊆ nodes.map key := by
      intro k hk
      rcases List.mem_append.mp hk with hs | hq
      · obtain ⟨v, hv, rfl⟩ := List.mem_map.mp hs
        exact List.mem_map_of_mem (h.members v hv)
      · exact h.queued k hq
    have hlen := (List.subperm_of_subset h.nodup hsub).length_le
    rw [List.length_append, List.length_map, List.length_map] at hlen
    obtain rfl : queue = [] := List.length_eq_zero_iff.mp (by omega)
    exact h
  | succ fuel ih =>
    cases queue with
    | nil => exact h
    | cons k queue =>
      obtain ⟨v, -, hlookup, hnext⟩ := h.step hcounts
      rw [graph.drain, hlookup, Option.toList_some]
      refine ih hnext ?_
      rw [List.length_append, List.length_singleton]
      omega

theorem start (hdegree : ∀ v ∈ nodes, inDegree.getD (key v) 0 = left [] v)
    (hqueue : queue.Nodup) (hzero : ∀ k, k ∈ queue ↔ k ∈ nodes.map key ∧ inDegree.getD k 0 = 0) :
    Countdown key nodes left inDegree queue [] := by
  refine ⟨fun k hk => ((hzero k).mp hk).1, by simp, hdegree, by simpa using hqueue, fun v hv => ?_, by simp⟩
  rw [List.map_nil, List.nil_append, hzero]
  exact ⟨fun hmem => hmem.2, fun hdeg => ⟨List.mem_map_of_mem hv, hdeg⟩⟩

theorem sorted_nodup (h : Countdown key nodes left inDegree queue sorted) : (sorted.map key).Nodup :=
  (List.nodup_append.mp h.nodup).1

theorem mem_sorted_iff (h : Countdown key nodes left inDegree [] sorted) {v : V} (hv : v ∈ nodes) :
    key v ∈ sorted.map key ↔ left (sorted.map key) v = 0 := by
  have hready := h.ready v hv
  rwa [List.append_nil, h.degree v hv, Nat.cast_eq_zero] at hready

theorem perm (h : Countdown key nodes left inDegree queue sorted) (hnodup : (nodes.map key).Nodup)
    (hall : ∀ v ∈ nodes, key v ∈ sorted.map key) : sorted.Perm nodes := by
  rw [List.perm_ext_iff_of_nodup h.sorted_nodup.of_map hnodup.of_map]
  intro v
  refine ⟨fun hv => h.members v hv, fun hv => ?_⟩
  obtain ⟨u, hu, hkey⟩ := List.mem_map.mp (hall v hv)
  rwa [← List.inj_on_of_nodup_map hnodup (h.members u hu) hv hkey]

theorem complete (h : Countdown key nodes left inDegree [] sorted) {edge : K → K → Prop} (hacyclic : Acyclic edge)
    (hleft : ∀ v ∈ nodes, ∀ done, left done v ≠ 0 → ∃ k ∈ nodes.map key, k ∉ done ∧ edge k (key v)) {v : V}
    (hv : v ∈ nodes) : key v ∈ sorted.map key := by
  have hunsorted : ((nodes.map key).toFinset \ (sorted.map key).toFinset) = ∅ := by
    refine hacyclic.eq_empty_of_predecessor ?_
    intro k hk
    rw [Finset.mem_sdiff, List.mem_toFinset, List.mem_toFinset] at hk
    obtain ⟨u, hu, rfl⟩ := List.mem_map.mp hk.1
    obtain ⟨r, hknown, hrest, hedge⟩ := hleft u hu _ fun hzero => hk.2 ((h.mem_sorted_iff hu).mpr hzero)
    refine ⟨r, ?_, hedge⟩
    rw [Finset.mem_sdiff, List.mem_toFinset, List.mem_toFinset]
    exact ⟨hknown, hrest⟩
  by_contra hnot
  have hmem : key v ∈ (nodes.map key).toFinset \ (sorted.map key).toFinset := by
    rw [Finset.mem_sdiff, List.mem_toFinset, List.mem_toFinset]
    exact ⟨List.mem_map_of_mem hv, hnot⟩
  rw [hunsorted] at hmem
  exact Finset.notMem_empty _ hmem

end Countdown

def waiting (key : V → K) (refs : V → List K) (nodes : List V) (done : List K) (v : V) : ℕ :=
  (refs v).countP fun r => r ∈ nodes.map key ∧ r ∉ done

def ParentsFirst (key : V → K) (refs : V → List K) (nodes sorted : List V) : Prop :=
  ∀ before v after, sorted = before ++ v :: after →
    ∀ r ∈ refs v, r ∈ nodes.map key → r ∈ before.map key

theorem waiting_append {k : K} (hk : k ∈ nodes.map key) (hnew : k ∉ done) (v : V) :
    waiting key refs nodes (done ++ [k]) v + (refs v).count k = waiting key refs nodes done v := by
  unfold waiting
  induction refs v with
  | nil => rfl
  | cons r rs ih =>
    simp only [List.countP_cons, List.count_cons, List.mem_append, List.mem_singleton, beq_iff_eq] at ih ⊢
    by_cases hr : r = k
    · subst hr
      simp only [hk, hnew, or_true, not_true_eq_false, and_false, not_false_eq_true, and_self, decide_true,
        decide_false, if_true, Bool.false_eq_true, if_false] at ih ⊢
      omega
    · simp only [hr, or_false, if_false] at ih ⊢
      omega

theorem waiting_eq_zero {v : V} : waiting key refs nodes done v = 0 ↔ ∀ r ∈ refs v, r ∈ nodes.map key → r ∈ done := by
  simp [waiting]

theorem countsDown_countNodes (hnodup : (nodes.map key).Nodup) :
    CountsDown key nodes (byKey key nodes) (countNodes key refs nodes).2 (waiting key refs nodes) where
  stored _ hv := lookup_byKey hnodup hv
  listed _ _ hc := mem_children hc
  count done k hk hnew v hv := by rw [count_children hnodup hk hv, waiting_append hk hnew v]

theorem Countdown.countNodes (refs : V → List K) (hnodup : (nodes.map key).Nodup) :
    Countdown key nodes (waiting key refs nodes) (countNodes key refs nodes).1
      ((nodes.filter fun v => (countNodes key refs nodes).1.getD (key v) 0 = 0).map key) [] := by
  refine Countdown.start ?_ ?_ ?_
  · intro v hv
    rw [graph.countNodes, (foldl_countNode_inDegree _ nodes _).2 hnodup v hv, waiting]
    simp [mem_byKey]
  · exact hnodup.sublist (List.Sublist.map key List.filter_sublist)
  · intro k
    simp only [List.mem_map, List.mem_filter, decide_eq_true_eq]
    constructor
    · rintro ⟨v, ⟨hv, hzero⟩, rfl⟩
      exact ⟨⟨v, hv, rfl⟩, hzero⟩
    · rintro ⟨⟨v, hv, rfl⟩, hzero⟩
      exact ⟨v, ⟨hv, hzero⟩, rfl⟩

/-- The edges among the nodes, from what is referred to. -/
def Edge (key : V → K) (refs : V → List K) (nodes : List V) (p c : K) : Prop :=
  ∃ v ∈ nodes, key v = c ∧ p ∈ refs v

theorem exists_unsorted_of_waiting {v : V} (hv : v ∈ nodes)
    (hopen : waiting key refs nodes done v ≠ 0) : ∃ k ∈ nodes.map key, k ∉ done ∧ Edge key refs nodes k (key v) := by
  rw [ne_eq, waiting_eq_zero] at hopen
  push Not at hopen
  obtain ⟨r, hr, hknown, hrest⟩ := hopen
  exact ⟨r, hknown, hrest, v, hv, rfl, hr⟩

theorem topoSort_spec (hnodup : (nodes.map key).Nodup) (hacyclic : Acyclic (Edge key refs nodes)) :
    (topoSort key refs nodes).1.Perm nodes ∧
    ParentsFirst key refs nodes (topoSort key refs nodes).1 ∧ (topoSort key refs nodes).2 = [] := by
  have hdrained : Countdown key nodes (waiting key refs nodes) _ [] (topoSort key refs nodes).1 :=
    (Countdown.countNodes refs hnodup).drain (countsDown_countNodes hnodup) nodes.length (by simp)
  have hperm : (topoSort key refs nodes).1.Perm nodes :=
    hdrained.perm hnodup fun _ hv =>
      hdrained.complete hacyclic (fun _ hu _ => exists_unsorted_of_waiting hu) hv
  refine ⟨hperm, fun before v after hsplit => waiting_eq_zero.mp (hdrained.spent before v after hsplit), ?_⟩
  have hlen := hperm.length_eq
  simp only [topoSort] at hlen ⊢
  rw [if_neg (by omega)]

end graph
