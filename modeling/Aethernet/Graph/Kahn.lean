import Aethernet.Golang.Map

open golang Finmap Relation

namespace graph

variable {α : Type} {R R' : α → α → Prop}

/-- No node reaches itself by one edge or more. -/
def Acyclic (R : α → α → Prop) : Prop := ∀ x, ¬ TransGen R x x

theorem transGen_of_add_sink {n x y : α} (hnew : ∀ x y, R' x y → R x y ∨ y = n) (hsink : ∀ y, ¬ R' n y)
    (hpath : TransGen R' x y) (hy : y ≠ n) : TransGen R x y := by
  induction hpath with
  | single hedge => exact .single ((hnew _ _ hedge).resolve_right hy)
  | @tail middle _ _ hedge ih =>
    have hmiddle : middle ≠ n := by
      rintro rfl
      exact hsink _ hedge
    exact (ih hmiddle).tail ((hnew _ _ hedge).resolve_right hy)

theorem Acyclic.add_sink {n : α} (h : Acyclic R) (hnew : ∀ x y, R' x y → R x y ∨ y = n)
    (hsink : ∀ y, ¬ R' n y) : Acyclic R' := by
  intro x hcycle
  have hx : x ≠ n := by
    rintro rfl
    obtain ⟨y, hedge, _⟩ := TransGen.head'_iff.mp hcycle
    exact hsink y hedge
  exact h x (transGen_of_add_sink hnew hsink hcycle hx)

theorem Acyclic.eq_empty_of_predecessor (h : Acyclic R) {U : Finset α}
    (hpred : ∀ x ∈ U, ∃ y ∈ U, R y x) : U = ∅ := by
  have _ : IsTrans U fun y x => TransGen R y x := ⟨fun _ _ _ hab hbc => hab.trans hbc⟩
  have _ : Std.Irrefl fun y x : U => TransGen R (y : α) x := ⟨fun x hx => h x hx⟩
  have hwf : WellFounded fun y x : U => TransGen R (y : α) x := Finite.wellFounded_of_trans_of_irrefl _
  have hnone : ∀ x : U, False := by
    intro x
    induction x using hwf.induction with
    | _ x ih =>
      obtain ⟨y, hy, hedge⟩ := hpred x x.2
      exact ih ⟨y, hy⟩ (.single hedge)
  exact Finset.eq_empty_of_forall_notMem fun x hx => hnone ⟨x, hx⟩

variable {K V : Type} [DecidableEq K] (key : V → K) (refs : V → List K)

/-- The nodes by key; a later node replaces an earlier one under the same key. -/
def byKey (nodes : List V) : Map K V :=
  nodes.foldl (fun m v => m.insert (key v) v) ∅

def countRef (known : Map K V) (child : K) (st : ℤ × Map K (List K)) (ref : K) : ℤ × Map K (List K) :=
  if ref ∈ known then (st.1 + 1, st.2.insert ref (st.2.getD ref [] ++ [child])) else st

def countNode (known : Map K V) (st : Map K ℤ × Map K (List K)) (v : V) : Map K ℤ × Map K (List K) :=
  let counted := (refs v).foldl (countRef known (key v)) (0, st.2)
  (st.1.insert (key v) counted.1, counted.2)

def countNodes (nodes : List V) : Map K ℤ × Map K (List K) :=
  nodes.foldl (countNode key refs (byKey key nodes)) (∅, ∅)

/-- One dependency of a child is met; a child without open dependencies joins the queue. -/
def release (st : Map K ℤ × List K) (child : K) : Map K ℤ × List K :=
  let inDegree := st.1.insert child (st.1.getD child 0 - 1)
  (inDegree, if inDegree.getD child 0 = 0 then st.2 ++ [child] else st.2)

/-- The queue loop. Every round sorts one more node, so the number of nodes is enough fuel. -/
def drain (known : Map K V) (children : Map K (List K)) : ℕ → Map K ℤ → List K → List V → Map K ℤ × List V
  | 0, inDegree, _, sorted => (inDegree, sorted)
  | _ + 1, inDegree, [], sorted => (inDegree, sorted)
  | fuel + 1, inDegree, id :: queue, sorted =>
    let released := (children.getD id []).foldl release (inDegree, queue)
    drain known children fuel released.1 released.2 (sorted ++ (known.lookup id).toList)

/-- The sorted nodes, and the nodes left over with open dependencies. -/
def topoSort (nodes : List V) : List V × List V :=
  let counted := countNodes key refs nodes
  let queue := (nodes.filter fun v => counted.1.getD (key v) 0 = 0).map key
  let drained := drain (byKey key nodes) counted.2 nodes.length counted.1 queue []
  (drained.2,
    if drained.2.length < nodes.length then nodes.filter fun v => 0 < drained.1.getD (key v) 0 else [])

section Counting

variable {key refs}

theorem lookup_foldl_insert (nodes : List V) (m : Map K V) (k : K) (hk : k ∉ nodes.map key) :
    (nodes.foldl (fun m v => m.insert (key v) v) m).lookup k = m.lookup k := by
  induction nodes generalizing m with
  | nil => rfl
  | cons v nodes ih =>
    rw [List.map_cons, List.mem_cons, not_or] at hk
    rw [List.foldl_cons, ih _ hk.2, lookup_insert_of_ne m hk.1]

variable {nodes : List V}

theorem lookup_byKey (hnodup : (nodes.map key).Nodup) {v : V} (hv : v ∈ nodes) :
    (byKey key nodes).lookup (key v) = some v := by
  unfold byKey
  generalize (∅ : Map K V) = m
  induction nodes generalizing m with
  | nil => cases hv
  | cons w nodes ih =>
    rw [List.map_cons, List.nodup_cons] at hnodup
    rw [List.foldl_cons]
    rcases List.mem_cons.mp hv with rfl | hrest
    · rw [lookup_foldl_insert nodes _ _ hnodup.1, lookup_insert]
    · exact ih hnodup.2 hrest _

theorem mem_byKey {k : K} : k ∈ byKey key nodes ↔ k ∈ nodes.map key := by
  have hgen : ∀ m : Map K V,
      k ∈ nodes.foldl (fun m v => m.insert (key v) v) m ↔ k ∈ m ∨ k ∈ nodes.map key := by
    induction nodes with
    | nil => simp
    | cons v nodes ih =>
      intro m
      rw [List.foldl_cons, ih, mem_insert, List.map_cons, List.mem_cons]
      tauto
  simpa [byKey, notMem_empty] using hgen ∅

variable (known : Map K V)

theorem foldl_countRef (child : K) (rs : List K) (st : ℤ × Map K (List K)) :
    (rs.foldl (countRef known child) st).1 = st.1 + rs.countP (· ∈ known) ∧
    ∀ p, (rs.foldl (countRef known child) st).2.getD p []
      = st.2.getD p [] ++ List.replicate (if p ∈ known then rs.count p else 0) child := by
  induction rs generalizing st with
  | nil => simp
  | cons r rs ih =>
    obtain ⟨hdeps, hchildren⟩ := ih (countRef known child st r)
    rw [List.foldl_cons]
    by_cases hr : r ∈ known
    · constructor
      · rw [hdeps, countRef, if_pos hr, List.countP_cons_of_pos (by simpa using hr)]
        push_cast
        ring
      · intro p
        rw [hchildren, countRef, if_pos hr]
        by_cases hp : p = r
        · subst hp
          simp only [getD_insert, hr, if_true, List.count_cons_self, List.append_assoc]
          rw [List.replicate_succ, List.singleton_append]
        · rw [getD_insert_of_ne _ _ _ hp, List.count_cons_of_ne (Ne.symm hp)]
    · constructor
      · rw [hdeps, countRef, if_neg hr, List.countP_cons_of_neg (by simpa using hr)]
      · intro p
        rw [hchildren, countRef, if_neg hr]
        by_cases hp : p = r
        · subst hp
          simp [hr]
        · rw [List.count_cons_of_ne (Ne.symm hp)]

theorem foldl_countNode_children (nodes : List V) (st : Map K ℤ × Map K (List K)) (p : K) :
    (nodes.foldl (countNode key refs known) st).2.getD p []
      = st.2.getD p []
        ++ nodes.flatMap fun v => List.replicate (if p ∈ known then (refs v).count p else 0) (key v) := by
  induction nodes generalizing st with
  | nil => simp
  | cons v nodes ih =>
    rw [List.foldl_cons, ih, countNode, (foldl_countRef known (key v) (refs v) _).2 p, List.flatMap_cons,
      List.append_assoc]

theorem foldl_countNode_inDegree (nodes : List V) (st : Map K ℤ × Map K (List K)) :
    (∀ k ∉ nodes.map key, (nodes.foldl (countNode key refs known) st).1.getD k 0 = st.1.getD k 0) ∧
    ((nodes.map key).Nodup → ∀ v ∈ nodes,
      (nodes.foldl (countNode key refs known) st).1.getD (key v) 0 = (refs v).countP (· ∈ known)) := by
  induction nodes generalizing st with
  | nil => simp
  | cons w nodes ih =>
    obtain ⟨hother, hmember⟩ := ih (countNode key refs known st w)
    rw [List.foldl_cons, List.map_cons]
    constructor
    · intro k hk
      rw [List.mem_cons, not_or] at hk
      rw [hother k hk.2, countNode, getD_insert_of_ne _ _ _ hk.1]
    · intro hnodup v hv
      rw [List.nodup_cons] at hnodup
      rcases List.mem_cons.mp hv with rfl | hrest
      · rw [hother _ hnodup.1, countNode, getD_insert, (foldl_countRef known (key v) (refs v) _).1,
          zero_add]
      · exact hmember hnodup.2 v hrest

theorem count_children (hnodup : (nodes.map key).Nodup) {p : K} (hp : p ∈ nodes.map key) {v : V} (hv : v ∈ nodes) :
    ((countNodes key refs nodes).2.getD p []).count (key v) = (refs v).count p := by
  rw [countNodes, foldl_countNode_children, getD_empty, List.nil_append]
  simp only [if_pos (mem_byKey.mpr hp)]
  clear hp
  induction nodes with
  | nil => cases hv
  | cons w nodes ih =>
    rw [List.map_cons, List.nodup_cons] at hnodup
    rw [List.flatMap_cons, List.count_append, List.count_replicate]
    rcases List.mem_cons.mp hv with rfl | hrest
    · have hzero : (nodes.flatMap fun w => List.replicate ((refs w).count p) (key w)).count (key v) = 0 := by
        rw [List.count_eq_zero, List.mem_flatMap]
        rintro ⟨w, hw, hmem⟩
        exact hnodup.1 (List.mem_map.mpr ⟨w, hw, (List.eq_of_mem_replicate hmem).symm⟩)
      simp [hzero]
    · have hne : key w ≠ key v := by
        intro heq
        exact hnodup.1 (heq ▸ List.mem_map_of_mem hrest)
      rw [ih hnodup.2 hrest]
      simp [hne]

theorem mem_children {p c : K} (hc : c ∈ (countNodes key refs nodes).2.getD p []) : c ∈ nodes.map key := by
  rw [countNodes, foldl_countNode_children, getD_empty, List.nil_append, List.mem_flatMap] at hc
  obtain ⟨v, hv, hmem⟩ := hc
  rw [List.eq_of_mem_replicate hmem]
  exact List.mem_map_of_mem hv

end Counting

end graph
