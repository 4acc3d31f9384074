import Mathlib

namespace graph

open Relation

variable {K : Type} [DecidableEq K]

def enqueue (st : Finset K × List K) (k : K) : Finset K × List K :=
  if k ∈ st.1 then st else (insert k st.1, st.2 ++ [k])

/-- The search, one round per node taken from the queue. -/
def search (next : K → List K) (target : K) : ℕ → Finset K × List K → Bool
  | 0, _ => false
  | _ + 1, (_, []) => false
  | fuel + 1, (seen, cur :: queue) =>
    if cur = target then true else search next target fuel ((next cur).foldl enqueue (seen, queue))

/-- The nodes in the order in which they are taken from the queue, unless the rounds run out. -/
def collect (next : K → List K) : ℕ → Finset K × List K → Option (List K)
  | _, (_, []) => some []
  | 0, (_, _ :: _) => none
  | fuel + 1, (seen, cur :: queue) =>
    (collect next fuel ((next cur).foldl enqueue (seen, queue))).map (cur :: ·)

/-- There is an edge from `a` to `b`. -/
def Step (next : K → List K) (a b : K) : Prop := b ∈ next a

/-- A path leads to the node from one of the sources. -/
def Reachable (next : K → List K) (sources : List K) (k : K) : Prop :=
  ∃ source ∈ sources, ReflTransGen (Step next) source k

/-- Where the search is: what was seen is reachable, what waits was seen, and what was seen and does not wait
    has had its neighbours seen. -/
structure Searching (next : K → List K) (sources : List K) (st : Finset K × List K) : Prop where
  started : ∀ k ∈ sources, k ∈ st.1
  reached : ∀ k ∈ st.1, Reachable next sources k
  queued : ∀ k ∈ st.2, k ∈ st.1
  nodup : st.2.Nodup
  done : ∀ k ∈ st.1, k ∉ st.2 → ∀ b ∈ next k, b ∈ st.1

variable {next : K → List K} {target cur k : K} {seen : Finset K} {sources queue ks : List K} {st : Finset K × List K}

theorem mem_enqueue_seen {a : K} : a ∈ (enqueue st k).1 ↔ a ∈ st.1 ∨ a = k := by
  unfold enqueue
  split_ifs with hseen
  · exact ⟨.inl, fun h => h.elim id fun heq => heq ▸ hseen⟩
  · exact Finset.mem_insert.trans or_comm

theorem mem_foldl_enqueue_seen {a : K} : a ∈ (ks.foldl enqueue st).1 ↔ a ∈ st.1 ∨ a ∈ ks := by
  induction ks generalizing st with
  | nil => simp
  | cons k ks ih => rw [List.foldl_cons, ih, mem_enqueue_seen, List.mem_cons, or_assoc]

/-- What holds while neighbours are queued: the queue and the nodes seen grow together. -/
structure Expanding (st st' : Finset K × List K) : Prop where
  queue : ∀ k, k ∈ st'.2 ↔ k ∈ st.2 ∨ k ∈ st'.1 ∧ k ∉ st.1
  nodup : st'.2.Nodup
  grows : st'.1.card + st.2.length = st.1.card + st'.2.length

theorem Expanding.enqueue {st' : Finset K × List K} (h : Expanding st st') (hsub : ∀ k ∈ st.1, k ∈ st'.1)
    (hqueued : ∀ k ∈ st.2, k ∈ st.1) : Expanding st (enqueue st' k) := by
  unfold graph.enqueue
  split_ifs with hseen
  · exact h
  · have hnew : k ∉ st.1 := fun hk => hseen (hsub k hk)
    have hfresh : k ∉ st'.2 := by
      rw [h.queue k]
      exact fun hk => hk.elim (fun hold => hnew (hqueued k hold)) fun hold => hseen hold.1
    refine ⟨fun a => ?_, ?_, ?_⟩
    · have hcur : a = k → a ∉ st.1 := fun heq => heq ▸ hnew
      simp only [List.mem_append, List.mem_singleton, Finset.mem_insert, h.queue a]
      tauto
    · exact List.Nodup.append h.nodup (List.nodup_singleton k) (by simpa using hfresh)
    · have hgrows := h.grows
      rw [Finset.card_insert_of_notMem hseen, List.length_append, List.length_singleton]
      omega

theorem expanding_foldl (hnodup : st.2.Nodup) (hqueued : ∀ k ∈ st.2, k ∈ st.1) :
    Expanding st (ks.foldl enqueue st) := by
  have hstart : Expanding st st := ⟨fun k => by simp, hnodup, rfl⟩
  suffices h : ∀ st', Expanding st st' → (∀ k ∈ st.1, k ∈ st'.1) → Expanding st (ks.foldl enqueue st') from
    h st hstart fun _ hk => hk
  induction ks with
  | nil => exact fun st' h _ => h
  | cons k ks ih =>
    intro st' h hsub
    exact ih _ (h.enqueue hsub hqueued) fun a ha => mem_enqueue_seen.mpr (.inl (hsub a ha))

theorem Searching.expanding (h : Searching next sources (seen, cur :: queue)) :
    Expanding (seen, queue) ((next cur).foldl enqueue (seen, queue)) :=
  expanding_foldl (List.nodup_cons.mp h.nodup).2 fun k hk => h.queued k (List.mem_cons_of_mem cur hk)

theorem searching_sources : Searching next sources (sources.foldl enqueue (∅, [])) := by
  have hexpand : Expanding (∅, []) (sources.foldl enqueue (∅, [])) := expanding_foldl List.nodup_nil nofun
  have hseen : ∀ k, k ∈ (sources.foldl enqueue (∅, [])).1 ↔ k ∈ sources := by simp [mem_foldl_enqueue_seen]
  refine ⟨fun k hk => (hseen k).mpr hk, fun k hk => ⟨k, (hseen k).mp hk, .refl⟩, fun k hk => ?_, hexpand.nodup,
    fun k hk hnot => ?_⟩
  · exact ((hexpand.queue k).mp hk).elim nofun And.left
  · exact absurd ((hexpand.queue k).mpr (.inr ⟨hk, Finset.notMem_empty k⟩)) hnot

theorem Searching.expand (h : Searching next sources (seen, cur :: queue)) :
    Searching next sources ((next cur).foldl enqueue (seen, queue)) := by
  have hexpand := h.expanding
  refine ⟨fun k hk => mem_foldl_enqueue_seen.mpr (.inl (h.started k hk)), fun k hk => ?_, fun k hk => ?_,
    hexpand.nodup, fun k hk hnot => ?_⟩
  · obtain hk | hk := mem_foldl_enqueue_seen.mp hk
    · exact h.reached k hk
    · obtain ⟨source, hsource, hpath⟩ := h.reached cur (h.queued cur List.mem_cons_self)
      exact ⟨source, hsource, hpath.tail hk⟩
  · obtain hk | hk := (hexpand.queue k).mp hk
    · exact mem_foldl_enqueue_seen.mpr (.inl (h.queued k (List.mem_cons_of_mem cur hk)))
    · exact hk.1
  · rw [hexpand.queue, not_or, not_and_not_right] at hnot
    by_cases hcur : k = cur
    · exact fun b hb => mem_foldl_enqueue_seen.mpr (.inr (hcur ▸ hb))
    · have hdone := h.done k (hnot.2 hk) (List.not_mem_cons_of_ne_of_not_mem hcur hnot.1)
      exact fun b hb => mem_foldl_enqueue_seen.mpr (.inl (hdone b hb))

omit [DecidableEq K] in
theorem Searching.exhausted (h : Searching next sources (seen, [])) : k ∈ seen ↔ Reachable next sources k := by
  refine ⟨h.reached k, ?_⟩
  rintro ⟨source, hsource, hpath⟩
  induction hpath with
  | refl => exact h.started source hsource
  | tail _ hstep ih => exact h.done _ ih List.not_mem_nil _ hstep

/-- With as many rounds left as nodes are left to take, each node that is reachable and was not taken is collected
    once. -/
theorem Searching.collect {nodes : Finset K} {fuel : ℕ} (h : Searching next sources st)
    (hsub : ∀ k ∈ st.1, k ∈ nodes) (hclosed : ∀ k ∈ nodes, ∀ b ∈ next k, b ∈ nodes)
    (hfuel : nodes.card + st.2.length ≤ fuel + st.1.card) :
    ∃ result, collect next fuel st = some result ∧ result.Nodup ∧
      ∀ k, k ∈ result ↔ Reachable next sources k ∧ (k ∈ st.1 → k ∈ st.2) := by
  obtain ⟨seen, queue⟩ := st
  induction fuel generalizing seen queue with
  | zero =>
    have hcard : seen.card ≤ nodes.card := Finset.card_le_card hsub
    obtain rfl : queue = [] := List.length_eq_zero_iff.mp (by simp only at hfuel; omega)
    exact ⟨[], rfl, List.nodup_nil, fun k => by simp [← h.exhausted]⟩
  | succ fuel ih =>
    cases queue with
    | nil => exact ⟨[], rfl, List.nodup_nil, fun k => by simp [← h.exhausted]⟩
    | cons cur queue =>
      have hexpand := h.expanding
      have hseen : cur ∈ seen := h.queued cur List.mem_cons_self
      have hfresh := (List.nodup_cons.mp h.nodup).1
      have hgrows := hexpand.grows
      simp only [List.length_cons] at hfuel hgrows
      have hinside : ∀ k ∈ ((next cur).foldl enqueue (seen, queue)).1, k ∈ nodes := fun k hk =>
        (mem_foldl_enqueue_seen.mp hk).elim (hsub k) (hclosed cur (hsub cur hseen) k)
      obtain ⟨result, hresult, hnodup, hmem⟩ := ih _ _ h.expand hinside (by dsimp only; omega)
      have hkept : ∀ k ∈ seen, k ∈ ((next cur).foldl enqueue (seen, queue)).1 :=
        fun k hk => mem_foldl_enqueue_seen.mpr (.inl hk)
      refine ⟨cur :: result, by rw [graph.collect, hresult]; rfl, List.nodup_cons.mpr ⟨?_, hnodup⟩, fun k => ?_⟩
      · rw [hmem, hexpand.queue]
        have hcur := hkept cur hseen
        tauto
      · have hcur : k = cur → Reachable next sources k := fun heq => heq ▸ h.reached cur hseen
        have hold := hkept k
        have hqueued := h.queued k
        rw [List.mem_cons, hmem, hexpand.queue, List.mem_cons]
        tauto

theorem search_iff_mem {fuel : ℕ} {result : List K} (hresult : collect next fuel st = some result) :
    search next target fuel st = true ↔ target ∈ result := by
  induction fuel generalizing st result with
  | zero =>
    obtain ⟨seen, _ | _⟩ := st
    · cases hresult
      simp [search]
    · cases hresult
  | succ fuel ih =>
    obtain ⟨seen, _ | ⟨cur, queue⟩⟩ := st
    · cases hresult
      simp [search]
    · obtain ⟨rest, hrest, rfl⟩ := Option.map_eq_some_iff.mp hresult
      rw [search, List.mem_cons, ← ih hrest]
      by_cases hcur : cur = target
      · simp [hcur]
      · simp [hcur, Ne.symm hcur]

section Sources

variable (nodes : Finset K) {fuel : ℕ}

theorem collect_sources (hsources : ∀ k ∈ sources, k ∈ nodes) (hclosed : ∀ k ∈ nodes, ∀ b ∈ next k, b ∈ nodes)
    (hfuel : nodes.card ≤ fuel) :
    ∃ result, collect next fuel (sources.foldl enqueue (∅, [])) = some result ∧ result.Nodup ∧
      ∀ k, k ∈ result ↔ Reachable next sources k := by
  have hstart : Searching next sources (sources.foldl enqueue (∅, [])) := searching_sources
  have hexpand : Expanding (∅, []) (sources.foldl enqueue (∅, [])) := expanding_foldl List.nodup_nil nofun
  have hgrows := hexpand.grows
  simp only [Finset.card_empty, List.length_nil] at hgrows
  obtain ⟨result, hresult, hnodup, hmem⟩ :=
    hstart.collect (fun k hk => hsources k (by simpa [mem_foldl_enqueue_seen] using hk)) hclosed
      (by omega : nodes.card + _ ≤ fuel + _)
  refine ⟨result, hresult, hnodup, fun k => (hmem k).trans (and_iff_left fun hk => ?_)⟩
  exact (hexpand.queue k).mpr (.inr ⟨hk, Finset.notMem_empty k⟩)

theorem search_iff {start : K} (hstart : start ∈ nodes) (hclosed : ∀ k ∈ nodes, ∀ b ∈ next k, b ∈ nodes)
    (hfuel : nodes.card ≤ fuel) :
    search next target fuel ({start}, [start]) = true ↔ ReflTransGen (Step next) start target := by
  have hone : [start].foldl enqueue (∅, []) = (({start}, [start]) : Finset K × List K) := by simp [enqueue]
  have hsources : ∀ k ∈ [start], k ∈ nodes := by simpa using hstart
  obtain ⟨result, hresult, -, hmem⟩ := collect_sources nodes hsources hclosed hfuel
  rw [hone] at hresult
  rw [search_iff_mem hresult, hmem]
  simp [Reachable]

end Sources

end graph
