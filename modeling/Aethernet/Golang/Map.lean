import Mathlib

/-- A Go `map[K]V`. Two maps with the same entries are equal, whatever the order of insertion. -/
abbrev golang.Map (K V : Type) := Finmap fun _ : K => V

/-- An order in which a `for range` loop visits each map. -/
structure golang.RangeOrder (K V : Type) where
  visit : golang.Map K V → List (K × V)
  perm : ∀ m, (visit m : Multiset (K × V)) = m.entries.map fun entry => (entry.1, entry.2)

/-- An order in which a `for range` loop visits each set, a Go `map[K]struct{}`. -/
structure golang.SetOrder (K : Type) where
  visit : Finset K → List K
  perm : ∀ s, (visit s : Multiset K) = s.val

open golang

namespace Finmap

variable {K V M N σ : Type}

/-- The sum of `f` over the values of the map: a `for range` loop that only adds to an accumulator. -/
def sumBy [AddCommMonoid M] (m : Map K V) (f : V → M) : M :=
  (m.entries.map fun entry => f entry.2).sum

def sumOver [AddCommMonoid M] (m : Map K V) (f : K → V → M) : M :=
  (m.entries.map fun entry => f entry.1 entry.2).sum

/-- A `for range` loop that appends to a slice, which comes out in an unspecified order. -/
def collect {A : Type} (m : Map K V) (f : K → V → Option A) : Multiset A :=
  m.entries.filterMap fun entry => f entry.1 entry.2

/-- `len(m)`. -/
def len (m : Map K V) : ℕ := m.entries.card

/-- A `for range` loop over a map. Go leaves the visiting order unspecified; the loop body has to
    commute with itself, so every order ends in the same state. -/
def range (body : σ → K → V → σ)
    (hcomm : ∀ s k₁ v₁ k₂ v₂, body (body s k₁ v₁) k₂ v₂ = body (body s k₂ v₂) k₁ v₁)
    (s : σ) (m : Map K V) : σ :=
  m.foldl body hcomm s

/-- The map after `m[k] = v` for each of these pairs in turn. -/
def ofInserts [DecidableEq K] (l : List (K × V)) : Map K V := l.foldl (fun m p => m.insert p.1 p.2) ∅

/-- The map after `m'[k] = f(v)` for each entry of `m`. -/
def mapValues {W : Type} (f : V → W) (m : Map K V) : Map K W where
  entries := m.entries.map fun entry => ⟨entry.1, f entry.2⟩
  nodupKeys := by
    rw [← Multiset.nodup_keys, Multiset.keys, Multiset.map_map]
    exact Multiset.nodup_keys.mpr m.nodupKeys

/-- `order` is an order in which a `for range` loop may visit the values of the map. -/
def Visits (m : Map K V) (order : List V) : Prop := (order : Multiset V) = m.entries.map (·.2)

variable [DecidableEq K]

/-- `m[k]`, which is `zero` when `k` is not a key. -/
def getD (m : Map K V) (k : K) (zero : V) : V := (m.lookup k).getD zero

/-- `m[k] += x`. -/
def addAt [Zero V] [Add V] (m : Map K V) (k : K) (x : V) : Map K V :=
  m.insert k (m.getD k 0 + x)

theorem insert_induction {motive : Map K V → Prop} (m : Map K V) (hempty : motive ∅)
    (hinsert : ∀ (m : Map K V) k v, k ∉ m → motive m → motive (m.insert k v)) : motive m := by
  induction m using induction_on with
  | H a =>
    induction a with
    | H0 => exact hempty
    | IH k v l hfresh ih =>
      have h := hinsert l.toFinmap k v hfresh ih
      rwa [insert_toFinmap] at h

section Lookup

theorem lookup_mapValues {W : Type} (f : V → W) (m : Map K V) (k : K) :
    (m.mapValues f).lookup k = (m.lookup k).map f := by
  refine Option.ext fun w => ?_
  rw [lookup_eq_some_iff, Option.map_eq_some_iff]
  simp only [mapValues, Multiset.mem_map, lookup_eq_some_iff, Sigma.mk.injEq]
  constructor
  · rintro ⟨⟨k, v⟩, hentry, rfl, hw⟩
    exact ⟨v, hentry, eq_of_heq hw⟩
  · rintro ⟨v, hentry, rfl⟩
    exact ⟨⟨k, v⟩, hentry, rfl, HEq.rfl⟩

theorem getD_mapValues {W : Type} (f : V → W) (m : Map K V) (k : K) (zero : V) :
    (m.mapValues f).getD k (f zero) = f (m.getD k zero) := by
  rw [getD, lookup_mapValues, Option.getD_map, getD]

theorem getD_empty (k : K) (zero : V) : (∅ : Map K V).getD k zero = zero := by
  simp [getD]

theorem getD_insert (m : Map K V) (k : K) (v zero : V) : (m.insert k v).getD k zero = v := by
  simp [getD]

theorem getD_insert_of_ne (m : Map K V) {k k' : K} (v zero : V) (hne : k' ≠ k) :
    (m.insert k v).getD k' zero = m.getD k' zero := by
  simp [getD, lookup_insert_of_ne m hne]

theorem lookup_insert_eq (m : Map K V) (k k' : K) (v : V) :
    (m.insert k v).lookup k' = if k' = k then some v else m.lookup k' := by
  by_cases hk : k' = k
  · subst hk; simp
  · simp [hk, lookup_insert_of_ne m hk]

theorem lookup_insert_cases {m : Map K V} {k k' : K} {v v' : V} (h : (m.insert k v).lookup k' = some v') :
    k' = k ∧ v' = v ∨ k' ≠ k ∧ m.lookup k' = some v' := by
  rw [lookup_insert_eq] at h
  split_ifs at h with hsame
  · exact .inl ⟨hsame, (Option.some.inj h).symm⟩
  · exact .inr ⟨hsame, h⟩

theorem lookup_erase_eq (m : Map K V) (k k' : K) :
    (m.erase k).lookup k' = if k' = k then none else m.lookup k' := by
  by_cases hk : k' = k
  · subst hk; simp
  · simp [hk, lookup_erase_ne hk]

theorem insert_erase_of_lookup {m : Map K V} {k : K} {v : V} (hlookup : m.lookup k = some v) :
    (m.erase k).insert k v = m := by
  refine ext_lookup fun k' => ?_
  by_cases hk : k' = k
  · subst hk; simp [hlookup]
  · simp [hk]

theorem getD_addAt [AddCommMonoid V] (m : Map K V) (k k' : K) (x : V) :
    (m.addAt k x).getD k' 0 = m.getD k' 0 + if k' = k then x else 0 := by
  by_cases hk : k' = k
  · subst hk; simp [addAt, getD_insert]
  · simp [addAt, hk, getD_insert_of_ne]

theorem addAt_comm [AddCommMonoid V] (m : Map K V) (k₁ k₂ : K) (x₁ x₂ : V) :
    (m.addAt k₁ x₁).addAt k₂ x₂ = (m.addAt k₂ x₂).addAt k₁ x₁ := by
  by_cases hk : k₁ = k₂
  · subst hk
    simp [addAt, getD_insert, insert_insert, add_right_comm]
  · simp only [addAt, getD_insert_of_ne m _ _ hk, getD_insert_of_ne m _ _ (Ne.symm hk)]
    exact insert_insert_of_ne m hk

end Lookup

section Sum

variable [AddCommMonoid M] [AddCommMonoid N] {m : Map K V} {k : K}

omit [DecidableEq K] in
@[simp]
theorem sumBy_empty (f : V → M) : (∅ : Map K V).sumBy f = 0 := rfl

theorem sumBy_insert_of_notMem (f : V → M) (v : V) (hfresh : k ∉ m) : sumBy (m.insert k v) f = f v + m.sumBy f := by
  rw [sumBy, sumBy, entries_insert_of_notMem hfresh, Multiset.map_cons, Multiset.sum_cons]

theorem len_insert_of_notMem (v : V) (hfresh : k ∉ m) : len (m.insert k v) = m.len + 1 := by
  rw [len, len, entries_insert_of_notMem hfresh, Multiset.card_cons]

theorem add_sumBy_erase (f : V → M) {v : V} (hlookup : m.lookup k = some v) :
    f v + sumBy (m.erase k) f = m.sumBy f := by
  rw [← sumBy_insert_of_notMem f v notMem_erase_self, insert_erase_of_lookup hlookup]

theorem sumBy_replace (f : V → M) {v : V} (w : V) (hlookup : m.lookup k = some v) :
    f v + sumBy (m.insert k w) f = f w + m.sumBy f := by
  have herase : m.insert k w = (m.erase k).insert k w := by
    refine ext_lookup fun k' => ?_
    rw [lookup_insert_eq, lookup_insert_eq, lookup_erase_eq]
    by_cases hk : k' = k <;> simp [hk]
  rw [herase, sumBy_insert_of_notMem f w notMem_erase_self, ← add_sumBy_erase f hlookup,
    add_left_comm]

omit [DecidableEq K] in
theorem sumBy_add (f g : V → M) (m : Map K V) :
    m.sumBy (fun v => f v + g v) = m.sumBy f + m.sumBy g := by
  simp [sumBy, Multiset.sum_map_add]

omit [DecidableEq K] in
theorem map_sumBy (φ : M →+ N) (f : V → M) (m : Map K V) :
    φ (m.sumBy f) = m.sumBy fun v => φ (f v) := by
  simp [sumBy, map_multiset_sum, Multiset.map_map]

theorem sumBy_congr {f g : V → M} (hsame : ∀ k v, m.lookup k = some v → f v = g v) : m.sumBy f = m.sumBy g := by
  rw [sumBy, sumBy]
  refine congrArg _ (Multiset.map_congr rfl fun entry hentry => ?_)
  exact hsame entry.1 entry.2 (lookup_eq_some_iff.mpr hentry)

omit [DecidableEq K] in
theorem sum_map_collect {A : Type} (m : Map K V) (f : K → V → Option A) (g : A → M) :
    ((m.collect f).map g).sum = m.sumOver fun k v => ((f k v).map g).getD 0 := by
  let h : (Sigma fun _ : K => V) → Option A := fun entry => f entry.1 entry.2
  change ((m.entries.filterMap h).map g).sum = (m.entries.map fun entry => ((h entry).map g).getD 0).sum
  induction m.entries using Multiset.induction with
  | empty => rfl
  | cons entry entries ih =>
    rw [Multiset.map_cons, Multiset.sum_cons, ← ih]
    cases hentry : h entry with
    | none => simp [Multiset.filterMap_cons_none _ _ hentry]
    | some a => simp [Multiset.filterMap_cons_some _ _ _ hentry]

end Sum

section Visits

omit [DecidableEq K] in
theorem Visits.perm {m : Map K V} {order order' : List V} (h : m.Visits order) (h' : m.Visits order') :
    order.Perm order' := Multiset.coe_eq_coe.mp (h.trans h'.symm)

omit [DecidableEq K] in
theorem Visits.sum_map [AddCommMonoid M] {m : Map K V} {order : List V} (h : m.Visits order) (f : V → M) :
    (order.map f).sum = m.sumBy f := by
  rw [← Multiset.sum_coe, ← Multiset.map_coe, h, Multiset.map_map]
  rfl

omit [DecidableEq K] in
theorem Visits.empty : Visits (∅ : Map K V) [] := rfl

theorem Visits.insert {m : Map K V} {order : List V} (h : m.Visits order) {k : K} (v : V) (hfresh : k ∉ m) :
    Visits (m.insert k v) (v :: order) := by
  rw [Visits, entries_insert_of_notMem hfresh, Multiset.map_cons, ← h, Multiset.cons_coe]

omit [DecidableEq K] in
theorem exists_visits (m : Map K V) : ∃ order, m.Visits order :=
  ⟨_, Multiset.coe_toList _⟩

theorem Visits.mem_iff {m : Map K V} {order : List V} (h : m.Visits order) (v : V) :
    v ∈ order ↔ ∃ k, m.lookup k = some v := by
  rw [← Multiset.mem_coe, h, Multiset.mem_map]
  constructor
  · rintro ⟨⟨k, _⟩, hmem, rfl⟩
    exact ⟨k, mem_lookup_iff.mpr hmem⟩
  · rintro ⟨k, hlookup⟩
    exact ⟨⟨k, v⟩, mem_lookup_iff.mp hlookup, rfl⟩

theorem exists_visits_cons {m : Map K V} {k : K} {v : V} (hlookup : m.lookup k = some v) :
    ∃ order, m.Visits (v :: order) := by
  obtain ⟨order, horder⟩ := exists_visits (m.erase k)
  exact ⟨order, insert_erase_of_lookup hlookup ▸ horder.insert v notMem_erase_self⟩

theorem Visits.find?_eq {m : Map K V} {order order' : List V} (h : m.Visits order) (h' : m.Visits order') {p : V → Bool}
    (hunique : ∀ k k' v v', m.lookup k = some v → m.lookup k' = some v' → p v → p v' → k = k') :
    order.find? p = order'.find? p := by
  cases hfind : order.find? p with
  | none =>
    refine (List.find?_eq_none.mpr fun v hv => ?_).symm
    exact List.find?_eq_none.mp hfind v ((h'.perm h).subset hv)
  | some v =>
    have hv := List.mem_of_find?_eq_some hfind
    cases hfind' : order'.find? p with
    | none => exact absurd (List.find?_some hfind) (List.find?_eq_none.mp hfind' v ((h.perm h').subset hv))
    | some v' =>
      obtain ⟨k, hk⟩ := (h.mem_iff v).mp hv
      obtain ⟨k', hk'⟩ := (h'.mem_iff v').mp (List.mem_of_find?_eq_some hfind')
      cases hunique k k' v v' hk hk' (List.find?_some hfind) (List.find?_some hfind')
      rw [← hk, ← hk']

end Visits

section Inserts

theorem ofInserts_append (l : List (K × V)) (p : K × V) :
    ofInserts (l ++ [p]) = (ofInserts l).insert p.1 p.2 := by
  simp [ofInserts, List.foldl_append]

theorem mem_ofInserts (l : List (K × V)) (k : K) : k ∈ ofInserts l ↔ k ∈ l.map Prod.fst := by
  induction l using List.reverseRecOn with
  | nil => simp [ofInserts, notMem_empty]
  | append_singleton l p ih =>
    rw [ofInserts_append, mem_insert, ih, List.map_append, List.mem_append]
    simp [or_comm]

variable {l : List (K × V)}

theorem entries_ofInserts (hnodup : (l.map Prod.fst).Nodup) :
    (ofInserts l).entries = (l.map fun p => ⟨p.1, p.2⟩ : List (Sigma fun _ : K => V)) := by
  induction l using List.reverseRecOn with
  | nil => rfl
  | append_singleton l p ih =>
    rw [List.map_append, List.map_singleton, List.nodup_append_comm, List.singleton_append, List.nodup_cons] at hnodup
    rw [ofInserts_append, entries_insert_of_notMem (mt (mem_ofInserts l p.1).mp hnodup.1), ih hnodup.2, List.map_append,
      ← Multiset.coe_add, add_comm]
    rfl

theorem exists_mem_of_lookup_ofInserts {k : K} {v : V} (h : (ofInserts l).lookup k = some v) : ∃ p ∈ l, p.2 = v := by
  induction l using List.reverseRecOn with
  | nil => simp [ofInserts] at h
  | append_singleton l p ih =>
    rw [ofInserts_append, lookup_insert_eq] at h
    split_ifs at h
    · exact ⟨p, by simp, Option.some.inj h⟩
    · obtain ⟨q, hq, hv⟩ := ih h
      exact ⟨q, List.mem_append_left _ hq, hv⟩

theorem lookup_ofInserts_iff (hnodup : (l.map Prod.fst).Nodup) {k : K} {v : V} :
    (ofInserts l).lookup k = some v ↔ (k, v) ∈ l := by
  induction l using List.reverseRecOn with
  | nil => simp [ofInserts]
  | append_singleton l p ih =>
    rw [List.map_append, List.map_singleton, List.nodup_append_comm, List.singleton_append, List.nodup_cons] at hnodup
    rw [ofInserts_append, lookup_insert_eq, List.mem_append, List.mem_singleton, ← ih hnodup.2]
    by_cases hk : k = p.1
    · subst hk
      have hnone : (ofInserts l).lookup p.1 = none := lookup_eq_none.mpr (mt (mem_ofInserts l p.1).mp hnodup.1)
      simp [hnone, Prod.ext_iff, eq_comm]
    · simp [hk, Prod.ext_iff]

theorem getD_ofInserts_eq (hnodup : (l.map Prod.fst).Nodup) {k : K} {v zero : V}
    (hmem : ∀ x, (k, x) ∈ l ↔ x = v ∧ x ≠ zero) : (ofInserts l).getD k zero = v := by
  rw [getD]
  cases hlookup : (ofInserts l).lookup k with
  | some x => exact ((hmem x).mp ((lookup_ofInserts_iff hnodup).mp hlookup)).1
  | none =>
    by_contra hne
    have hsome := (lookup_ofInserts_iff hnodup).mpr ((hmem v).mpr ⟨rfl, Ne.symm hne⟩)
    rw [hlookup] at hsome
    cases hsome

theorem sumBy_ofInserts_le (f : V → ℕ) (l : List (K × V)) :
    (ofInserts l).sumBy f ≤ (l.map fun p => f p.2).sum := by
  induction l using List.reverseRecOn with
  | nil => exact le_rfl
  | append_singleton l p ih =>
    rw [ofInserts_append, List.map_append, List.sum_append, List.map_singleton, List.sum_singleton]
    cases hlookup : (ofInserts l).lookup p.1 with
    | none =>
      rw [sumBy_insert_of_notMem f p.2 (lookup_eq_none.mp hlookup)]
      omega
    | some v =>
      have hreplace := sumBy_replace f p.2 hlookup
      omega

theorem sumBy_ofInserts_eq_iff (f : V → ℕ) (hpos : ∀ p ∈ l, 0 < f p.2) :
    (ofInserts l).sumBy f = (l.map fun p => f p.2).sum ↔ (l.map Prod.fst).Nodup := by
  induction l using List.reverseRecOn with
  | nil => exact iff_of_true rfl List.nodup_nil
  | append_singleton l p ih =>
    have hle := sumBy_ofInserts_le f l
    have ih := ih fun q hq => hpos q (List.mem_append_left _ hq)
    rw [ofInserts_append, List.map_append, List.sum_append, List.map_singleton, List.sum_singleton,
      List.map_append, List.map_singleton, List.nodup_append_comm, List.singleton_append, List.nodup_cons,
      ← ih, ← mem_ofInserts]
    cases hlookup : (ofInserts l).lookup p.1 with
    | none =>
      have hfresh := lookup_eq_none.mp hlookup
      rw [sumBy_insert_of_notMem f p.2 hfresh]
      constructor
      · intro heq
        exact ⟨hfresh, by omega⟩
      · rintro ⟨-, heq⟩
        omega
    | some v =>
      have hmem := mem_of_lookup_eq_some hlookup
      obtain ⟨q, hq, hv⟩ : ∃ q ∈ l, q.2 = v := exists_mem_of_lookup_ofInserts hlookup
      have hposv : 0 < f v := hv ▸ hpos q (List.mem_append_left _ hq)
      have hreplace := sumBy_replace f p.2 hlookup
      refine iff_of_false (fun heq => ?_) fun hnot => hnot.1 hmem
      omega

end Inserts

section Range

variable {body : σ → K → V → σ}
    {hcomm : ∀ s k₁ v₁ k₂ v₂, body (body s k₁ v₁) k₂ v₂ = body (body s k₂ v₂) k₁ v₁}

theorem range_insert_of_notMem {m : Map K V} {k : K} (v : V) (s : σ) (hfresh : k ∉ m) :
    range body hcomm s (m.insert k v) = range body hcomm (body s k v) m := by
  let _ : RightCommutative fun s (entry : Sigma fun _ : K => V) => body s entry.1 entry.2 :=
    ⟨fun _ _ _ => hcomm _ _ _ _ _⟩
  unfold range Finmap.foldl
  rw [entries_insert_of_notMem hfresh, Multiset.foldl_cons]

theorem range_invariant (hcomm : ∀ s k₁ v₁ k₂ v₂, body (body s k₁ v₁) k₂ v₂ = body (body s k₂ v₂) k₁ v₁)
    {motive : Map K V → σ → Prop} {m : Map K V} {s : σ} (hinit : motive m s)
    (hbody : ∀ (rest : Map K V) k v s, k ∉ rest → motive (rest.insert k v) s → motive rest (body s k v)) :
    motive ∅ (range body hcomm s m) := by
  induction m using insert_induction generalizing s with
  | hempty => exact hinit
  | hinsert m k v hfresh ih =>
    rw [range_insert_of_notMem v s hfresh]
    exact ih (hbody m k v s hfresh hinit)

end Range

end Finmap

namespace golang.SetOrder

variable {K : Type} (order : SetOrder K) (s : Finset K)

theorem nodup_visit : (order.visit s).Nodup := by
  rw [← Multiset.coe_nodup, order.perm]
  exact s.nodup

theorem mem_visit_iff {k : K} : k ∈ order.visit s ↔ k ∈ s := by
  rw [← Multiset.mem_coe, order.perm, Finset.mem_val]

theorem visit_empty : order.visit ∅ = [] :=
  List.eq_nil_iff_forall_not_mem.mpr fun _ hk => Finset.notMem_empty _ ((order.mem_visit_iff ∅).mp hk)

theorem count_visit [DecidableEq K] (k : K) : (order.visit s).count k = if k ∈ s then 1 else 0 := by
  rw [List.Nodup.count (order.nodup_visit s)]
  simp [order.mem_visit_iff]

end golang.SetOrder

namespace golang.RangeOrder

variable {K V M : Type} (order : RangeOrder K V) (m : Map K V)

theorem visit_perm_visit (order' : RangeOrder K V) : (order.visit m).Perm (order'.visit m) :=
  Multiset.coe_eq_coe.mp ((order.perm m).trans (order'.perm m).symm)

theorem nodup_keys : ((order.visit m).map Prod.fst).Nodup := by
  have hkeys : ((order.visit m : Multiset (K × V)).map Prod.fst).Nodup := by
    rw [order.perm, Multiset.map_map]
    exact Multiset.nodup_keys.mpr m.nodupKeys
  rwa [Multiset.map_coe, Multiset.coe_nodup] at hkeys

theorem mem_visit_iff [DecidableEq K] {k : K} {v : V} : (k, v) ∈ order.visit m ↔ m.lookup k = some v := by
  rw [← Multiset.mem_coe, order.perm, Multiset.mem_map, Finmap.lookup_eq_some_iff]
  constructor
  · rintro ⟨⟨k, v⟩, hentry, ⟨⟩⟩
    exact hentry
  · intro hentry
    exact ⟨⟨k, v⟩, hentry, rfl⟩

theorem exists_visit_ne_iff [DecidableEq K] {k : K} {zero : V} :
    (∃ p ∈ order.visit m, p.1 = k ∧ p.2 ≠ zero) ↔ m.getD k zero ≠ zero := by
  constructor
  · rintro ⟨⟨k, v⟩, hvisit, rfl, hne⟩
    rwa [Finmap.getD, (order.mem_visit_iff m).mp hvisit]
  · intro hne
    cases hlookup : m.lookup k with
    | none =>
      rw [Finmap.getD, hlookup] at hne
      exact absurd rfl hne
    | some v =>
      rw [Finmap.getD, hlookup] at hne
      exact ⟨(k, v), (order.mem_visit_iff m).mpr hlookup, rfl, hne⟩

theorem ofInserts_visit [DecidableEq K] : Finmap.ofInserts (order.visit m) = m := by
  refine Finmap.ext_lookup fun k => Option.ext fun v => ?_
  rw [Finmap.lookup_ofInserts_iff (order.nodup_keys m), order.mem_visit_iff]

theorem ofInserts_visit_of_keyed [DecidableEq K] {key : V → K} (hkeyed : ∀ k v, m.lookup k = some v → key v = k) :
    Finmap.ofInserts ((order.visit m).map fun p => (key p.2, p.2)) = m := by
  have hsame : ((order.visit m).map fun p => (key p.2, p.2)) = order.visit m := by
    rw [List.map_congr_left (g := id) fun p hp => ?_, List.map_id]
    exact Prod.ext (hkeyed p.1 p.2 ((order.mem_visit_iff m).mp hp)) rfl
  rw [hsame, ofInserts_visit]

theorem sum_visit [AddCommMonoid M] (f : V → M) : ((order.visit m).map fun p => f p.2).sum = m.sumBy f := by
  rw [← Multiset.sum_coe, ← Multiset.map_coe, order.perm, Multiset.map_map]
  rfl

theorem sum_map_ite_of_notMem [DecidableEq K] [AddCommMonoid M] (f : V → M) {k : K} {l : List (K × V)}
    (h : k ∉ l.map Prod.fst) : (l.map fun p => if p.1 = k then f p.2 else 0).sum = 0 := by
  refine List.sum_eq_zero fun x hx => ?_
  obtain ⟨p, hp, rfl⟩ := List.mem_map.mp hx
  refine if_neg ?_
  rintro rfl
  exact h (List.mem_map_of_mem hp)

theorem sum_map_ite_of_mem [DecidableEq K] [AddCommMonoid M] (f : V → M) {k : K} {v : V} {l : List (K × V)}
    (hnodup : (l.map Prod.fst).Nodup) (h : (k, v) ∈ l) :
    (l.map fun p => if p.1 = k then f p.2 else 0).sum = f v := by
  obtain ⟨before, after, rfl⟩ := List.append_of_mem h
  rw [(List.perm_middle.map _).nodup_iff, List.map_cons, List.nodup_cons, List.map_append, List.mem_append,
    not_or] at hnodup
  rw [List.map_append, List.sum_append, List.map_cons, List.sum_cons, sum_map_ite_of_notMem f hnodup.1.1,
    sum_map_ite_of_notMem f hnodup.1.2, if_pos rfl, zero_add, add_zero]

theorem sum_visit_key [DecidableEq K] [AddCommMonoid M] (f : V → M) {zero : V} (hzero : f zero = 0) (k : K) :
    ((order.visit m).map fun p => if p.1 = k then f p.2 else 0).sum = f (m.getD k zero) := by
  rw [Finmap.getD]
  cases hlookup : m.lookup k with
  | none =>
    rw [Option.getD_none, hzero]
    refine sum_map_ite_of_notMem f fun hmem => ?_
    obtain ⟨⟨k, v⟩, hvisit, rfl⟩ := List.mem_map.mp hmem
    rw [order.mem_visit_iff, hlookup] at hvisit
    cases hvisit
  | some v => exact sum_map_ite_of_mem f (order.nodup_keys m) ((order.mem_visit_iff m).mpr hlookup)

end golang.RangeOrder
