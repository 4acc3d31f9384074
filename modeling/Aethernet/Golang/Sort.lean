import Aethernet.Golang.Map

instance UInt64.linearOrder : LinearOrder UInt64 where
  le_refl := UInt64.le_refl
  le_trans _ _ _ := UInt64.le_trans
  lt_iff_le_not_ge a b := by
    rw [UInt64.lt_iff_toNat_lt, UInt64.le_iff_toNat_le, UInt64.le_iff_toNat_le]
    omega
  le_antisymm _ _ := UInt64.le_antisymm
  le_total := UInt64.le_total
  toDecidableLE := inferInstance
  toDecidableLT := inferInstance
  toDecidableEq := inferInstance
  min_def _ _ := rfl
  max_def _ _ := rfl

namespace golang

variable {A : Type} [LinearOrder A]

theorem orderedInsert_comm (a b : A) (l : List A) :
    (l.orderedInsert (· ≤ ·) b).orderedInsert (· ≤ ·) a =
      (l.orderedInsert (· ≤ ·) a).orderedInsert (· ≤ ·) b := by
  induction l with
  | nil =>
    rcases lt_trichotomy a b with h | rfl | h
    · simp [h.le, not_le.mpr h]
    · rfl
    · simp [h.le, not_le.mpr h]
  | cons x l ih =>
    by_cases ha : a ≤ x <;> by_cases hb : b ≤ x
    · rcases lt_trichotomy a b with h | rfl | h
      · simp [ha, hb, h.le, not_le.mpr h]
      · rfl
      · simp [ha, hb, h.le, not_le.mpr h]
    · have hab : a < b := lt_of_le_of_lt ha (not_le.mp hb)
      simp [ha, hb, hab.not_ge]
    · have hba : b < a := lt_of_le_of_lt hb (not_le.mp ha)
      simp [ha, hb, hba.not_ge]
    · simp [ha, hb, ih]

instance leftCommutative_orderedInsert : LeftCommutative fun (a : A) (l : List A) => l.orderedInsert (· ≤ ·) a :=
  ⟨fun a b l => orderedInsert_comm a b l⟩

def sortSlice (s : Multiset A) : List A := s.foldr (fun a l => l.orderedInsert (· ≤ ·) a) []

theorem coe_sortSlice (s : Multiset A) : (sortSlice s : Multiset A) = s := by
  induction s using Quot.inductionOn with
  | h l => exact Multiset.coe_eq_coe.mpr (List.perm_insertionSort _ l)

theorem sortSlice_sorted (s : Multiset A) : (sortSlice s).Pairwise (· ≤ ·) := by
  induction s using Quot.inductionOn with
  | h l => exact List.pairwise_insertionSort _ l

/-- A loop that visits each map by increasing keys. -/
def RangeOrder.byKey {K V : Type} [LinearOrder K] : RangeOrder K V where
  visit m := (sortSlice m.keys.val).filterMap fun k => (m.lookup k).map fun v => (k, v)
  perm m := by
    have hkeys : ((m.entries.map fun entry => (entry.1, entry.2)).map Prod.fst).Nodup := by
      rw [Multiset.map_map]
      exact Multiset.nodup_keys.mpr m.nodupKeys
    rw [← Multiset.filterMap_coe, coe_sortSlice]
    refine (Multiset.Nodup.ext (Multiset.Nodup.filterMap _ ?_ m.keys.nodup) (Multiset.Nodup.of_map _ hkeys)).mpr ?_
    · rintro k k' p hk hk'
      obtain ⟨v, -, rfl⟩ := Option.map_eq_some_iff.mp hk
      obtain ⟨v', -, heq⟩ := Option.map_eq_some_iff.mp hk'
      exact (congrArg Prod.fst heq).symm
    · rintro ⟨k, v⟩
      simp only [Multiset.mem_filterMap, Multiset.mem_map, Option.map_eq_some_iff, Prod.mk.injEq]
      constructor
      · rintro ⟨k, -, v, hlookup, rfl, rfl⟩
        exact ⟨⟨k, v⟩, Finmap.lookup_eq_some_iff.mp hlookup, rfl, rfl⟩
      · rintro ⟨⟨k, v⟩, hentry, rfl, rfl⟩
        have hlookup := Finmap.lookup_eq_some_iff.mpr hentry
        exact ⟨k, Finmap.mem_keys.mpr (Finmap.mem_of_lookup_eq_some hlookup), v, hlookup, rfl, rfl⟩

/-- A loop that visits each set by increasing keys. -/
def SetOrder.byKey {K : Type} [LinearOrder K] : SetOrder K where
  visit s := sortSlice s.val
  perm s := coe_sortSlice s.val

end golang
