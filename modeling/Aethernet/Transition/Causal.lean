import Aethernet.Transition.Invariant

namespace transition

variable {A σ : Type} {before : A → A → Prop} {E D : Set A} {l l' π π' : List A} {e e' : A}

/-- The event is one of `E`, was not delivered yet, and all that comes before it was. -/
structure Deliverable (before : A → A → Prop) (E : Set A) (l : List A) (e : A) : Prop where
  mem : e ∈ E
  fresh : e ∉ l
  causes : ∀ b ∈ E, before b e → b ∈ l

/-- After `l`, the events are delivered each when it can be. -/
def DeliveryFrom (before : A → A → Prop) (E : Set A) (l π : List A) : Prop :=
  MeetsAlong (fun l e => l ++ [e]) (Deliverable before E) l π

/-- An order of delivery of all events of `E`. -/
def IsOrder (before : A → A → Prop) (E : Set A) (π : List A) : Prop := DeliveryFrom before E [] π ∧ ∀ e ∈ E, e ∈ π

/-- A part of `E` that has, with an event, all that comes before it. -/
structure CausallyClosed (before : A → A → Prop) (E D : Set A) : Prop where
  subset : D ⊆ E
  causes : ∀ e ∈ D, ∀ b ∈ E, before b e → b ∈ D

theorem Deliverable.congr (h : ∀ a, a ∈ l ↔ a ∈ l') (he : Deliverable before E l e) : Deliverable before E l' e where
  mem := he.mem
  fresh := fun hmem => he.fresh ((h e).mpr hmem)
  causes := fun b hb hbefore => (h b).mp (he.causes b hb hbefore)

theorem DeliveryFrom.congr (h : ∀ a, a ∈ l ↔ a ∈ l') (hπ : DeliveryFrom before E l π) : DeliveryFrom before E l' π := by
  induction π generalizing l l' with
  | nil => trivial
  | cons e π ih =>
    refine ⟨hπ.1.congr h, ih ?_ hπ.2⟩
    intro a
    simp [h]

theorem Deliverable.append (he : Deliverable before E l e) (hne : e ≠ e') : Deliverable before E (l ++ [e']) e where
  mem := he.mem
  fresh := by simpa [hne] using he.fresh
  causes := fun b hb hbefore => List.mem_append_left _ (he.causes b hb hbefore)

theorem foldl_append_singleton (l π : List A) : π.foldl (fun l e => l ++ [e]) l = l ++ π := by
  induction π generalizing l with
  | nil => simp
  | cons e π ih => rw [List.foldl_cons, ih, List.append_assoc, List.singleton_append]

theorem deliveryFrom_append : DeliveryFrom before E l (π ++ π') ↔
    DeliveryFrom before E l π ∧ DeliveryFrom before E (l ++ π) π' := by
  unfold DeliveryFrom
  rw [meetsAlong_append_iff, foldl_append_singleton]

theorem DeliveryFrom.deliverable {π₁ π₂ : List A} (hπ : DeliveryFrom before E l (π₁ ++ e :: π₂)) :
    Deliverable before E (l ++ π₁) e :=
  (deliveryFrom_append.mp hπ).2.1

theorem DeliveryFrom.extend (hl : DeliveryFrom before E [] l) (he : Deliverable before E l e) :
    DeliveryFrom before E [] (l ++ [e]) :=
  deliveryFrom_append.mpr ⟨hl, he, trivial⟩

theorem DeliveryFrom.mem_of_mem (hπ : DeliveryFrom before E l π) (he : e ∈ π) : e ∈ E := by
  obtain ⟨π₁, π₂, rfl⟩ := List.append_of_mem he
  exact hπ.deliverable.mem

theorem DeliveryFrom.causes_mem (hπ : DeliveryFrom before E [] π) (he : e ∈ π) {b : A} (hb : b ∈ E)
    (hbefore : before b e) :
    b ∈ π := by
  obtain ⟨π₁, π₂, rfl⟩ := List.append_of_mem he
  exact List.mem_append_left _ (hπ.deliverable.causes b hb hbefore)

theorem DeliveryFrom.nodup (hπ : DeliveryFrom before E [] π) : π.Nodup := by
  induction π using List.reverseRecOn with
  | nil => exact List.nodup_nil
  | append_singleton π e ih =>
    have hfresh : e ∉ π := hπ.deliverable.fresh
    exact (ih hπ.of_append).append (List.nodup_singleton e) (by simpa using hfresh)

theorem DeliveryFrom.pairwise (hπ : DeliveryFrom before E l π) : π.Pairwise fun e e' => ¬before e' e := by
  induction π generalizing l with
  | nil => exact List.Pairwise.nil
  | cons e π ih =>
    refine List.Pairwise.cons (fun e' he' hbefore => ?_) (ih hπ.2)
    obtain ⟨π₁, π₂, rfl⟩ := List.append_of_mem he'
    have hlater : Deliverable before E (l ++ [e] ++ π₁) e' := DeliveryFrom.deliverable hπ.2
    have hearlier : e' ∈ l := hπ.1.causes e' hlater.mem hbefore
    exact hlater.fresh (List.mem_append_left _ (List.mem_append_left _ hearlier))

theorem DeliveryFrom.irrefl (hπ : DeliveryFrom before E l π) (he : e ∈ π) : ¬before e e := by
  obtain ⟨π₁, π₂, rfl⟩ := List.append_of_mem he
  exact fun hbefore => hπ.deliverable.fresh (hπ.deliverable.causes e hπ.deliverable.mem hbefore)

theorem deliveryFrom_of_pairwise {rest : List A} (hmem : ∀ e, e ∈ l ++ rest ↔ e ∈ E) (hnodup : (l ++ rest).Nodup)
    (hirrefl : ∀ e ∈ rest, ¬before e e) (hpairwise : rest.Pairwise fun e e' => ¬before e' e) :
    DeliveryFrom before E l rest := by
  induction rest generalizing l with
  | nil => trivial
  | cons e rest ih =>
    obtain ⟨hfirst, hrest⟩ := List.pairwise_cons.mp hpairwise
    refine ⟨⟨(hmem e).mp (by simp), ?_, fun b hb hbefore => ?_⟩, ?_⟩
    · exact fun he => (List.nodup_append.mp hnodup).2.2 e he e List.mem_cons_self rfl
    · rcases List.mem_append.mp ((hmem b).mpr hb) with hearlier | hlater
      · exact hearlier
      · rcases List.mem_cons.mp hlater with rfl | hlater
        · exact absurd hbefore (hirrefl b List.mem_cons_self)
        · exact absurd hbefore (hfirst b hlater)
    · refine ih ?_ ?_ (fun e' he' => hirrefl e' (List.mem_cons_of_mem e he')) hrest
      · simpa using hmem
      · simpa using hnodup

theorem IsOrder.mem_iff (h : IsOrder before E π) : e ∈ π ↔ e ∈ E := ⟨h.1.mem_of_mem, h.2 e⟩

theorem isOrder_iff : IsOrder before E π ↔
    (∀ e, e ∈ π ↔ e ∈ E) ∧ π.Nodup ∧ (∀ e ∈ π, ¬before e e) ∧ π.Pairwise fun e e' => ¬before e' e := by
  constructor
  · intro h
    exact ⟨fun _ => h.mem_iff, h.1.nodup, fun _ he => h.1.irrefl he, h.1.pairwise⟩
  · rintro ⟨hmem, hnodup, hirrefl, hpairwise⟩
    exact ⟨deliveryFrom_of_pairwise hmem hnodup hirrefl hpairwise, fun e he => (hmem e).mpr he⟩

theorem IsOrder.perm (h : IsOrder before E π) (h' : IsOrder before E π') : π.Perm π' :=
  (List.perm_ext_iff_of_nodup h.1.nodup h'.1.nodup).mpr fun _ => h.mem_iff.trans h'.mem_iff.symm

theorem DeliveryFrom.of_closed (hD : CausallyClosed before E D) (hπ : DeliveryFrom before D l π) :
    DeliveryFrom before E l π := by
  induction π generalizing l with
  | nil => trivial
  | cons e π ih =>
    refine ⟨⟨hD.subset hπ.1.mem, hπ.1.fresh, fun b hb hbefore => ?_⟩, ih hπ.2⟩
    exact hπ.1.causes b (hD.causes e hπ.1.mem b hb hbefore) hbefore

theorem DeliveryFrom.isOrder (hπ : DeliveryFrom before E [] π) : IsOrder before {e | e ∈ π} π :=
  isOrder_iff.mpr ⟨fun _ => Iff.rfl, hπ.nodup, fun _ he => hπ.irrefl he, hπ.pairwise⟩

theorem DeliveryFrom.causallyClosed (hπ : DeliveryFrom before E [] π) : CausallyClosed before E {e | e ∈ π} where
  subset := fun _ he => hπ.mem_of_mem he
  causes := fun _ he _ hb hbefore => hπ.causes_mem he hb hbefore

section Convergence

variable {step : σ → A → σ} {s : σ}

/-- Any two events that can be delivered next have the same effect in either order. -/
def CommuteNext (before : A → A → Prop) (E : Set A) (step : σ → A → σ) (s : σ) : Prop :=
  ∀ l e e', DeliveryFrom before E [] l → Deliverable before E l e → Deliverable before E l e' →
    step (step (l.foldl step s) e) e' = step (step (l.foldl step s) e') e

theorem CommuteNext.foldl_move (hcomm : CommuteNext before E step s) {π₁ π₂ : List A} (hl : DeliveryFrom before E [] l)
    (he : Deliverable before E l e) (hπ : DeliveryFrom before E l (π₁ ++ e :: π₂)) :
    DeliveryFrom before E l (e :: (π₁ ++ π₂)) ∧
      (π₁ ++ e :: π₂).foldl step (l.foldl step s) = (e :: (π₁ ++ π₂)).foldl step (l.foldl step s) := by
  induction π₁ generalizing l with
  | nil => exact ⟨hπ, rfl⟩
  | cons x π₁ ih =>
    have hx : Deliverable before E l x := hπ.1
    have hne : e ≠ x := by
      rintro rfl
      exact (deliveryFrom_append.mp hπ).2.1.fresh (by simp)
    obtain ⟨hdelivery, hfold⟩ := ih (hl.extend hx) (he.append hne) hπ.2
    have hswap : ∀ a, a ∈ l ++ [x] ++ [e] ↔ a ∈ l ++ [e] ++ [x] := by
      intro a
      simp only [List.mem_append, List.mem_singleton]
      tauto
    refine ⟨⟨he, hx.append hne.symm, DeliveryFrom.congr hswap hdelivery.2⟩, ?_⟩
    simp only [List.foldl_append, List.foldl_cons, List.foldl_nil, List.cons_append] at hfold ⊢
    rw [hfold, hcomm l x e hl hx he]

theorem CommuteNext.foldl_eq (hcomm : CommuteNext before E step s) (hl : DeliveryFrom before E [] l)
    (hπ : DeliveryFrom before E l π) (hπ' : DeliveryFrom before E l π') (hperm : π.Perm π') :
    π.foldl step (l.foldl step s) = π'.foldl step (l.foldl step s) := by
  induction π' generalizing l π with
  | nil => rw [hperm.eq_nil]
  | cons e π' ih =>
    obtain ⟨π₁, π₂, rfl⟩ := List.append_of_mem (hperm.mem_iff.mpr List.mem_cons_self)
    obtain ⟨hdelivery, hfold⟩ := hcomm.foldl_move hl hπ'.1 hπ
    have hrest := ih (hl.extend hπ'.1) hdelivery.2 hπ'.2 (List.perm_middle.symm.trans hperm).cons_inv
    have hstate : (l ++ [e]).foldl step s = step (l.foldl step s) e := by simp
    rw [hstate] at hrest
    rw [hfold, List.foldl_cons, List.foldl_cons, hrest]

theorem forall_closed_foldl_eq_iff :
    (∀ D, CausallyClosed before E D → ∀ π π', IsOrder before D π → IsOrder before D π' →
        π.foldl step s = π'.foldl step s) ↔ CommuteNext before E step s := by
  constructor
  · intro hconverges l e e' hl he he'
    by_cases heq : e = e'
    · rw [heq]
    · have hfirst := (hl.extend he).extend (he'.append (Ne.symm heq))
      have hsecond := (hl.extend he').extend (he.append heq)
      have hsame : {a | a ∈ l ++ [e'] ++ [e]} = {a | a ∈ l ++ [e] ++ [e']} := by
        ext a
        simp only [Set.mem_ofPred_eq, List.mem_append, List.mem_singleton]
        tauto
      have hfold := hconverges _ hfirst.causallyClosed _ _ hfirst.isOrder (hsame ▸ hsecond.isOrder)
      simpa using hfold
  · intro hcomm D hD π π' hπ hπ'
    exact hcomm.foldl_eq (l := []) trivial (hπ.1.of_closed hD) (hπ'.1.of_closed hD) (hπ.perm hπ')

end Convergence

end transition
