import Mathlib

namespace transition

variable {σ ι : Type}

variable {P : σ → Prop} {s : σ}

theorem invariant_of_step {r : σ → σ → Prop} {s' : σ} (h : Relation.ReflTransGen r s s') (hinit : P s)
    (hstep : ∀ s₁ s₂, r s₁ s₂ → P s₁ → P s₂) : P s' := by
  induction h with
  | refl => exact hinit
  | tail _ hlast ih => exact hstep _ _ hlast ih

/-- Every step of the run meets the condition in the state in which it is taken. -/
def MeetsAlong (step : σ → ι → σ) (condition : σ → ι → Prop) : σ → List ι → Prop
  | _, [] => True
  | s, i :: is => condition s i ∧ MeetsAlong step condition (step s i) is

variable {step : σ → ι → σ} {condition : σ → ι → Prop}

instance MeetsAlong.decidable [∀ s i, Decidable (condition s i)] :
    (s : σ) → (is : List ι) → Decidable (MeetsAlong step condition s is)
  | _, [] => inferInstanceAs (Decidable True)
  | s, i :: is =>
    let _ := MeetsAlong.decidable (step s i) is
    inferInstanceAs (Decidable (condition s i ∧ MeetsAlong step condition (step s i) is))

variable {is : List ι}

theorem MeetsAlong.of_forall (h : ∀ s i, condition s i) : MeetsAlong step condition s is := by
  induction is generalizing s with
  | nil => trivial
  | cons i is ih => exact ⟨h s i, ih⟩

theorem meetsAlong_congr {condition' : σ → ι → Prop} (h : ∀ s, ∀ i ∈ is, condition s i ↔ condition' s i) :
    MeetsAlong step condition s is ↔ MeetsAlong step condition' s is := by
  induction is generalizing s with
  | nil => rfl
  | cons i is ih =>
    exact and_congr (h s i List.mem_cons_self) (ih fun s' i' hi' => h s' i' (List.mem_cons_of_mem i hi'))

theorem invariant_of_meetsAlong (hinit : P s) (hstep : ∀ s i, P s → condition s i → P (step s i))
    (hmeets : MeetsAlong step condition s is) : P (is.foldl step s) := by
  induction is generalizing s with
  | nil => exact hinit
  | cons i is ih => exact ih (hstep s i hinit hmeets.1) hmeets.2

variable {property : σ → ι → Prop}

theorem MeetsAlong.imp (hinit : P s) (hstep : ∀ s i, P s → condition s i → P (step s i))
    (hproperty : ∀ s i, P s → condition s i → property s i) (hmeets : MeetsAlong step condition s is) :
    MeetsAlong step property s is := by
  induction is generalizing s with
  | nil => trivial
  | cons i is ih => exact ⟨hproperty s i hinit hmeets.1, ih (hstep s i hinit hmeets.1) hmeets.2⟩

theorem meetsAlong_iff_of_kept (hinit : P s) (hkept : ∀ s i, P s → property s i → P (step s i))
    (hstep : ∀ s i, P s → (property s i ↔ condition s i)) :
    MeetsAlong step property s is ↔ MeetsAlong step condition s is := by
  induction is generalizing s with
  | nil => rfl
  | cons i is ih =>
    have hfirst := hstep s i hinit
    constructor
    · intro h
      exact ⟨hfirst.mp h.1, (ih (hkept s i hinit h.1)).mp h.2⟩
    · intro h
      have hproperty := hfirst.mpr h.1
      exact ⟨hproperty, (ih (hkept s i hinit hproperty)).mpr h.2⟩

theorem meetsAlong_iff {side : σ → ι → Prop} (hinit : P s)
    (hstep : ∀ s i, P s → side s i → (P (step s i) ↔ condition s i)) (hside : MeetsAlong step side s is) :
    MeetsAlong step (fun s i => P (step s i)) s is ↔ MeetsAlong step condition s is := by
  induction is generalizing s with
  | nil => rfl
  | cons i is ih =>
    have hfirst := hstep s i hinit hside.1
    constructor
    · intro h
      exact ⟨hfirst.mp h.1, (ih h.1 hside.2).mp h.2⟩
    · intro h
      have hkept := hfirst.mpr h.1
      exact ⟨hkept, (ih hkept hside.2).mpr h.2⟩

variable {I : σ → Prop}

theorem meetsAlong_iff_of_invariant (hinit : P s) (hinv : I s) (hkeep : ∀ s i, P s → I s → I (step s i))
    (hstep : ∀ s i, P s → I s → (P (step s i) ↔ condition s i)) :
    MeetsAlong step (fun s i => P (step s i)) s is ↔ MeetsAlong step condition s is :=
  meetsAlong_iff_of_kept (P := fun s => P s ∧ I s) ⟨hinit, hinv⟩ (fun s i h hnext => ⟨hnext, hkeep s i h.1 h.2⟩)
    fun s i h => hstep s i h.1 h.2

theorem meetsAlong_iff_of_inputs {input : ι → Prop} (hinit : P s) (hinv : I s)
    (hkeep : ∀ s i, P s → I s → input i → I (step s i))
    (hstep : ∀ s i, P s → I s → input i → (P (step s i) ↔ condition s i)) (hinputs : ∀ i ∈ is, input i) :
    MeetsAlong step (fun s i => P (step s i)) s is ↔ MeetsAlong step condition s is := by
  induction is generalizing s with
  | nil => rfl
  | cons i is ih =>
    obtain ⟨hi, his⟩ := List.forall_mem_cons.mp hinputs
    have hnext := hkeep s i hinit hinv hi
    have hfirst := hstep s i hinit hinv hi
    constructor
    · intro h
      exact ⟨hfirst.mp h.1, (ih h.1 hnext his).mp h.2⟩
    · intro h
      have hkept := hfirst.mpr h.1
      exact ⟨hkept, (ih hkept hnext his).mpr h.2⟩

variable {js : List ι}

theorem meetsAlong_append_iff : MeetsAlong step condition s (is ++ js) ↔
      MeetsAlong step condition s is ∧ MeetsAlong step condition (is.foldl step s) js := by
  induction is generalizing s with
  | nil => exact (iff_of_eq (true_and _)).symm
  | cons i is ih => exact (and_congr_right fun _ => ih).trans and_assoc.symm

/-- A step of the run has met `P`, and none has met `Q` since. -/
def Since (step : σ → ι → σ) (P Q : σ → ι → Prop) : σ → List ι → Prop
  | _, [] => False
  | s, i :: is => Since step P Q (step s i) is ∨ P s i ∧ MeetsAlong step (fun s j => ¬ Q s j) (step s i) is

instance Since.decidable {P Q : σ → ι → Prop} [∀ s i, Decidable (P s i)] [∀ s i, Decidable (Q s i)] :
    (s : σ) → (is : List ι) → Decidable (Since step P Q s is)
  | _, [] => inferInstanceAs (Decidable False)
  | s, i :: is =>
    let _ := Since.decidable (P := P) (Q := Q) (step s i) is
    inferInstanceAs (Decidable (_ ∨ P s i ∧ MeetsAlong _ _ _ _))

theorem since_concat_iff {P Q : σ → ι → Prop} {j : ι} :
    Since step P Q s (is ++ [j]) ↔ P (is.foldl step s) j ∨ Since step P Q s is ∧ ¬ Q (is.foldl step s) j := by
  induction is generalizing s with
  | nil => simp [Since, MeetsAlong]
  | cons i is ih =>
    rw [List.cons_append, Since, ih, meetsAlong_append_iff, Since]
    simp only [MeetsAlong, and_true, List.foldl_cons]
    tauto


/-- A run in terms of another machine, each step by the inputs that stand for it in the state in which it is taken. -/
def translation {κ : Type} (step : σ → ι → σ) (translate : σ → ι → List κ) : σ → List ι → List κ
  | _, [] => []
  | s, i :: is => translate s i ++ translation step translate (step s i) is

theorem simulation {τ κ : Type} {translate : σ → ι → List κ} {step' : τ → κ → τ} {accepted : τ → κ → Prop}
    {R : σ → τ → Prop} {t : τ} (hinit : R s t)
    (hstep : ∀ s t i, R s t → condition s i → MeetsAlong step' accepted t (translate s i) ∧ R (step s i)
      ((translate s i).foldl step' t))
    (hmeets : MeetsAlong step condition s is) : MeetsAlong step' accepted t (translation step translate s is) ∧
      R (is.foldl step s) ((translation step translate s is).foldl step' t) := by
  induction is generalizing s t with
  | nil => exact ⟨trivial, hinit⟩
  | cons i is ih =>
    obtain ⟨haccepted, hrelated⟩ := hstep s t i hinit hmeets.1
    obtain ⟨haccepted', hrelated'⟩ := ih hrelated hmeets.2
    refine ⟨meetsAlong_append_iff.mpr ⟨haccepted, haccepted'⟩, ?_⟩
    unfold translation
    rw [List.foldl_append]
    exact hrelated'

theorem MeetsAlong.of_append (h : MeetsAlong step condition s (is ++ js)) : MeetsAlong step condition s is :=
  (meetsAlong_append_iff.mp h).1

theorem MeetsAlong.at_append {i : ι} (h : MeetsAlong step condition s (is ++ i :: js)) :
    condition (is.foldl step s) i :=
  (meetsAlong_append_iff.mp h).2.1

theorem forall_moment_iff :
    (∀ before, before <+: is → P (before.foldl step s)) ↔ P s ∧ MeetsAlong step (fun s i => P (step s i)) s is := by
  induction is generalizing s with
  | nil =>
    constructor
    · exact fun h => ⟨h [] List.prefix_rfl, trivial⟩
    · rintro ⟨h, -⟩ before hbefore
      obtain rfl := List.prefix_nil.mp hbefore
      exact h
  | cons i is ih =>
    constructor
    · intro h
      have hrest := ih.mp fun before hbefore => h (i :: before) (List.cons_prefix_cons.mpr ⟨rfl, hbefore⟩)
      exact ⟨h [] List.nil_prefix, hrest.1, hrest.2⟩
    · rintro ⟨hfirst, hnext, hrest⟩ before hbefore
      rcases before with _ | ⟨j, before⟩
      · exact hfirst
      · obtain ⟨rfl, htail⟩ := List.cons_prefix_cons.mp hbefore
        exact ih.mpr ⟨hnext, hrest⟩ before htail

theorem forall_moments_iff {R : σ → σ → Prop} (hrefl : ∀ s, R s s) (htrans : ∀ s₁ s₂ s₃, R s₁ s₂ → R s₂ s₃ → R s₁ s₃) :
    (∀ before between after, is = before ++ between ++ after →
        R (before.foldl step s) ((before ++ between).foldl step s)) ↔
      MeetsAlong step (fun s i => R s (step s i)) s is := by
  induction is generalizing s with
  | nil =>
    refine iff_of_true ?_ trivial
    intro before between after h
    obtain ⟨rfl, rfl, -⟩ : before = [] ∧ between = [] ∧ after = [] := by simpa using h.symm
    exact hrefl s
  | cons i is ih =>
    constructor
    · intro h
      refine ⟨h [] [i] is rfl, ih.mp ?_⟩
      rintro before between after rfl
      exact h (i :: before) between after rfl
    · rintro ⟨hfirst, hrest⟩ before between after h
      have hlater := ih.mpr hrest
      rcases before with _ | ⟨j, before⟩
      · rcases between with _ | ⟨j, between⟩
        · exact hrefl s
        · obtain ⟨rfl, rfl⟩ : i = j ∧ is = between ++ after := by simpa using h
          exact htrans _ _ _ hfirst (hlater [] between after rfl)
      · obtain ⟨rfl, rfl⟩ : i = j ∧ is = before ++ between ++ after := by simpa using h
        exact hlater before between after rfl

theorem forall_update {A : Type} {processes : ℕ → Option A} {i : ℕ} {next : Option A} {P : A → Prop}
    (hothers : ∀ j a, processes j = some a → P a) (hnext : ∀ a, next = some a → P a) :
    ∀ j a, Function.update processes i next j = some a → P a := by
  intro j a h
  by_cases heq : j = i
  · subst heq
    rw [Function.update_self] at h
    exact hnext a h
  · rw [Function.update_of_ne heq] at h
    exact hothers j a h

end transition
