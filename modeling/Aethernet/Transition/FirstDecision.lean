import Mathlib

namespace transition

variable {ι D : Type}

def Undecided (decision : List ι → Option D) (l : List ι) : Prop :=
  ∀ p, p ≠ [] → p <+: l → decision p = none

/-- The list decides with its last element, and no shorter prefix does. -/
def FirstDecides (decision : List ι → Option D) (l : List ι) (d : D) : Prop :=
  ∃ p x, l = p ++ [x] ∧ Undecided decision p ∧ decision l = some d

/-- What is kept after the inputs `l`. -/
def Outcome (decision : List ι → Option D) (l : List ι) (o : Option D) : Prop :=
  (o = none ∧ Undecided decision l) ∨ ∃ p d, o = some d ∧ p <+: l ∧ FirstDecides decision p d

variable {decision : List ι → Option D} {l l' : List ι}

theorem Undecided.nil : Undecided decision ([] : List ι) :=
  fun _ hne hpre => absurd (List.prefix_nil.mp hpre) hne

theorem Undecided.append (h : Undecided decision l) {x : ι} (hlast : decision (l ++ [x]) = none) :
    Undecided decision (l ++ [x]) := by
  intro p hne hpre
  rcases List.prefix_concat_iff.mp hpre with rfl | hshorter
  · exact hlast
  · exact h p hne hshorter

theorem FirstDecides.ne_nil {d : D} (h : FirstDecides decision l d) : l ≠ [] := by
  obtain ⟨p, x, rfl, -, -⟩ := h
  simp

theorem FirstDecides.decides {d : D} (h : FirstDecides decision l d) : decision l = some d := by
  obtain ⟨p, x, -, -, hdecides⟩ := h
  exact hdecides

theorem FirstDecides.unique {p q : List ι} {d e : D} (hp : FirstDecides decision p d) (hq : FirstDecides decision q e)
    (hpl : p <+: l) (hql : q <+: l) : p = q ∧ d = e := by
  have hshorter : ∀ {p q : List ι} {d e : D}, FirstDecides decision p d → FirstDecides decision q e → p <+: q →
      p = q := by
    rintro p q d e hp ⟨q', x, rfl, hundecided, -⟩ hpre
    rcases List.prefix_concat_iff.mp hpre with heq | hpre'
    · exact heq
    · have hnone := hundecided p hp.ne_nil hpre'
      rw [hp.decides] at hnone
      cases hnone
  have heq : p = q := by
    rcases List.prefix_or_prefix_of_prefix hpl hql with hpq | hqp
    · exact hshorter hp hq hpq
    · exact (hshorter hq hp hqp).symm
  subst heq
  exact ⟨rfl, Option.some.inj (hp.decides.symm.trans hq.decides)⟩

theorem not_decides_of_undecided (hperm : l.Perm l') (hundecided : Undecided decision l')
    (hkeep : ∀ p q, p.Subperm q → q.Subperm l → decision p ≠ none → decision q ≠ none)
    {p : List ι} {d : D} (hpre : p <+: l) (hdecides : FirstDecides decision p d) : False := by
  have hdecided : decision p ≠ none := by
    rw [hdecides.decides]
    exact Option.some_ne_none d
  have hne : l' ≠ [] := by
    intro hnil
    rw [hnil] at hperm
    exact hdecides.ne_nil (List.prefix_nil.mp (hperm.eq_nil ▸ hpre))
  exact hkeep p l' (hpre.sublist.subperm.trans hperm.subperm) hperm.symm.subperm hdecided
    (hundecided l' hne List.prefix_rfl)

theorem Outcome.agree {o o' : Option D} (hperm : l.Perm l') (h : Outcome decision l o)
    (h' : Outcome decision l' o')
    (hkeep : ∀ p q, p.Subperm q → q.Subperm l → decision p ≠ none → decision q ≠ none)
    (hsame : ∀ p q d d', p.Subperm l → q.Subperm l → decision p = some d → decision q = some d' → d = d') :
    o = o' := by
  rcases h with ⟨rfl, hundecided⟩ | ⟨p, d, rfl, hpre, hdecides⟩ <;>
    rcases h' with ⟨rfl, hundecided'⟩ | ⟨p', d', rfl, hpre', hdecides'⟩
  · rfl
  · exact (not_decides_of_undecided hperm.symm hundecided
      (fun p q hpq hq => hkeep p q hpq (hq.trans hperm.symm.subperm)) hpre' hdecides').elim
  · exact (not_decides_of_undecided hperm hundecided' hkeep hpre hdecides).elim
  · rw [hsame p p' d d' hpre.sublist.subperm (hpre'.sublist.subperm.trans hperm.symm.subperm)
      hdecides.decides hdecides'.decides]

end transition
