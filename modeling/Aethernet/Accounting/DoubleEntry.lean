import Aethernet.Golang.Map

open golang

namespace accounting

variable {K V A : Type} [DecidableEq K] [DecidableEq A]

def credits (target : V → A) (amount : V → ℤ) (book : Map K V) (a : A) : ℤ :=
  book.sumBy fun v => if target v = a then amount v else 0

def debits (source : V → A) (amount : V → ℤ) (book : Map K V) (a : A) : ℤ :=
  book.sumBy fun v => if source v = a then amount v else 0

def Covers (S : Finset A) (source target : V → A) (book : Map K V) : Prop :=
  ∀ k v, book.lookup k = some v → source v ∈ S ∧ target v ∈ S

omit [DecidableEq A] in
theorem Covers.of_insert {S : Finset A} {source target : V → A} {book : Map K V} {k : K} {v : V}
    (hfresh : k ∉ book) (h : Covers S source target (book.insert k v)) : Covers S source target book := by
  intro k' v' hlookup
  refine h k' v' ?_
  rw [Finmap.lookup_insert_of_ne, hlookup]
  rintro rfl
  exact hfresh (Finmap.mem_of_lookup_eq_some hlookup)

theorem sum_credits_sub_debits {S : Finset A} {source target : V → A} (amount : V → ℤ) {book : Map K V}
    (hcovers : Covers S source target book) :
    ∑ a ∈ S, (credits target amount book a - debits source amount book a) = 0 := by
  induction book using Finmap.insert_induction with
  | hempty => simp [credits, debits]
  | hinsert book k v hfresh ih =>
    have hv := hcovers k v (Finmap.lookup_insert book)
    have hrest := ih (hcovers.of_insert hfresh)
    simp only [credits, debits, Finmap.sumBy_insert_of_notMem _ v hfresh] at hrest ⊢
    have hpost : ∑ a ∈ S, ((if target v = a then amount v else 0) - if source v = a then amount v else 0) = 0 := by
      rw [Finset.sum_sub_distrib, Finset.sum_ite_eq, Finset.sum_ite_eq, if_pos hv.2, if_pos hv.1, sub_self]
    calc _ = ∑ a ∈ S, ((if target v = a then amount v else 0) - if source v = a then amount v else 0)
          + ∑ a ∈ S, ((book.sumBy fun v => if target v = a then amount v else 0)
              - book.sumBy fun v => if source v = a then amount v else 0) := by
            rw [← Finset.sum_add_distrib]
            exact Finset.sum_congr rfl fun a _ => by ring
      _ = 0 := by rw [hpost, hrest, add_zero]

end accounting
