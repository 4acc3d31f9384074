import Aethernet.Golang.Map

open golang Finmap

namespace transition

abbrev Seen (K T : Type) := Map K T

namespace Seen

variable {K T : Type} [DecidableEq K] {s : Seen K T} {key k : K} {t now : T}

def mark (key : K) (now : T) (s : Seen K T) : Bool × Seen K T :=
  if key ∈ s then (true, s) else (false, s.insert key now)

variable (stale : T → Bool) (kept : Seen K T)

def drop (key : K) (t : T) : Seen K T :=
  if stale t then kept.erase key else kept

theorem drop_comm (k₁ : K) (t₁ : T) (k₂ : K) (t₂ : T) :
    drop stale (drop stale kept k₁ t₁) k₂ t₂ = drop stale (drop stale kept k₂ t₂) k₁ t₁ := by
  unfold drop
  split_ifs
  · exact erase_erase
  all_goals rfl

def purge (s : Seen K T) : Seen K T := s.range (drop stale) (drop_comm stale) s

theorem lookup_drop :
    (drop stale kept key t).lookup k = if k = key ∧ stale t = true then none else kept.lookup k := by
  unfold drop
  split_ifs with hstale hkey hkey
  · rw [hkey.1, lookup_erase]
  · exact lookup_erase_ne fun heq => hkey ⟨heq, hstale⟩
  · exact absurd hkey.2 hstale
  · rfl

/-- How far the pass has come with `k`: it has been filtered once it is not among what is left to visit. -/
structure Purging (stale : T → Bool) (s : Seen K T) (k : K) (rest kept : Seen K T) : Prop where
  rest_sub : ∀ t, rest.lookup k = some t → s.lookup k = some t
  kept_eq : kept.lookup k = if k ∈ rest then s.lookup k else (s.lookup k).filter fun t => !stale t

theorem Purging.visit {stale : T → Bool} {rest kept : Seen K T} (hfresh : key ∉ rest)
    (h : Purging stale s k (rest.insert key t) kept) : Purging stale s k rest (drop stale kept key t) := by
  by_cases hk : k = key
  · subst hk
    have hs : s.lookup k = some t := h.rest_sub t (lookup_insert rest)
    have hkept : kept.lookup k = some t := by rw [h.kept_eq, if_pos (mem_insert.mpr (.inl rfl)), hs]
    refine ⟨fun t' ht' => absurd (mem_of_lookup_eq_some ht') hfresh, ?_⟩
    rw [lookup_drop, if_neg hfresh, hs, hkept]
    cases hstale : stale t <;> simp [Option.filter, hstale]
  · have hrest : (rest.insert key t).lookup k = rest.lookup k := lookup_insert_of_ne rest hk
    refine ⟨fun t' ht' => h.rest_sub t' (hrest.trans ht'), ?_⟩
    rw [lookup_drop, if_neg fun hboth => hk hboth.1, h.kept_eq]
    simp [mem_insert, hk]

theorem lookup_purge : (s.purge stale).lookup k = (s.lookup k).filter fun t => !stale t := by
  have hinit : Purging stale s k s s := by
    refine ⟨fun _ h => h, ?_⟩
    split_ifs with hmem
    · rfl
    · rw [lookup_eq_none.mpr hmem]
      rfl
  have hdone := range_invariant (drop_comm stale) hinit fun _ _ _ _ hfresh h => h.visit hfresh
  exact hdone.kept_eq

theorem lookup_mark : (s.mark key now).2.lookup k = if k = key ∧ key ∉ s then some now else s.lookup k := by
  unfold mark
  split_ifs with hmem hnew hnew
  · exact absurd hmem hnew.2
  · rfl
  · rw [hnew.1, lookup_insert]
  · exact lookup_insert_of_ne s fun heq => hnew ⟨heq, hmem⟩

theorem lookup_mark_of_some (h : s.lookup k = some t) : (s.mark key now).2.lookup k = some t := by
  rw [lookup_mark, if_neg, h]
  rintro ⟨rfl, hfresh⟩
  exact hfresh (mem_of_lookup_eq_some h)

end Seen

end transition
