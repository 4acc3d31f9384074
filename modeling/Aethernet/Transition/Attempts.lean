import Mathlib

namespace transition

variable {K V A W : Type}

/-- An attempt at the job `key` with the actions it has left. -/
structure Attempt (K V A : Type) where
  key : K
  verdict : V
  remaining : List A

/-- The running attempts, all attempts begun so far, and the effects of actions so far. -/
structure Progress (K V A W : Type) where
  acting : W → Option (Attempt K V A)
  attempts : List (K × V)
  effects : List (K × A)

/-- What the workers find: which jobs are guarded, in a final state for a verdict, and done. -/
structure Jobs (K V : Type) where
  guarded : K → Prop
  final : K → V → Prop
  done : K → Prop

def Attempt.Committed (safe : A → Prop) (t : Attempt K V A) : Prop := ∀ x ∈ t.remaining, safe x

namespace Progress

variable (safe : A → Prop)

def Committed (p : Progress K V A W) (k : K) : Prop :=
  (∃ x, (k, x) ∈ p.effects) ∨ ∃ w t, p.acting w = some t ∧ t.key = k ∧ t.Committed safe

/-- When an attempt may begin. -/
def MayBegin (jobs : Jobs K V) (p : Progress K V A W) (k : K) (v : V) : Prop :=
  (∀ v', (k, v') ∉ p.attempts) ∨
  jobs.guarded k ∧ ((¬ jobs.done k ∧ ∀ w t, p.acting w = some t → t.key ≠ k) ∨ ∀ v', (k, v') ∈ p.attempts → v' = v)

structure AtMostOnce (jobs : Jobs K V) (p : Progress K V A W) : Prop where
  nodup : p.effects.Nodup
  distinct : ∀ w t, p.acting w = some t → t.remaining.Nodup
  begun : ∀ w t, p.acting w = some t → (t.key, t.verdict) ∈ p.attempts
  logged : ∀ k x, (k, x) ∈ p.effects → ∃ v, (k, v) ∈ p.attempts
  /-- Only guarded jobs are attempted by several workers at once, with one verdict, and one of them is committed. -/
  together : ∀ w w' t t', p.acting w = some t → p.acting w' = some t' → t.key = t'.key → w ≠ w' →
    jobs.guarded t.key ∧ t.verdict = t'.verdict ∧ ¬ (t.Committed safe ∧ t'.Committed safe)
  /-- The effects that are left to an attempt that may have effects did not take place. -/
  ahead : ∀ w t, p.acting w = some t → t.Committed safe ∨ ¬ jobs.guarded t.key →
    ∀ x ∈ t.remaining, (t.key, x) ∉ p.effects
  /-- A guarded job that is committed is final for the attempts that are not. -/
  settled : ∀ k, jobs.guarded k → p.Committed safe k → ∃ v, (k, v) ∈ p.attempts ∧ jobs.final k v ∧
    ∀ w t, p.acting w = some t → t.key = k → ¬ t.Committed safe → t.verdict = v
  /-- A guarded job with effects is done, or its committed attempt is running. -/
  marked : ∀ k x, jobs.guarded k → (k, x) ∈ p.effects →
    jobs.done k ∨ ∃ w t, p.acting w = some t ∧ t.key = k ∧ t.Committed safe

namespace AtMostOnce

variable {safe : A → Prop} {jobs : Jobs K V} {p : Progress K V A W}

theorem initial (jobs : Jobs K V) : AtMostOnce safe jobs (W := W) (A := A) ⟨fun _ => none, [], []⟩ where
  nodup := List.nodup_nil
  distinct := by simp
  begun := by simp
  logged := by simp
  together := by simp
  ahead := by simp
  settled k _ hcommitted := by simp [Committed] at hcommitted
  marked := by simp

theorem frame (h : p.AtMostOnce safe jobs) (jobs' : Jobs K V)
    (hguarded : ∀ k v, (k, v) ∈ p.attempts → (jobs'.guarded k ↔ jobs.guarded k))
    (hfinal : ∀ k v, jobs.guarded k → (k, v) ∈ p.attempts → jobs.final k v → jobs'.final k v)
    (hdone : ∀ k, jobs.done k → jobs'.done k) : p.AtMostOnce safe jobs' where
  nodup := h.nodup
  distinct := h.distinct
  begun := h.begun
  logged := h.logged
  together w w' t t' ht ht' hkey hne := by
    obtain ⟨hg, hv, hnot⟩ := h.together w w' t t' ht ht' hkey hne
    exact ⟨(hguarded _ _ (h.begun w t ht)).mpr hg, hv, hnot⟩
  ahead w t ht hmay := h.ahead w t ht (hmay.imp_right fun hn hg => hn ((hguarded _ _ (h.begun w t ht)).mpr hg))
  settled k hg hcommitted := by
    have hbegun : ∃ v, (k, v) ∈ p.attempts := by
      obtain ⟨x, hx⟩ | ⟨w, t, ht, rfl, -⟩ := hcommitted
      · exact h.logged k x hx
      · exact ⟨_, h.begun w t ht⟩
    obtain ⟨v, hv⟩ := hbegun
    have hg := (hguarded k v hv).mp hg
    obtain ⟨v, hv, hf, hrest⟩ := h.settled k hg hcommitted
    exact ⟨v, hv, hfinal k v hg hv hf, hrest⟩
  marked k x hg hx := by
    obtain ⟨v, hv⟩ := h.logged k x hx
    exact (h.marked k x ((hguarded k v hv).mp hg) hx).imp_left (hdone k)

theorem verdict_of_mayBegin (h : p.AtMostOnce safe jobs) {k : K} {v v' : V} (hmay : MayBegin jobs p k v)
    (hguarded : jobs.guarded k) (hcommitted : p.Committed safe k) (hbegun : (k, v') ∈ p.attempts) : v = v' := by
  obtain hfirst | ⟨-, ⟨hopen, hidle⟩ | hsame⟩ := hmay
  · exact absurd hbegun (hfirst v')
  · obtain ⟨x, hx⟩ | ⟨w, t, ht, hkey, -⟩ := hcommitted
    · obtain hdone | ⟨w, t, ht, hkey, -⟩ := h.marked k x hguarded hx
      · exact absurd hdone hopen
      · exact absurd hkey (hidle w t ht)
    · exact absurd hkey (hidle w t ht)
  · exact (hsame v' hbegun).symm

section Update

variable [DecidableEq W] {w u : W} {t t' s : Attempt K V A} {acting : W → Option (Attempt K V A)}

theorem acting_update (hs : Function.update acting w (some t) u = some s) :
    (u = w ∧ s = t) ∨ (u ≠ w ∧ acting u = some s) := by
  by_cases hu : u = w
  · subst hu
    rw [Function.update_self] at hs
    exact .inl ⟨rfl, (Option.some.inj hs).symm⟩
  · rw [Function.update_of_ne hu] at hs
    exact .inr ⟨hu, hs⟩

theorem acting_clear (hs : Function.update acting w none u = some s) : u ≠ w ∧ acting u = some s := by
  by_cases hu : u = w
  · subst hu
    rw [Function.update_self] at hs
    cases hs
  · rw [Function.update_of_ne hu] at hs
    exact ⟨hu, hs⟩

variable {attempts : List (K × V)} {effects : List (K × A)} {final : K → V → Prop}

/-- What the attempt `t` of the worker `w` needs, next to the attempts of the others, when it is the one that has
    changed. -/
structure Joins (safe : A → Prop) (jobs : Jobs K V) (final : K → V → Prop) (p : Progress K V A W) (w : W)
    (t : Attempt K V A) (attempts : List (K × V)) (effects : List (K × A)) : Prop where
  own : ∀ s, p.acting w = some s → s.key = t.key
  distinct : t.remaining.Nodup
  begun : (t.key, t.verdict) ∈ attempts
  together : ∀ u s, u ≠ w → p.acting u = some s → s.key = t.key →
    jobs.guarded t.key ∧ s.verdict = t.verdict ∧ ¬ (s.Committed safe ∧ t.Committed safe)
  new : ∀ k x, (k, x) ∈ effects → (k, x) ∈ p.effects ∨ k = t.key ∧ (jobs.guarded t.key → t.Committed safe)
  ahead : t.Committed safe ∨ ¬ jobs.guarded t.key → ∀ x ∈ t.remaining, (t.key, x) ∉ effects
  settled : jobs.guarded t.key → t.Committed safe ∨ p.Committed safe t.key → ∃ v, (t.key, v) ∈ attempts ∧
    final t.key v ∧
    (¬ t.Committed safe → t.verdict = v) ∧
    ∀ u s, u ≠ w → p.acting u = some s → s.key = t.key → ¬ s.Committed safe → s.verdict = v
  marked : ∀ s, p.acting w = some s → s.Committed safe → t.Committed safe

theorem update (h : p.AtMostOnce safe jobs) (hjoins : Joins safe jobs final p w t attempts effects)
    (hattempts : ∀ x ∈ p.attempts, x ∈ attempts) (hnodup : effects.Nodup)
    (hfinal : ∀ k v, p.Committed safe k → jobs.final k v → final k v) :
    AtMostOnce safe { jobs with final := final } ⟨Function.update p.acting w (some t), attempts, effects⟩ := by
  refine ⟨hnodup, fun u s hs => ?_, fun u s hs => ?_, fun k x hx => ?_, fun u u' s s' hs hs' hkey hne => ?_,
    fun u s hs hfree x hx => ?_, fun k hguarded hcommitted => ?_, fun k x hguarded hx => ?_⟩
  · obtain ⟨-, rfl⟩ | ⟨-, hold⟩ := acting_update hs
    · exact hjoins.distinct
    · exact h.distinct u s hold
  · obtain ⟨-, rfl⟩ | ⟨-, hold⟩ := acting_update hs
    · exact hjoins.begun
    · exact hattempts _ (h.begun u s hold)
  · obtain hold | ⟨rfl, -⟩ := hjoins.new k x hx
    · obtain ⟨v, hv⟩ := h.logged k x hold
      exact ⟨v, hattempts _ hv⟩
    · exact ⟨_, hjoins.begun⟩
  · obtain ⟨rfl, rfl⟩ | ⟨hu, hold⟩ := acting_update hs <;> obtain ⟨rfl, rfl⟩ | ⟨hu', hold'⟩ := acting_update hs'
    · exact absurd rfl hne
    · obtain ⟨hguarded, hverdict, hnot⟩ := hjoins.together u' s' hu' hold' hkey.symm
      exact ⟨hguarded, hverdict.symm, fun hboth => hnot hboth.symm⟩
    · obtain ⟨hguarded, hverdict, hnot⟩ := hjoins.together u s hu hold hkey
      exact ⟨hkey ▸ hguarded, hverdict, hnot⟩
    · exact h.together u u' s s' hold hold' hkey hne
  · obtain ⟨-, rfl⟩ | ⟨hu, hold⟩ := acting_update hs
    · exact hjoins.ahead hfree x hx
    · intro hmem
      -- a new effect is of a committed attempt, next to which none at its job may have effects
      obtain hmem | ⟨hkey, hsafe⟩ := hjoins.new _ _ hmem
      · exact h.ahead u s hold hfree x hx hmem
      · obtain ⟨hguarded, -, hnot⟩ := hjoins.together u s hu hold hkey
        exact hfree.elim (fun hs => hnot ⟨hs, hsafe hguarded⟩) fun hfree => hfree (hkey ▸ hguarded)
  · have hcommitted : k = t.key ∧ t.Committed safe ∨ p.Committed safe k := by
      obtain ⟨x, hx⟩ | ⟨u, s, hs, rfl, hs'⟩ := hcommitted
      · exact (hjoins.new k x hx).symm.imp (fun hnew => ⟨hnew.1, hnew.2 (hnew.1 ▸ hguarded)⟩) fun hold => .inl ⟨x, hold⟩
      · obtain ⟨-, rfl⟩ | ⟨-, hold⟩ := acting_update hs
        · exact .inl ⟨rfl, hs'⟩
        · exact .inr (.inr ⟨u, s, hold, rfl, hs'⟩)
    by_cases hkey : k = t.key
    · subst hkey
      obtain ⟨v, hv, hf, hown, hrest⟩ := hjoins.settled hguarded (hcommitted.imp_left And.right)
      refine ⟨v, hv, hf, fun u s hs hkey hs' => ?_⟩
      obtain ⟨-, rfl⟩ | ⟨hu, hold⟩ := acting_update hs
      · exact hown hs'
      · exact hrest u s hu hold hkey hs'
    · have hbefore := hcommitted.resolve_left fun hnow => hkey hnow.1
      obtain ⟨v, hv, hf, hrest⟩ := h.settled k hguarded hbefore
      refine ⟨v, hattempts _ hv, hfinal k v hbefore hf, fun u s hs hk hs' => ?_⟩
      obtain ⟨-, rfl⟩ | ⟨-, hold⟩ := acting_update hs
      · exact absurd hk.symm hkey
      · exact hrest u s hold hk hs'
  · obtain hold | ⟨rfl, hsafe⟩ := hjoins.new k x hx
    · refine (h.marked k x hguarded hold).imp_right ?_
      rintro ⟨u, s, hs, hkey, hs'⟩
      by_cases hu : u = w
      · subst hu
        exact ⟨u, t, Function.update_self .., (hjoins.own s hs).symm.trans hkey, hjoins.marked s hs hs'⟩
      · exact ⟨u, s, (Function.update_of_ne hu _ _).trans hs, hkey, hs'⟩
    · exact .inr ⟨w, t, Function.update_self .., rfl, hsafe hguarded⟩

theorem begin (h : p.AtMostOnce safe jobs) (hidle : p.acting w = none) (hdistinct : t.remaining.Nodup)
    (hmay : MayBegin jobs p t.key t.verdict) (hopen : jobs.guarded t.key → ¬ t.Committed safe) :
    AtMostOnce safe jobs
      ⟨Function.update p.acting w (some t), (t.key, t.verdict) :: p.attempts, p.effects⟩ := by
  have hnone : ∀ s, p.acting w ≠ some s := fun s => by simp [hidle]
  refine h.update ⟨fun s hs => absurd hs (hnone s), hdistinct, List.mem_cons_self, fun u s _ hs hkey => ?_,
    fun k x hx => .inl hx, fun hfree x _ hlogged => ?_, fun hguarded hcommitted => ?_, fun s hs => absurd hs (hnone s)⟩
    (fun x hx => List.mem_cons_of_mem _ hx) h.nodup fun _ _ _ hf => hf
  · obtain hfirst | ⟨hguarded, ⟨-, hidle⟩ | hsame⟩ := hmay
    · exact absurd (hkey ▸ h.begun u s hs) (hfirst s.verdict)
    · exact absurd hkey (hidle u s hs)
    · exact ⟨hguarded, hsame s.verdict (hkey ▸ h.begun u s hs), fun hboth => hopen hguarded hboth.2⟩
  · obtain ⟨v, hv⟩ := h.logged _ _ hlogged
    obtain hfirst | ⟨hguarded, -⟩ := hmay
    · exact hfirst v hv
    · exact hfree.elim (hopen hguarded) fun hnot => hnot hguarded
  · have hbefore := hcommitted.resolve_left (hopen hguarded)
    obtain ⟨v, hv, hf, hrest⟩ := h.settled t.key hguarded hbefore
    exact ⟨v, List.mem_cons_of_mem _ hv, hf, fun _ => h.verdict_of_mayBegin hmay hguarded hbefore hv,
      fun u s _ => hrest u s⟩

section Step

variable {x : A} {rest : List A} (h : p.AtMostOnce safe jobs) (ht : p.acting w = some t)
  (hremaining : t.remaining = x :: rest)

include h ht hremaining

/-- The attempt `t` of a worker as it goes on. -/
theorem proceed (hfree : t.Committed safe ∨ ¬ jobs.guarded t.key) {new : List (K × A)}
    (hnew : new = [] ∨ new = [(t.key, x)]) :
    AtMostOnce safe jobs
      ⟨Function.update p.acting w (some { t with remaining := rest }), p.attempts, new ++ p.effects⟩ := by
  have hahead := h.ahead w t ht hfree
  have hdistinct := h.distinct w t ht
  rw [hremaining] at hahead hdistinct
  have hnewKey : ∀ k y, (k, y) ∈ new → k = t.key ∧ y = x := by
    intro k y hy
    obtain rfl | rfl := hnew
    · cases hy
    · simpa using hy
  have hsafe : jobs.guarded t.key → t.Committed safe := fun hguarded => hfree.resolve_right fun hnot => hnot hguarded
  have hsafe' : t.Committed safe → Attempt.Committed safe { t with remaining := rest } := by
    intro hcommitted y hy
    exact hcommitted y (hremaining ▸ List.mem_cons_of_mem x hy)
  refine h.update ⟨fun s hs => ?_, (List.nodup_cons.mp hdistinct).2, h.begun w t ht, fun u s hu hs hkey => ?_,
    fun k y hy => ?_, fun _ y hy => ?_, fun hguarded _ => ?_, fun s hs hs' => ?_⟩ (fun _ hx => hx) ?_ fun _ _ _ hf => hf
  · rw [Option.some.inj (hs.symm.trans ht)]
  · obtain ⟨hguarded, hverdict, hnot⟩ := h.together u w s t hs ht hkey hu
    exact ⟨hkey ▸ hguarded, hverdict, fun hboth => hnot ⟨hboth.1, hsafe (hkey ▸ hguarded)⟩⟩
  · refine (List.mem_append.mp hy).symm.imp_right fun hy => ⟨(hnewKey k y hy).1, fun hguarded =>
      hsafe' (hsafe hguarded)⟩
  · rw [List.mem_append, not_or]
    refine ⟨fun hmem => ?_, hahead y (List.mem_cons_of_mem x hy)⟩
    obtain ⟨-, rfl⟩ := hnewKey _ _ hmem
    exact (List.nodup_cons.mp hdistinct).1 hy
  · obtain ⟨v, hv, hf, hrest⟩ := h.settled t.key hguarded (.inr ⟨w, t, ht, rfl, hsafe hguarded⟩)
    exact ⟨v, hv, hf, fun hs' => absurd (hsafe' (hsafe hguarded)) hs', fun u s _ => hrest u s⟩
  · exact hsafe' (Option.some.inj (hs.symm.trans ht) ▸ hs')
  · obtain rfl | rfl := hnew
    · exact h.nodup
    · exact List.nodup_cons.mpr ⟨hahead x List.mem_cons_self, h.nodup⟩

theorem pass (hguarded : jobs.guarded t.key) (hnot : ¬ t.Committed safe) (final : K → V → Prop)
    (hfinal : ∀ k v, p.Committed safe k → jobs.final k v → final k v)
    (hcommit : Attempt.Committed safe { t with remaining := rest } →
      ¬ p.Committed safe t.key ∧ final t.key t.verdict) :
    AtMostOnce safe { jobs with final := final }
      ⟨Function.update p.acting w (some { t with remaining := rest }), p.attempts, p.effects⟩ := by
  have hdistinct := h.distinct w t ht
  rw [hremaining] at hdistinct
  have hothers : ∀ u s, u ≠ w → p.acting u = some s → s.key = t.key → s.verdict = t.verdict :=
    fun u s hu hs hkey => (h.together u w s t hs ht hkey hu).2.1
  refine h.update ⟨fun s hs => ?_, (List.nodup_cons.mp hdistinct).2, h.begun w t ht, fun u s hu hs hkey => ?_,
    fun k y hy => .inl hy, fun hfree y _ hmem => ?_, fun _ hcommitted => ?_, fun s hs hs' => ?_⟩ (fun _ hx => hx)
    h.nodup hfinal
  · rw [Option.some.inj (hs.symm.trans ht)]
  · exact ⟨hguarded, hothers u s hu hs hkey, fun hboth => (hcommit hboth.2).1 (.inr ⟨u, s, hs, hkey, hboth.1⟩)⟩
  · exact (hcommit (hfree.resolve_right fun hfree => hfree hguarded)).1 (.inl ⟨y, hmem⟩)
  · by_cases hnow : Attempt.Committed safe { t with remaining := rest }
    · exact ⟨t.verdict, h.begun w t ht, (hcommit hnow).2, fun hs' => absurd hnow hs', fun u s hu hs hkey _ =>
        hothers u s hu hs hkey⟩
    · have hbefore := hcommitted.resolve_left hnow
      obtain ⟨v, hv, hf, hrest⟩ := h.settled t.key hguarded hbefore
      exact ⟨v, hv, hfinal _ v hbefore hf, fun _ => hrest w t ht rfl hnot, fun u s _ => hrest u s⟩
  · exact absurd (Option.some.inj (hs.symm.trans ht) ▸ hs') hnot

end Step

theorem retire (h : p.AtMostOnce safe jobs) (ht : p.acting w = some t)
    (hdone : jobs.guarded t.key → t.Committed safe → jobs.done t.key) :
    AtMostOnce safe jobs ⟨Function.update p.acting w none, p.attempts, p.effects⟩ := by
  have hold : ∀ {u s}, Function.update p.acting w none u = some s → p.acting u = some s := fun hs =>
    (acting_clear hs).2
  refine ⟨h.nodup, fun u s hs => h.distinct u s (hold hs), fun u s hs => h.begun u s (hold hs), h.logged,
    fun u u' s s' hs hs' => h.together u u' s s' (hold hs) (hold hs'), fun u s hs => h.ahead u s (hold hs),
    fun k hk hcommitted => ?_, fun k y hk hy => ?_⟩
  · have hbefore : p.Committed safe k := hcommitted.imp_right fun ⟨u, s, hs, hs'⟩ => ⟨u, s, hold hs, hs'⟩
    obtain ⟨v, hv, hf, hrest⟩ := h.settled k hk hbefore
    exact ⟨v, hv, hf, fun u s hs => hrest u s (hold hs)⟩
  · obtain hdone' | ⟨u, s, hs, hkey, hs'⟩ := h.marked k y hk hy
    · exact .inl hdone'
    · by_cases hu : u = w
      · subst hu
        rw [ht] at hs
        cases hs
        subst hkey
        exact .inl (hdone hk hs')
      · exact .inr ⟨u, s, (Function.update_of_ne hu _ _).trans hs, hkey, hs'⟩

end Update

end AtMostOnce

end Progress

end transition
