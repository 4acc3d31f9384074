import Aethernet.Golang.Errors

namespace golang

/-- A method on a receiver of type `σ` with results `(A, error)`. -/
def Method (σ A : Type) := σ → Except Error A × σ

namespace Method

variable {σ A B : Type}

instance : Monad (Method σ) where
  pure a s := (.ok a, s)
  bind x f s := match x s with
    | (.ok a, s₁) => f a s₁
    | (.error err, s₁) => (.error err, s₁)

instance : LawfulMonad (Method σ) := LawfulMonad.mk' (Method σ)
  (fun x => by
    funext s
    simp only [Functor.map]
    rcases x s with ⟨_ | _, _⟩ <;> rfl)
  (fun _ _ => rfl)
  (fun x _ _ => by
    funext s
    simp only [Bind.bind]
    rcases x s with ⟨_ | _, _⟩ <;> rfl)

variable (err : Error)

/-- Return this error. -/
def fail : Method σ A := fun s => (.error err, s)

def read (f : σ → A) : Method σ A := fun s => (.ok (f s), s)

def write (f : σ → σ) : Method σ Unit := fun s => (.ok (), f s)

variable {τ : Type} (get : σ → τ)

def zoom (set : σ → τ → σ) (x : Method τ A) : Method σ A := fun s =>
  ((x (get s)).1, set s (x (get s)).2)

variable (pre : String)

def wrapError (x : Method σ A) : Method σ A := fun s =>
  match x s with
  | (.ok a, s') => (.ok a, s')
  | (.error err, s') => (.error (.wrap pre err ""), s')

theorem wrapError_snd (x : Method σ A) (s : σ) : (x.wrapError pre s).2 = (x s).2 := by
  unfold wrapError
  rcases x s with ⟨_ | _, _⟩ <;> rfl

def discard (x : Method σ A) : Method σ Unit := fun s => ((x s).1.map fun _ => (), (x s).2)

variable {x : Method σ A} {s s' : σ} {a : A}

theorem discard_of_ok (h : x s = (.ok a, s')) : x.discard s = (.ok (), s') := by
  simp [discard, h, Except.map]

def ignoreError (x : Method σ Unit) : Method σ Unit := fun s => (.ok (), (x s).2)

variable {y : Method σ A} {f : A → Method σ B}

theorem bind_congr_at (h : x s = y s) : (x >>= f) s = (y >>= f) s := by
  simp [Bind.bind, h]

theorem bind_of_ok (h : x s = (.ok a, s')) : (x >>= f) s = f a s' := by
  simp [Bind.bind, h]

theorem bind_of_error {err : Error} (h : x s = (.error err, s')) : (x >>= f) s = (.error err, s') := by
  simp [Bind.bind, h]

theorem read_bind (g : σ → A) (s : σ) : (read g >>= f) s = f (g s) s := rfl

theorem write_bind (g : σ → σ) (f : Unit → Method σ B) (s : σ) : (write g >>= f) s = f () (g s) := rfl

variable {l : List B}

theorem forM_congr {f g : B → Method σ Unit} (h : ∀ b ∈ l, f b = g b) : forM l f = forM l g := by
  induction l with
  | nil => rfl
  | cons b l ih =>
    rw [List.forM_cons, List.forM_cons, h b List.mem_cons_self, ih fun b' hb' => h b' (List.mem_cons_of_mem b hb')]

/-- From a receiver with `P`, a call that returns a value ends with `Q`, and one that returns an error with
    `E`. -/
def Meets (P : σ → Prop) (x : Method σ A) (Q : A → σ → Prop) (E : σ → Prop) : Prop :=
  ∀ s, P s → match x s with
    | (.ok a, s') => Q a s'
    | (.error _, s') => E s'

variable {P : σ → Prop} {E : σ → Prop}

variable {Q : A → σ → Prop}

theorem Meets.intro (hok : ∀ s, P s → ∀ a s', x s = (.ok a, s') → Q a s')
    (herr : ∀ s, P s → ∀ err s', x s = (.error err, s') → E s') : Meets P x Q E := by
  intro s hs
  split
  next heq => exact hok s hs _ _ heq
  next heq => exact herr s hs _ _ heq

variable {R : σ → Prop}

theorem Meets.of_snd (h : ∀ s, P s → R (x s).2) : Meets P x (fun _ => R) R := by
  refine Meets.intro (fun s hs a s' heq => ?_) fun s hs err s' heq => ?_
  all_goals
    have hcall := h s hs
    rwa [heq] at hcall

theorem Meets.of_ok (hx : Meets P x Q E) (hs : P s) (hok : (x s).1 = .ok a) : Q a (x s).2 := by
  have hcall := hx s hs
  split at hcall
  next heq =>
    rw [heq] at hok ⊢
    cases hok
    exact hcall
  next heq =>
    rw [heq] at hok
    cases hok

theorem Meets.of_error (hx : Meets P x Q E) (hs : P s) (hfailed : ∀ a, (x s).1 ≠ .ok a) : E (x s).2 := by
  have hcall := hx s hs
  split at hcall
  next heq => exact absurd (congrArg Prod.fst heq) (hfailed _)
  next heq =>
    rw [heq]
    exact hcall

theorem Meets.trivial (x : Method σ A) : Meets P x (fun _ _ => True) (fun _ => True) := by
  intro s _
  split <;> exact True.intro

theorem Meets.of_imp {P' : σ → Prop} (himp : ∀ s, P' s → P s) (hx : Meets P x Q E) :
    Meets P' x Q E := fun s hs => hx s (himp s hs)

theorem Meets.imp {Q' : A → σ → Prop} {E' : σ → Prop} (hx : Meets P x Q E) (hok : ∀ a s, Q a s → Q' a s)
    (herr : ∀ s, E s → E' s) : Meets P x Q' E' := by
  intro s hs
  have hcall := hx s hs
  split at hcall
  next => exact hok _ _ hcall
  next => exact herr _ hcall

theorem Meets.pure (h : ∀ s, P s → Q a s) : Meets P (pure a) Q E := h

theorem Meets.read {f : σ → A} (h : ∀ s, P s → Q (f s) s) : Meets P (read f) Q E := h

theorem Meets.write {f : σ → σ} {Q : Unit → σ → Prop} (h : ∀ s, P s → Q () (f s)) :
    Meets P (write f) Q E := h

theorem Meets.fail {err : Error} (h : ∀ s, P s → E s) : Meets P (fail err) Q E := h

theorem Meets.bind {R : A → σ → Prop} {Q : B → σ → Prop} (hx : Meets P x R E) (hf : ∀ a, Meets (R a) (f a) Q E) :
    Meets P (x >>= f) Q E := by
  intro s hs
  have hfirst := hx s hs
  simp only [Bind.bind]
  cases hcall : x s with
  | mk r s₁ =>
    rw [hcall] at hfirst
    cases r with
    | ok a => exact hf a s₁ hfirst
    | error err => exact hfirst

variable {set : σ → τ → σ}

theorem Meets.zoom {P E : τ → Prop} {Q : A → τ → Prop} {x : Method τ A} (hget : ∀ s t, get (set s t) = t)
    (hx : Meets P x Q E) :
    Meets (fun s => P (get s)) (x.zoom get set) (fun a s => Q a (get s)) fun s => E (get s) := by
  intro s hs
  have hcall := hx (get s) hs
  unfold Method.zoom
  cases hx' : x (get s) with
  | mk r t =>
    rw [hx'] at hcall
    cases r <;> simpa only [hget] using hcall

theorem Meets.wrapError {pre : String} (hx : Meets P x Q E) : Meets P (x.wrapError pre) Q E := by
  intro s hs
  have hcall := hx s hs
  unfold Method.wrapError
  cases hx' : x s with
  | mk r t =>
    rw [hx'] at hcall
    cases r <;> exact hcall

variable {body : B → Method σ Unit} {motive : List B → σ → Prop}

theorem Meets.loop_of_append
    (hbody : ∀ visited b rest, visited ++ b :: rest = l → Meets (motive visited) (body b)
      (fun _ => motive (visited ++ [b])) E) :
    Meets (motive []) (forM l body) (fun _ => motive l) E := by
  -- the loop over what is left, after any visited elements
  have hloop : ∀ rest visited : List B, visited ++ rest = l →
      Meets (motive visited) (forM rest body) (fun _ => motive (visited ++ rest)) E := by
    intro rest
    induction rest with
    | nil =>
      intro visited _
      rw [List.append_nil]
      exact Meets.pure fun _ hs => hs
    | cons b rest ih =>
      intro visited hsplit
      have hrest := ih (visited ++ [b]) (by rw [List.append_assoc]; exact hsplit)
      rw [List.append_assoc] at hrest
      exact Meets.bind (hbody visited b rest hsplit) fun _ => hrest
  exact hloop l [] rfl

theorem Meets.loop (hbody : ∀ visited b, b ∈ l → Meets (motive visited) (body b) (fun _ => motive (visited ++ [b])) E) :
    Meets (motive []) (forM l body) (fun _ => motive l) E :=
  .loop_of_append fun visited b _ hsplit => hbody visited b (hsplit ▸ List.mem_append_right _ List.mem_cons_self)

/-- Whatever a call returns, it keeps `P`. -/
def Keeps (P : σ → Prop) (x : Method σ A) : Prop := ∀ s, P s → P (x s).2

theorem Keeps.meets (hx : Keeps P x) : Meets P x (fun _ => P) P := Meets.of_snd hx

theorem Meets.holds (hx : Meets P x (fun _ => R) R) (hs : P s) : R (x s).2 := by
  have hcall := hx s hs
  split at hcall
  next heq => rwa [heq]
  next heq => rwa [heq]

theorem Keeps.pure (a : A) : Keeps P (pure a) := fun _ hs => hs

theorem Keeps.read (f : σ → A) : Keeps P (read f) := fun _ hs => hs

theorem Keeps.fail : Keeps P (fail err : Method σ A) := fun _ hs => hs

theorem Keeps.write {f : σ → σ} (h : ∀ s, P s → P (f s)) : Keeps P (write f) := h

theorem Keeps.after (hf : ∀ a, Keeps P (f a)) (hfirst : P (x s).2) : P ((x >>= f) s).2 := by
  simp only [Bind.bind]
  cases hcall : x s with
  | mk r s₁ =>
    rw [hcall] at hfirst
    cases r with
    | ok a => exact hf a s₁ hfirst
    | error err => exact hfirst

theorem Keeps.bind (hx : Keeps P x) (hf : ∀ a, Keeps P (f a)) :
    Keeps P (x >>= f) := fun s hs => Keeps.after hf (hx s hs)

theorem Keeps.ite {c : Prop} [Decidable c] (hx : c → Keeps P x) (hy : ¬ c → Keeps P y) :
    Keeps P (if c then x else y) := by
  by_cases hc : c
  · rw [if_pos hc]
    exact hx hc
  · rw [if_neg hc]
    exact hy hc

theorem Keeps.loop (hbody : ∀ b ∈ l, Keeps P (body b)) : Keeps P (forM l body) := by
  induction l with
  | nil => exact Keeps.pure ()
  | cons b l ih =>
    exact Keeps.bind (hbody b List.mem_cons_self) fun _ => ih fun b' hb' => hbody b' (List.mem_cons_of_mem b hb')

theorem Keeps.zoom {get : σ → τ} {Q : τ → Prop} {x : Method τ A} (hget : ∀ s t, get (set s t) = t) (hx : Keeps Q x) :
    Keeps (fun s => Q (get s)) (x.zoom get set) := by
  intro s hs
  change Q (get (set s _))
  rw [hget]
  exact hx _ hs

theorem Keeps.frame {get : σ → τ} (x : Method τ A) (hset : ∀ s t, P s → P (set s t)) :
    Keeps P (x.zoom get set) := fun s hs => hset s _ hs

theorem Keeps.wrapError {pre : String} (hx : Keeps P x) : Keeps P (x.wrapError pre) := by
  intro s hs
  have hcall := hx s hs
  unfold Method.wrapError
  split
  next heq => rwa [heq] at hcall
  next heq => rwa [heq] at hcall

def CannotFail (x : Method σ Unit) : Prop := ∀ s, (x s).1 = .ok ()

theorem CannotFail.pure : CannotFail (pure () : Method σ Unit) := fun _ => rfl

theorem CannotFail.write (f : σ → σ) : CannotFail (write f) := fun _ => rfl

theorem CannotFail.ite {c : Prop} [Decidable c] {x y : Method σ Unit} (hx : CannotFail x) (hy : CannotFail y) :
    CannotFail (if c then x else y) := by
  split
  · exact hx
  · exact hy

theorem forM_of_cannotFail (hbody : ∀ b ∈ l, CannotFail (body b)) (s : σ) :
    forM l body s = (.ok (), l.foldl (fun s b => (body b s).2) s) := by
  induction l generalizing s with
  | nil => rfl
  | cons b l ih =>
    have hfirst : (body b s).1 = .ok () := hbody b List.mem_cons_self s
    rw [List.forM_cons, List.foldl_cons, ← ih (fun b' hb' => hbody b' (List.mem_cons_of_mem b hb')) (body b s).2]
    simp only [Bind.bind]
    cases hcall : body b s with
    | mk r s₁ =>
      rw [hcall] at hfirst
      subst hfirst
      rfl

theorem Keeps.ignoreError {x : Method σ Unit} (hx : Keeps P x) : Keeps P x.ignoreError := hx

end Method

end golang
