/-
# Programs that read, write and throw

`Prog ε ρ σ α` is a computation that reads an environment `ρ`, changes a state `σ` and
either returns an `α` or throws an `ε`.  Throwing does not undo what was written, as in
C++.  The file gives the operations, their execution lemmas, and three kinds of rules:

* `Prog.Returns P x`: whatever `x` returns has the property `P`;
* `Prog.Moves R x`: every execution of `x` moves the state along the preorder `R`;
* `Prog.Couples e e' R Q x y`: from related states `x` in `e` and `y` in `e'` throw the same or
  give related results, and related states; `Prog.Agrees e R x` is the case of one program in
  one environment.

All are closed under sequencing, branching and `try … catch`, so that a property of a
whole program is read off its primitive steps.
-/
import Mathlib.Data.List.Basic
import Mathlib.Data.List.Forall2
import Mathlib.Tactic.Common

/-- A computation over an environment `ρ` and a state `σ` that may throw an `ε`. -/
def Prog (ε ρ σ α : Type) : Type := ρ → σ → Except ε α × σ

namespace Prog

variable {ε ρ σ τ α β γ : Type}

/-- Execute a program. -/
def run (x : Prog ε ρ σ α) (e : ρ) (s : σ) : Except ε α × σ := x e s

instance : Monad (Prog ε ρ σ) where
  pure a := fun _ s => (.ok a, s)
  bind x f := fun e s =>
    match x e s with
    | (.ok a, s') => f a e s'
    | (.error err, s') => (.error err, s')

instance : MonadExceptOf ε (Prog ε ρ σ) where
  throw err := fun _ s => (.error err, s)
  tryCatch x h := fun e s =>
    match x e s with
    | (.ok a, s') => (.ok a, s')
    | (.error err, s') => h err e s'

lemma bind_pure_id (x : Prog ε ρ σ α) : (x >>= fun a => pure (id a)) = x := by
  funext e s
  change (match x e s with | (Except.ok a, s') => _ | (Except.error err, s') => _) = x e s
  rcases x e s with ⟨err | a, s'⟩ <;> rfl

lemma bind_bind (x : Prog ε ρ σ α) (f : α → Prog ε ρ σ β) (g : β → Prog ε ρ σ γ) :
    (x >>= f) >>= g = x >>= fun a => f a >>= g := by
  funext e s
  change (match (match x e s with
      | (Except.ok a, s') => f a e s' | (Except.error err, s') => (Except.error err, s')) with
    | (Except.ok b, s') => g b e s' | (Except.error err, s') => (Except.error err, s')) =
    match x e s with
    | (Except.ok a, s') => (f a >>= g) e s' | (Except.error err, s') => (Except.error err, s')
  rcases x e s with ⟨err | a, s'⟩ <;> rfl

instance : LawfulMonad (Prog ε ρ σ) :=
  LawfulMonad.mk' (Prog ε ρ σ) bind_pure_id (fun _ _ => rfl) bind_bind

/-- Change the state. -/
def modify (f : σ → σ) : Prog ε ρ σ Unit := fun _ s => (.ok (), f s)

/-- A result computed elsewhere. -/
def ofExcept (x : Except ε α) : Prog ε ρ σ α := fun _ s => (x, s)

/-! ## Execution -/

@[simp] lemma run_pure (a : α) (e : ρ) (s : σ) :
    (pure a : Prog ε ρ σ α).run e s = (.ok a, s) := rfl

@[simp] lemma run_throw (err : ε) (e : ρ) (s : σ) :
    (throw err : Prog ε ρ σ α).run e s = (.error err, s) := rfl

@[simp] lemma run_modify (f : σ → σ) (e : ρ) (s : σ) :
    (modify f : Prog ε ρ σ Unit).run e s = (.ok (), f s) := rfl

@[simp] lemma run_ofExcept (x : Except ε α) (e : ρ) (s : σ) :
    (ofExcept x : Prog ε ρ σ α).run e s = (x, s) := rfl

lemma run_bind (x : Prog ε ρ σ α) (f : α → Prog ε ρ σ β) (e : ρ) (s : σ) :
    (x >>= f).run e s =
      match x.run e s with
      | (.ok a, s') => (f a).run e s'
      | (.error err, s') => (.error err, s') := rfl

lemma run_tryCatch (x : Prog ε ρ σ α) (h : ε → Prog ε ρ σ α) (e : ρ) (s : σ) :
    (tryCatch x h : Prog ε ρ σ α).run e s =
      match x.run e s with
      | (.ok a, s') => (.ok a, s')
      | (.error err, s') => (h err).run e s' := rfl

lemma run_bind_ok {x : Prog ε ρ σ α} {f : α → Prog ε ρ σ β} {e : ρ} {s s' : σ} {a : α}
    (h : x.run e s = (.ok a, s')) : (x >>= f).run e s = (f a).run e s' := by
  rw [run_bind, h]

lemma run_bind_error {x : Prog ε ρ σ α} {f : α → Prog ε ρ σ β} {e : ρ} {s s' : σ} {err : ε}
    (h : x.run e s = (.error err, s')) : (x >>= f).run e s = (.error err, s') := by
  rw [run_bind, h]

lemma run_tryCatch_ok {x : Prog ε ρ σ α} {h : ε → Prog ε ρ σ α} {e : ρ} {s s' : σ} {a : α}
    (hx : x.run e s = (.ok a, s')) :
    (tryCatch x h : Prog ε ρ σ α).run e s = (.ok a, s') := by
  rw [run_tryCatch, hx]

lemma run_tryCatch_error {x : Prog ε ρ σ α} {h : ε → Prog ε ρ σ α} {e : ρ} {s s' : σ}
    {err : ε} (hx : x.run e s = (.error err, s')) :
    (tryCatch x h : Prog ε ρ σ α).run e s = (h err).run e s' := by
  rw [run_tryCatch, hx]

/-- Only the execution of the guarded program counts. -/
lemma run_tryCatch_congr {x y : Prog ε ρ σ α} {h : ε → Prog ε ρ σ α} {e : ρ} {s t : σ}
    (hxy : x.run e s = y.run e t) :
    (tryCatch x h : Prog ε ρ σ α).run e s = (tryCatch y h : Prog ε ρ σ α).run e t := by
  rw [run_tryCatch, run_tryCatch, hxy]

/-- A handler that only answers leaves the state as the guarded program left it. -/
lemma run_tryCatch_pure (x : Prog ε ρ σ α) (f : ε → α) (e : ρ) (s : σ) :
    ((tryCatch x fun err => pure (f err) : Prog ε ρ σ α).run e s).2 = (x.run e s).2 := by
  rw [run_tryCatch]
  rcases x.run e s with ⟨err | a, s'⟩ <;> rfl

/-- A program whose handler never throws never throws. -/
lemma tryCatch_returns {x : Prog ε ρ σ α} {h : ε → Prog ε ρ σ α} {e : ρ}
    (hh : ∀ err s, ∃ a s', (h err).run e s = (.ok a, s')) (s : σ) :
    ∃ a s', (tryCatch x h : Prog ε ρ σ α).run e s = (.ok a, s') := by
  rcases hx : x.run e s with ⟨err | a, s'⟩
  · rw [run_tryCatch_error hx]
    exact hh err s'
  · exact ⟨a, s', run_tryCatch_ok hx⟩

/-! ## What a program returns -/

/-- Whatever `x` returns has the property. -/
def Returns (P : α → Prop) (x : Prog ε ρ σ α) : Prop :=
  ∀ e s a s', x.run e s = (.ok a, s') → P a

section Returns

variable {P : α → Prop}

lemma Returns.pure {a : α} (h : P a) : Returns P (pure a : Prog ε ρ σ α) := by
  intro e s a' s' hrun
  rwa [← Except.ok.inj (Prod.mk.inj hrun).1]

lemma Returns.bind {x : Prog ε ρ σ β} {g : β → Prog ε ρ σ α} (hg : ∀ b, Returns P (g b)) :
    Returns P (x >>= g) := by
  intro e s a s' hrun
  rcases hx : x.run e s with ⟨err | b, s₁⟩
  · rw [run_bind_error hx] at hrun
    exact absurd (Prod.mk.inj hrun).1 (by simp)
  · rw [run_bind_ok hx] at hrun
    exact hg b e s₁ a s' hrun

lemma Returns.tryCatch {x : Prog ε ρ σ α} {g : ε → Prog ε ρ σ α} (hx : Returns P x)
    (hg : ∀ err, Returns P (g err)) : Returns P (tryCatch x g : Prog ε ρ σ α) := by
  intro e s a s' hrun
  rcases hr : x.run e s with ⟨err | b, s₁⟩
  · rw [run_tryCatch_error hr] at hrun
    exact hg err e s₁ a s' hrun
  · rw [run_tryCatch_ok hr] at hrun
    obtain ⟨hb, -⟩ := Prod.mk.inj hrun
    rw [← Except.ok.inj hb]
    exact hx e s b s₁ hr

lemma Returns.ite {c : Prop} [Decidable c] {x y : Prog ε ρ σ α} (hx : Returns P x)
    (hy : Returns P y) : Returns P (if c then x else y) := by
  split
  · exact hx
  · exact hy

end Returns

/-! ## How a program moves the state -/

/-- Every execution of `x` takes the state to one that `R` relates to it. -/
def Moves (R : σ → σ → Prop) (x : Prog ε ρ σ α) : Prop := ∀ e s, R s (x.run e s).2

section Moves

variable {R R' : σ → σ → Prop}

lemma Moves.mono (h : ∀ s s', R s s' → R' s s') {x : Prog ε ρ σ α} (hx : Moves R x) :
    Moves R' x := fun e s => h _ _ (hx e s)

lemma Moves.bind [IsTrans σ R] {x : Prog ε ρ σ α} {g : α → Prog ε ρ σ β} (hx : Moves R x)
    (hg : ∀ a, Moves R (g a)) : Moves R (x >>= g) := by
  intro e s
  have h := hx e s
  rw [run_bind]
  rcases hr : x.run e s with ⟨err | a, s'⟩
  · simpa [hr] using h
  · simp only [hr] at h
    exact trans_of R h (hg a e s')

lemma Moves.tryCatch [IsTrans σ R] {x : Prog ε ρ σ α} {g : ε → Prog ε ρ σ α} (hx : Moves R x)
    (hg : ∀ err, Moves R (g err)) : Moves R (tryCatch x g : Prog ε ρ σ α) := by
  intro e s
  have h := hx e s
  rw [run_tryCatch]
  rcases hr : x.run e s with ⟨err | a, s'⟩
  · simp only [hr] at h
    exact trans_of R h (hg err e s')
  · simpa [hr] using h

lemma Moves.ite {c : Prop} [Decidable c] {x y : Prog ε ρ σ α} (hx : Moves R x)
    (hy : Moves R y) : Moves R (if c then x else y) := by
  split
  · exact hx
  · exact hy

variable [Std.Refl R]

lemma Moves.pure (a : α) : Moves R (pure a : Prog ε ρ σ α) := fun _ s => refl_of R s

lemma Moves.throw (err : ε) : Moves R (throw err : Prog ε ρ σ α) := fun _ s => refl_of R s

lemma Moves.ofExcept (x : Except ε α) : Moves R (ofExcept x : Prog ε ρ σ α) :=
  fun _ s => refl_of R s

lemma Moves.mapM [IsTrans σ R] {g : α → Prog ε ρ σ β} (hg : ∀ a, Moves R (g a)) (l : List α) :
    Moves R (l.mapM g) := by
  induction l with
  | nil => exact Moves.pure _
  | cons a l ih =>
    rw [List.mapM_cons]
    exact (hg a).bind fun b => ih.bind fun bs => Moves.pure _

end Moves

/-! ## Two runs -/

/-- Two runs return related results, or they throw the same. -/
inductive Outcomes (Q : α → β → Prop) : Except ε α → Except ε β → Prop
  | ok {a : α} {b : β} (h : Q a b) : Outcomes Q (.ok a) (.ok b)
  | error (err : ε) : Outcomes Q (.error err) (.error err)

lemma outcomes_eq_iff {r r' : Except ε α} : Outcomes Eq r r' ↔ r = r' := by
  constructor
  · intro h
    cases h with
    | ok h => rw [h]
    | error err => rfl
  · rintro rfl
    cases r with
    | error err => exact .error err
    | ok a => exact .ok rfl

/-- From related states, `x` in the environment `e` and `y` in `e'`: the same exception or
results related by `Q`, and related states. -/
def Couples (e e' : ρ) (R : σ → σ → Prop) (Q : α → β → Prop) (x : Prog ε ρ σ α)
    (y : Prog ε ρ σ β) : Prop :=
  ∀ s t, R s t → Outcomes Q (x.run e s).1 (y.run e' t).1 ∧ R (x.run e s).2 (y.run e' t).2

section Couples

variable {δ : Type} {e e' : ρ} {R : σ → σ → Prop} {Q : α → β → Prop} {Q' : γ → δ → Prop}

lemma Couples.pure {a : α} {b : β} (h : Q a b) :
    Couples e e' R Q (pure a : Prog ε ρ σ α) (pure b) := fun _ _ hst => ⟨.ok h, hst⟩

lemma Couples.throw (err : ε) : Couples e e' R Q (throw err : Prog ε ρ σ α) (throw err) :=
  fun _ _ hst => ⟨.error err, hst⟩

lemma Couples.ofExcept {r : Except ε α} {r' : Except ε β} (h : Outcomes Q r r') :
    Couples e e' R Q (ofExcept r) (ofExcept r') := fun _ _ hst => ⟨h, hst⟩

/-- What the first run returns has a property besides. -/
lemma Couples.returning {P : α → Prop} {x : Prog ε ρ σ α} {y : Prog ε ρ σ β}
    (hxy : Couples e e' R Q x y)
    (hP : ∀ s t a s', R s t → x.run e s = (.ok a, s') → P a) :
    Couples e e' R (fun a b => Q a b ∧ P a) x y := by
  intro s t hst
  obtain ⟨hout, hR⟩ := hxy s t hst
  refine ⟨?_, hR⟩
  rcases hx : x.run e s with ⟨err | a, s'⟩ <;> rcases hy : y.run e' t with ⟨err' | b, t'⟩ <;>
    rw [hx, hy] at hout <;> cases hout
  · exact .error err
  · rename_i hab
    exact .ok ⟨hab, hP s t a s' hst hx⟩

lemma Couples.bind {x : Prog ε ρ σ α} {y : Prog ε ρ σ β} {g : α → Prog ε ρ σ γ}
    {k : β → Prog ε ρ σ δ} (hxy : Couples e e' R Q x y)
    (hgk : ∀ a b, Q a b → Couples e e' R Q' (g a) (k b)) :
    Couples e e' R Q' (x >>= g) (y >>= k) := by
  intro s t hst
  obtain ⟨hout, hR⟩ := hxy s t hst
  rw [run_bind, run_bind]
  rcases hx : x.run e s with ⟨err | a, s'⟩ <;> rcases hy : y.run e' t with ⟨err' | b, t'⟩ <;>
    simp only [hx, hy] at hout hR <;> cases hout
  · exact ⟨.error err, hR⟩
  · rename_i hab
    exact hgk a b hab s' t' hR

/-- The same result is passed on. -/
lemma Couples.bind_eq {x y : Prog ε ρ σ α} {g : α → Prog ε ρ σ γ} {k : α → Prog ε ρ σ δ}
    (hxy : Couples e e' R Eq x y) (hgk : ∀ a, Couples e e' R Q' (g a) (k a)) :
    Couples e e' R Q' (x >>= g) (y >>= k) := by
  refine hxy.bind fun a b hab => ?_
  rw [hab]
  exact hgk b

lemma Couples.tryCatch {x : Prog ε ρ σ α} {y : Prog ε ρ σ β} {g : ε → Prog ε ρ σ α}
    {k : ε → Prog ε ρ σ β} (hxy : Couples e e' R Q x y)
    (hgk : ∀ err, Couples e e' R Q (g err) (k err)) :
    Couples e e' R Q (tryCatch x g : Prog ε ρ σ α) (tryCatch y k : Prog ε ρ σ β) := by
  intro s t hst
  obtain ⟨hout, hR⟩ := hxy s t hst
  rw [run_tryCatch, run_tryCatch]
  rcases hx : x.run e s with ⟨err | a, s'⟩ <;> rcases hy : y.run e' t with ⟨err' | b, t'⟩ <;>
    simp only [hx, hy] at hout hR <;> cases hout
  · exact hgk err s' t' hR
  · rename_i hab
    exact ⟨.ok hab, hR⟩

lemma Couples.ite {c : Prop} [Decidable c] {x x' : Prog ε ρ σ α} {y y' : Prog ε ρ σ β}
    (hx : c → Couples e e' R Q x y) (hy : ¬ c → Couples e e' R Q x' y') :
    Couples e e' R Q (if c then x else x') (if c then y else y') := by
  by_cases hc : c
  · rw [if_pos hc, if_pos hc]
    exact hx hc
  · rw [if_neg hc, if_neg hc]
    exact hy hc

lemma Couples.mapM {g : α → Prog ε ρ σ γ} {k : β → Prog ε ρ σ δ}
    (hgk : ∀ a b, Q a b → Couples e e' R Q' (g a) (k b)) {l : List α} {l' : List β}
    (h : List.Forall₂ Q l l') :
    Couples e e' R (List.Forall₂ Q') (l.mapM g) (l'.mapM k) := by
  induction h with
  | nil => exact Couples.pure List.Forall₂.nil
  | cons hab _ ih =>
    rw [List.mapM_cons, List.mapM_cons]
    exact (hgk _ _ hab).bind fun c d hcd => ih.bind fun cs ds hcds =>
      Couples.pure (List.Forall₂.cons hcd hcds)

lemma Couples.mapM_eq {g : α → Prog ε ρ σ γ} {k : β → Prog ε ρ σ γ}
    (hgk : ∀ a b, Q a b → Couples e e' R Eq (g a) (k b)) {l : List α} {l' : List β}
    (h : List.Forall₂ Q l l') : Couples e e' R Eq (l.mapM g) (l'.mapM k) := by
  have hlists := Couples.mapM hgk h
  rwa [List.forall₂_eq_eq_eq] at hlists

end Couples

/-- In the environment `e`, from related states: the same result and related states. -/
def Agrees (e : ρ) (R : σ → σ → Prop) (x : Prog ε ρ σ α) : Prop :=
  ∀ s t, R s t → (x.run e s).1 = (x.run e t).1 ∧ R (x.run e s).2 (x.run e t).2

lemma agrees_iff {e : ρ} {R : σ → σ → Prop} {x : Prog ε ρ σ α} :
    Agrees e R x ↔ Couples e e R Eq x x := by
  simp only [Agrees, Couples, outcomes_eq_iff]

end Prog
