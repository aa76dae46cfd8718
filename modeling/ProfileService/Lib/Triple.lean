/-
# Triples

`Triple e P x Q E`: in the environment `e`, from a state with `P` the program `x` returns a value
and a state that `Q` relates, or throws an exception and leaves a state that `E` relates.  The file
has one rule for each way to make a program.
-/
import ProfileService.Lib.Prog

namespace Prog

variable {ε ρ σ α β : Type}

/-- From a state with `P` the program ends in `Q` when it returns, in `E` when it throws. -/
def Triple (e : ρ) (P : σ → Prop) (x : Prog ε ρ σ α) (Q : α → σ → Prop) (E : ε → σ → Prop) :
    Prop :=
  ∀ s, P s → (∀ a s', x.run e s = (.ok a, s') → Q a s') ∧
    ∀ err s', x.run e s = (.error err, s') → E err s'

section Triple

variable {e : ρ} {P : σ → Prop} {Q : α → σ → Prop} {R : β → σ → Prop} {E E' : ε → σ → Prop}
  {x : Prog ε ρ σ α}

lemma Triple.ok (h : Triple e P x Q E) {s s' : σ} {a : α} (hs : P s)
    (hrun : x.run e s = (.ok a, s')) : Q a s' := (h s hs).1 a s' hrun

lemma Triple.error (h : Triple e P x Q E) {s s' : σ} {err : ε} (hs : P s)
    (hrun : x.run e s = (.error err, s')) : E err s' := (h s hs).2 err s' hrun

lemma Triple.pure {a : α} (h : ∀ s, P s → Q a s) :
    Triple e P (pure a : Prog ε ρ σ α) Q E := by
  intro s hs
  constructor
  · intro b s' hrun
    obtain ⟨ha, rfl⟩ := Prod.mk.inj hrun
    rw [← Except.ok.inj ha]
    exact h s hs
  · intro err s' hrun
    exact absurd (Prod.mk.inj hrun).1 (by simp)

lemma Triple.modify {f : σ → σ} {Q : Unit → σ → Prop} (h : ∀ s, P s → Q () (f s)) :
    Triple e P (modify f : Prog ε ρ σ Unit) Q E := by
  intro s hs
  constructor
  · intro b s' hrun
    obtain ⟨-, rfl⟩ := Prod.mk.inj hrun
    exact h s hs
  · intro err s' hrun
    exact absurd (Prod.mk.inj hrun).1 (by simp)

lemma Triple.bind {g : α → Prog ε ρ σ β} (hx : Triple e P x Q E)
    (hg : ∀ a, Triple e (Q a) (g a) R E) : Triple e P (x >>= g) R E := by
  intro s hs
  rcases hrun : x.run e s with ⟨err | a, t⟩
  · rw [run_bind_error hrun]
    refine ⟨fun b s' heq => absurd (Prod.mk.inj heq).1 (by simp), fun err' s' heq => ?_⟩
    obtain ⟨herr, rfl⟩ := Prod.mk.inj heq
    rw [← Except.error.inj herr]
    exact hx.error hs hrun
  · rw [run_bind_ok hrun]
    exact hg a t (hx.ok hs hrun)

lemma Triple.tryCatch {h : ε → Prog ε ρ σ α} (hx : Triple e P x Q E)
    (hh : ∀ err, Triple e (E err) (h err) Q E') :
    Triple e P (tryCatch x h : Prog ε ρ σ α) Q E' := by
  intro s hs
  rcases hrun : x.run e s with ⟨err | a, t⟩
  · rw [run_tryCatch_error hrun]
    exact hh err t (hx.error hs hrun)
  · rw [run_tryCatch_ok hrun]
    refine ⟨fun b s' heq => ?_, fun err' s' heq => absurd (Prod.mk.inj heq).1 (by simp)⟩
    obtain ⟨ha, rfl⟩ := Prod.mk.inj heq
    rw [← Except.ok.inj ha]
    exact hx.ok hs hrun

lemma Triple.ite {c : Prop} [Decidable c] {y : Prog ε ρ σ α} (hx : c → Triple e P x Q E)
    (hy : ¬ c → Triple e P y Q E) : Triple e P (if c then x else y) Q E := by
  by_cases hc : c
  · rw [if_pos hc]
    exact hx hc
  · rw [if_neg hc]
    exact hy hc

/-- A program that never returns has whatever would come after it. -/
lemma Triple.bind_throws {g : α → Prog ε ρ σ β} (hx : Triple e P x (fun _ _ => False) E) :
    Triple e P (x >>= g) R E :=
  hx.bind fun _ _ h => h.elim

/-- What comes before does not matter to a program that is right from every state. -/
lemma Triple.after {g : α → Prog ε ρ σ β}
    (hg : ∀ a, Triple e (fun _ => True) (g a) R fun _ _ => True) :
    Triple e (fun _ => True) (x >>= g) R fun _ _ => True :=
  Triple.bind (Q := fun _ _ => True) (fun _ _ => ⟨fun _ _ _ => True.intro, fun _ _ _ => True.intro⟩)
    hg

/-- A program that leaves the state alone. -/
lemma Triple.of_moves_eq {I : σ → Prop} (hx : Moves Eq x) :
    Triple e I x (fun _ => I) fun _ => I := by
  intro s hs
  constructor
  · intro a s' hrun
    obtain rfl : s = s' := (hx e s).trans (congrArg Prod.snd hrun)
    exact hs
  · intro err s' hrun
    obtain rfl : s = s' := (hx e s).trans (congrArg Prod.snd hrun)
    exact hs

end Triple

end Prog
