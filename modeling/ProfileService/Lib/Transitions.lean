/-
# Runs of a system whose steps may be impossible

The parties of a system act in any order; an act that is not possible in a state has no next
state.  `Transitions.run` is the state after a list of acts, if they are all possible.  Two
inductions are packaged: an invariant of the step holds after every run, and acts that use up a
potential which no act raises are not more than the potential.
-/
import Mathlib.Data.List.Basic
import Mathlib.Tactic.Common

namespace Transitions

variable {S A : Type*}

/-- The state after the acts, if each is possible in its turn. -/
def run (step : S → A → Option S) : S → List A → Option S
  | s, [] => some s
  | s, a :: as => (step s a).bind fun s' => run step s' as

variable {step : S → A → Option S}

@[simp] lemma run_nil (s : S) : run step s [] = some s := rfl

/-- The first step of a run. -/
lemma run_cons_eq_some {s s' : S} {a : A} {as : List A} :
    run step s (a :: as) = some s' ↔ ∃ t, step s a = some t ∧ run step t as = some s' :=
  Option.bind_eq_some_iff

/-- A property that the allowed acts preserve holds after every run of them. -/
theorem invariant_run {Inv : S → Prop} {Allowed : A → Prop}
    (hstep : ∀ s a s', Inv s → Allowed a → step s a = some s' → Inv s') {s s' : S} (h : Inv s)
    {as : List A} (hallowed : ∀ a ∈ as, Allowed a) (hrun : run step s as = some s') : Inv s' := by
  induction as generalizing s with
  | nil =>
    obtain rfl := Option.some.inj hrun
    exact h
  | cons a as ih =>
    obtain ⟨t, hfirst, hrest⟩ := run_cons_eq_some.mp hrun
    obtain ⟨ha, has⟩ := List.forall_mem_cons.mp hallowed
    exact ih (hstep s a t h ha hfirst) has hrest

/-- Acts that use up a potential are at most as many as it is high. -/
theorem countP_le_potential {Inv : S → Prop} {Allowed : A → Prop} {uses : A → Bool} {μ : S → ℕ}
    (hstep : ∀ s a s', Inv s → Allowed a → step s a = some s' →
      Inv s' ∧ μ s' + (if uses a then 1 else 0) ≤ μ s)
    {s s' : S} (h : Inv s) {as : List A} (hallowed : ∀ a ∈ as, Allowed a)
    (hrun : run step s as = some s') : μ s' + as.countP uses ≤ μ s := by
  induction as generalizing s with
  | nil =>
    obtain rfl := Option.some.inj hrun
    simp
  | cons a as ih =>
    obtain ⟨t, hfirst, hrest⟩ := run_cons_eq_some.mp hrun
    obtain ⟨ha, has⟩ := List.forall_mem_cons.mp hallowed
    obtain ⟨hnext, hle⟩ := hstep s a t h ha hfirst
    have hrest := ih hnext has hrest
    rw [List.countP_cons]
    omega

end Transitions
