/-
# Machines that refine others

`Lib/Mealy` is about the runs of one machine.  This file relates the runs of two: a machine
refines another when each of its steps is one of the other, on the same input or on one to which
something was added that the machine did not get.  The last two sections relate runs of one
machine on different inputs: inputs that are sent again or lost, and inputs that an observer
does not see.
-/
import Mathlib.Data.Nat.Init
import ProfileService.Lib.Mealy

namespace Mealy

variable {S T A C O P : Type*}

/-! ## Refinement -/

section Refinement

variable {step : S → A → O × S} {abs : S → T} {obs : O → P}

/-- A machine whose steps are those of another has its runs. -/
theorem refines_of_steps {step' : T → A → P × T} {s : S} {as : List A}
    (hstep : ∀ before a, before ++ [a] <+: as →
      step' (abs (run step s before)) a = Prod.map obs abs (step (run step s before) a)) :
    trace step' (abs s) as = (trace step s as).map (Prod.map id obs) ∧
      run step' (abs s) as = abs (run step s as) := by
  induction as using List.reverseRecOn with
  | nil => exact ⟨rfl, rfl⟩
  | append_singleton as a ih =>
    obtain ⟨htrace, hrun⟩ := ih fun before b hb => hstep before b (hb.trans (List.prefix_append ..))
    have hlast := hstep as a List.prefix_rfl
    rw [trace_concat, trace_concat, run_concat, run_concat, htrace, hrun, hlast, List.map_append]
    exact ⟨rfl, rfl⟩

/-- Every run of a machine is one of another when every step is one on an input to which something
was added. -/
theorem exists_refined {step' : T → A × C → P × T} {Inv : S → Prop} {Fits : S → A → C → Prop}
    (hinv : ∀ s a, Inv s → Inv (step s a).2)
    (hstep : ∀ s a, Inv s →
      ∃ c, Fits s a c ∧ step' (abs s) (a, c) = Prod.map obs abs (step s a))
    {s : S} (hs : Inv s) (as : List A) :
    ∃ acs : List (A × C), acs.map Prod.fst = as ∧
      (∀ before a c, before ++ [(a, c)] <+: acs → Fits (run step s (before.map Prod.fst)) a c) ∧
      (trace step' (abs s) acs).map (Prod.map Prod.fst id) =
        (trace step s as).map (Prod.map id obs) ∧
      run step' (abs s) acs = abs (run step s as) := by
  induction as using List.reverseRecOn with
  | nil =>
    refine ⟨[], rfl, fun before a c h => ?_, rfl, rfl⟩
    exact absurd (List.prefix_nil.mp h) (by simp)
  | append_singleton as a ih =>
    obtain ⟨acs, hinputs, hfits, htrace, hrun⟩ := ih
    obtain ⟨c, hfit, hlast⟩ := hstep (run step s as) a (invariant_run Inv hinv hs as)
    refine ⟨acs ++ [(a, c)], by simp [hinputs], fun before b c' hb => ?_, ?_, ?_⟩
    · rcases List.prefix_concat_iff.mp hb with heq | hb
      · obtain ⟨rfl, hbc⟩ := List.append_inj' heq rfl
        obtain ⟨rfl, rfl⟩ := Prod.mk.inj (List.singleton_injective hbc)
        rwa [hinputs]
      · exact hfits before b c' hb
    · rw [trace_concat, trace_concat, List.map_append, List.map_append, htrace, hrun, List.map_cons,
        List.map_cons, hlast]
      rfl
    · rw [run_concat, run_concat, hrun, hlast]
      rfl

end Refinement

/-! ## Inputs that are sent again -/

/-- What an input makes of a state when it gets through and when it is lost: nothing more when it
is sent again. -/
structure Repeatable (next lose : T → T) : Prop where
  next_next : ∀ t, next (next t) = next t
  next_lose : ∀ t, next (lose t) = next t
  lose_next : ∀ t, lose (next t) = next t
  lose_lose : ∀ t, lose (lose t) = lose t

section Repeatable

variable {step : S → A → O × S} {a : A} {abs : S → T} {next lose : T → T} {Inv Good : S → Prop}

/-- After an input was sent some number of times it got through, or it was lost, or it was not
sent. -/
lemma Repeatable.run_cases (h : Repeatable next lose) (hinv : ∀ s, Inv s → Inv (step s a).2)
    (hstep : ∀ s, Inv s → abs (step s a).2 = next (abs s) ∨
      ¬ Good s ∧ abs (step s a).2 = lose (abs s)) {s : S} (hs : Inv s) (n : ℕ) :
    Inv (run step s (List.replicate n a)) ∧
      (abs (run step s (List.replicate n a)) = abs s ∨
        abs (run step s (List.replicate n a)) = lose (abs s) ∨
        abs (run step s (List.replicate n a)) = next (abs s)) := by
  induction n with
  | zero => exact ⟨hs, Or.inl rfl⟩
  | succ n ih =>
    obtain ⟨hlast, hcases⟩ := ih
    rw [List.replicate_succ', run_concat]
    refine ⟨hinv _ hlast, ?_⟩
    rcases hstep _ hlast with hnext | ⟨-, hlost⟩
    · rw [hnext]
      rcases hcases with hbefore | hbefore | hbefore
      · exact Or.inr (Or.inr (by rw [hbefore]))
      · exact Or.inr (Or.inr (by rw [hbefore, h.next_lose]))
      · exact Or.inr (Or.inr (by rw [hbefore, h.next_next]))
    · rw [hlost]
      rcases hcases with hbefore | hbefore | hbefore
      · exact Or.inr (Or.inl (by rw [hbefore]))
      · exact Or.inr (Or.inl (by rw [hbefore, h.lose_lose]))
      · exact Or.inr (Or.inr (by rw [hbefore, h.lose_next]))

/-- An input that got through, or was not lost in a good state, is done however often it is
sent. -/
theorem Repeatable.run_replicate (h : Repeatable next lose)
    (hinv : ∀ s, Inv s → Inv (step s a).2)
    (hstep : ∀ s, Inv s → abs (step s a).2 = next (abs s) ∨
      ¬ Good s ∧ abs (step s a).2 = lose (abs s)) {s : S} (hs : Inv s) {n : ℕ}
    (hgood : ∃ i < n, Good (run step s (List.replicate i a))) :
    abs (run step s (List.replicate n a)) = next (abs s) := by
  obtain ⟨i, hi, hgood⟩ := hgood
  -- once it got through it stays done
  induction n, hi using Nat.le_induction with
  | base =>
    obtain ⟨hlast, hcases⟩ := h.run_cases hinv hstep hs i
    rw [List.replicate_succ', run_concat]
    rcases hstep _ hlast with hnext | ⟨hbad, -⟩
    · rw [hnext]
      rcases hcases with hbefore | hbefore | hbefore
      · rw [hbefore]
      · rw [hbefore, h.next_lose]
      · rw [hbefore, h.next_next]
    · exact absurd hgood hbad
  | succ n hi ih =>
    obtain ⟨hlast, -⟩ := h.run_cases hinv hstep hs n
    rw [List.replicate_succ', run_concat]
    rcases hstep _ hlast with hnext | ⟨-, hlost⟩
    · rw [hnext, ih, h.next_next]
    · rw [hlost, ih, h.lose_next]

end Repeatable

/-! ## Inputs that an observer does not see -/

/-- States that are related are alike to an observer: an input that it does not see keeps them so,
and one that it sees gives it the same answer from both. -/
structure Unwinds (step : S → A → O × S) (Sees : A → Prop) (R : S → S → Prop) : Prop where
  equivalence : Equivalence R
  hidden : ∀ s t a, R s t → ¬ Sees a → R (step s a).2 t
  seen : ∀ s t a, R s t → Sees a → (step s a).1 = (step t a).1 ∧ R (step s a).2 (step t a).2

section Unwinds

variable {step : S → A → O × S} {Sees : A → Prop} [DecidablePred Sees] {R : S → S → Prop}

/-- An observer cannot tell a run from the one without the inputs that it does not see. -/
lemma Unwinds.purge (h : Unwinds step Sees R) {s t : S} (hst : R s t) (as : List A) :
    (trace step s as).filter (fun e => Sees e.1) = trace step t (as.filter Sees) ∧
      R (run step s as) (run step t (as.filter Sees)) := by
  induction as generalizing s t with
  | nil => exact ⟨rfl, hst⟩
  | cons a as ih =>
    by_cases ha : Sees a
    · obtain ⟨hout, hnext⟩ := h.seen s t a hst ha
      obtain ⟨htrace, hrun⟩ := ih hnext
      rw [trace, List.filter_cons_of_pos (by simpa), List.filter_cons_of_pos (by simpa), trace,
        hout, htrace]
      exact ⟨rfl, hrun⟩
    · obtain ⟨htrace, hrun⟩ := ih (h.hidden s t a hst ha)
      rw [trace, List.filter_cons_of_neg (by simpa), List.filter_cons_of_neg (by simpa), htrace]
      exact ⟨rfl, hrun⟩

/-- Two runs with the same inputs that an observer sees are alike to it. -/
theorem Unwinds.run_alike (h : Unwinds step Sees R) {s t : S} (hst : R s t) {as bs : List A}
    (hsame : as.filter Sees = bs.filter Sees) :
    (trace step s as).filter (fun e => Sees e.1) = (trace step t bs).filter (fun e => Sees e.1) ∧
      R (run step s as) (run step t bs) := by
  obtain ⟨htrace, hrun⟩ := h.purge hst as
  obtain ⟨htrace', hrun'⟩ := h.purge (h.equivalence.refl t) bs
  rw [hsame] at htrace hrun
  exact ⟨htrace.trans htrace'.symm, h.equivalence.trans hrun (h.equivalence.symm hrun')⟩

end Unwinds

end Mealy
