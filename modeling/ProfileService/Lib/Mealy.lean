/-
# Runs of a machine with outputs

A machine answers every input with an output and moves to a next state.  `run` is the
state after a list of inputs and `trace` the list of inputs paired with their outputs.
The file packages the inductions that properties of runs need: an invariant of the step holds
along every run, an entry of a trace is the answer to an input in the state before it, and
machines in a simulation have the same traces.
The last section is about the latest value written in a trace, the specification of a register.
-/
import Mathlib.Data.List.Basic
import Mathlib.Data.List.Induction
import Mathlib.Tactic.Common

namespace Mealy

variable {S A O : Type*}

/-- The state after the inputs. -/
def run (step : S → A → O × S) (s : S) (as : List A) : S :=
  as.foldl (fun s a => (step s a).2) s

/-- The inputs with their outputs. -/
def trace (step : S → A → O × S) : S → List A → List (A × O)
  | _, [] => []
  | s, a :: as => (a, (step s a).1) :: trace step (step s a).2 as

variable {step : S → A → O × S}

@[simp] lemma run_nil (s : S) : run step s [] = s := rfl

@[simp] lemma run_cons (s : S) (a : A) (as : List A) :
    run step s (a :: as) = run step (step s a).2 as := rfl

lemma run_append (s : S) (as bs : List A) :
    run step s (as ++ bs) = run step (run step s as) bs := by
  simp [run]

@[simp] lemma run_concat (s : S) (as : List A) (a : A) :
    run step s (as ++ [a]) = (step (run step s as) a).2 := by
  simp [run_append]

@[simp] lemma trace_nil (s : S) : trace step s [] = [] := rfl

lemma trace_append (s : S) (as bs : List A) :
    trace step s (as ++ bs) = trace step s as ++ trace step (run step s as) bs := by
  induction as generalizing s with
  | nil => rfl
  | cons a as ih => simp [trace, ih]

lemma trace_concat (s : S) (as : List A) (a : A) :
    trace step s (as ++ [a]) = trace step s as ++ [(a, (step (run step s as) a).1)] := by
  rw [trace_append]
  rfl

/-- An entry of the trace is the answer to an input after the inputs before it. -/
lemma mem_trace {s : S} {as : List A} {e : A × O} (h : e ∈ trace step s as) :
    ∃ before a rest, as = before ++ a :: rest ∧ e = (a, (step (run step s before) a).1) := by
  induction as generalizing s with
  | nil => exact absurd h (by simp)
  | cons a as ih =>
    rcases List.mem_cons.mp h with rfl | h
    · exact ⟨[], a, as, rfl, rfl⟩
    · obtain ⟨before, b, rest, rfl, he⟩ := ih h
      exact ⟨a :: before, b, rest, rfl, he⟩

/-- A property that every step preserves holds along every run. -/
theorem invariant_run (Inv : S → Prop) (hstep : ∀ s a, Inv s → Inv (step s a).2) {s : S}
    (h : Inv s) (as : List A) : Inv (run step s as) := by
  induction as generalizing s with
  | nil => exact h
  | cons a as ih => exact ih (hstep s a h)

/-- A property that the good steps preserve holds after every prefix of a run of good steps. -/
theorem invariant_of_steps {Inv : S → Prop} {Good : S → A → Prop}
    (hstep : ∀ s a, Inv s → Good s a → Inv (step s a).2) {s : S} (h : Inv s) {as : List A}
    (hgood : ∀ before a, before ++ [a] <+: as → Good (run step s before) a) (before : List A)
    (hbefore : before <+: as) : Inv (run step s before) := by
  induction before using List.reverseRecOn with
  | nil => exact h
  | append_singleton before a ih =>
    rw [run_concat]
    exact hstep _ _ (ih ((List.prefix_append before [a]).trans hbefore)) (hgood before a hbefore)

/-- Two machines that answer alike and stay related on the good inputs have the same traces. -/
theorem trace_eq_of_simulation {T : Type*} {step' : T → A → O × T} {R : S → T → Prop}
    {Good : A → Prop}
    (hstep : ∀ s t a, R s t → Good a → (step s a).1 = (step' t a).1 ∧ R (step s a).2 (step' t a).2)
    {s : S} {t : T} (h : R s t) {as : List A} (hgood : ∀ a ∈ as, Good a) :
    trace step s as = trace step' t as := by
  induction as generalizing s t with
  | nil => rfl
  | cons a as ih =>
    obtain ⟨hout, hnext⟩ := hstep s t a h (hgood a List.mem_cons_self)
    rw [trace, trace, hout, ih hnext fun b hb => hgood b (List.mem_cons_of_mem a hb)]

/-! ## The latest write -/

section Latest

variable {E V : Type*}

/-- The value of the last entry that is a write. -/
def latest (write : E → Option V) (es : List E) : Option V :=
  (es.filterMap write).getLast?

@[simp] lemma latest_nil (write : E → Option V) : latest write [] = none := rfl

lemma latest_concat (write : E → Option V) (es : List E) (e : E) :
    latest write (es ++ [e]) = (write e).or (latest write es) := by
  rcases h : write e with _ | v <;> simp [latest, List.filterMap_append, h]

/-- The entries are made from others. -/
lemma latest_filterMap {D : Type*} (f : D → Option E) (write : E → Option V) (ds : List D) :
    latest write (ds.filterMap f) = latest (fun d => (f d).bind write) ds := by
  rw [latest, List.filterMap_filterMap, latest]

lemma latest_map {W : Type*} (g : V → W) (write : E → Option V) (es : List E) :
    latest (fun e => (write e).map g) es = (latest write es).map g := by
  rw [latest, latest, ← List.getLast?_map, List.map_filterMap]

lemma latest_congr {write write' : E → Option V} {es : List E}
    (h : ∀ e ∈ es, write e = write' e) : latest write es = latest write' es := by
  rw [latest, latest, List.filterMap_congr h]

lemma exists_of_latest {write : E → Option V} {es : List E} {v : V}
    (h : latest write es = some v) : ∃ e ∈ es, write e = some v :=
  List.mem_filterMap.mp (List.mem_of_getLast? h)

end Latest

end Mealy
