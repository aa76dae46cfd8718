/-
# Runs of the service

The service starts on empty tables and serves one request after the other.  Whatever the
requests are and whichever statements fail, the tables stay valid, every request is
answered, and a request that reports a failure has changed no table.
-/
import ProfileService.Effects
import ProfileService.Lib.Mealy

namespace ProfileService

open Bytes (str)

variable {σ : Type}

/-- The world before the first request. -/
def World.start (storage : σ) : World σ := ⟨Store.empty, storage, 0, 0, []⟩

/-- The world after the requests. -/
abbrev after (env : Env σ) (storage : σ) (requests : List Request) : World σ :=
  Mealy.run (serve env) (World.start storage) requests

/-- The requests with their answers. -/
abbrev history (env : Env σ) (storage : σ) (requests : List Request) :
    List (Request × Except Exn Response) :=
  Mealy.trace (serve env) (World.start storage) requests

/-- What was achieved by the requests, in order. -/
def events (env : Env σ) (storage : σ) (requests : List Request) : List Event :=
  (history env storage requests).filterMap (eventOf env)

lemma serve_valid (env : Env σ) (w : World σ) (request : Request)
    (hv : w.store.Valid env.db.schema) : (serve env w request).2.store.Valid env.db.schema := by
  obtain ⟨response, w', hserve, heffect⟩ := serve_effect env hv request
  rw [hserve]
  exact heffect.valid hv

/-- The tables are valid after any requests. -/
theorem after_valid (env : Env σ) (storage : σ) (requests : List Request) :
    (after env storage requests).store.Valid env.db.schema :=
  Mealy.invariant_run (fun w : World σ => w.store.Valid env.db.schema) (serve_valid env)
    (Store.valid_empty _) requests

/-! ## Refinement -/

section Refinement

variable (env : Env σ) (storage : σ)

@[simp] lemma events_nil : events env storage [] = [] := rfl

lemma events_concat (requests : List Request) (request : Request) :
    events env storage (requests ++ [request]) = events env storage requests ++
      (eventOf env (request, (serve env (after env storage requests) request).1)).toList := by
  rw [events, history, Mealy.trace_concat, List.filterMap_append]
  congr 1

/-- What relates the events so far, the tables and the number of statements: it holds at the
start, later statements do not break it, and the write of an event extends it. -/
structure Refines (R : List Event → Store → ℕ → Prop) : Prop where
  start : R [] Store.empty 0
  mono : ∀ {es st m n}, R es st m → m ≤ n → R es st n
  step : ∀ {es st n event wr}, R es st n → st.Valid env.db.schema → event.Makes st wr →
    wr.Fits env.db.schema →
    (wr.apply env.db.schema (env.txnTime n) (env.rowId n) st).Constraints →
    R (es ++ [event]) (wr.apply env.db.schema (env.txnTime n) (env.rowId n) st) (n + 1)

/-- A relation that the writes of events extend holds after any requests. -/
theorem Refines.holds {R : List Event → Store → ℕ → Prop} (h : Refines env R)
    (requests : List Request) :
    R (events env storage requests) (after env storage requests).store
      (after env storage requests).statements := by
  induction requests using List.reverseRecOn with
  | nil => exact h.start
  | append_singleton requests request ih =>
    have hv := after_valid env storage requests
    obtain ⟨response, w', hserve, heffect⟩ := serve_effect env hv request
    have hafter : after env storage (requests ++ [request]) = w' := by
      rw [after, Mealy.run_concat]
      exact congrArg Prod.snd hserve
    rw [events_concat, hafter, hserve]
    cases heffect with
    | unchanged hle hstore hidle =>
      rw [eventOf_of_idle hidle, hstore, Option.toList_none, List.append_nil]
      exact h.mono ih hle
    | written event wr n hle hlast hevent hmakes hfits hstore hc =>
      rw [hevent, hstore, Option.toList_some, ← hlast]
      rw [hstore] at hc
      exact h.step (h.mono ih hle) hv hmakes hfits hc

end Refinement

/-- After any requests, and whatever statement fails in the next one, the next one is
answered, and if the answer reports a failure then all five tables are as before. -/
theorem failed_unchanged (env : Env σ) (storage : σ) (requests : List Request)
    (request : Request) :
    ∃ response w', serve env (after env storage requests) request = (.ok response, w') ∧
      (400 ≤ response.status → w'.store = (after env storage requests).store) := by
  obtain ⟨response, w', hserve, heffect⟩ :=
    serve_effect env (after_valid env storage requests) request
  refine ⟨response, w', hserve, fun hfail => ?_⟩
  cases heffect with
  | unchanged _ hstore _ => exact hstore
  | written event wr n _ _ hsome =>
    rw [eventOf_of_failed hfail] at hsome
    exact absurd hsome (by simp)

end ProfileService
