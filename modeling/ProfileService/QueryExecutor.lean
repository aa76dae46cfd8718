/-
# Executing statements

What a request is served with: the database, the JSON library, the avatar storage, the
time zone of the process, and a tape of what these decide on their own.  Every call of
`QueryExecutor` runs one statement in a transaction of its own: it fails and changes
nothing, or its effect is committed.
-/
import ProfileService.Connection
import ProfileService.Http
import ProfileService.Lib.Prog
import ProfileService.Time

namespace ProfileService

open Bytes (str)

/-- `repository::AvatarStorage`: an implementation keeps a state of its own and may throw. -/
structure AvatarStorage (σ : Type) where
  upload : Bytes → List UInt8 → Bytes → σ → Except Exn Bytes × σ
  delete : Bytes → σ → Except Exn Unit × σ

/-- What is decided outside the service, by the number of the statement or of the reading
of the clock. -/
structure Tape where
  /-- The exception of a statement that fails before it has an effect. -/
  fault : ℕ → Option Exn
  /-- The exception for a statement that the server refuses. -/
  refusal : ℕ → Exn
  /-- The time at which the transaction of a statement starts. -/
  txnTime : ℕ → ℤ
  /-- The value of `gen_random_uuid()` in a statement. -/
  rowId : ℕ → Uuid
  /-- `std::chrono::system_clock::now()`. -/
  clock : ℕ → TimePoint

/-- What the service runs on. -/
structure Env (σ : Type) extends Tape where
  db : Database
  json : Json.Codec Exn
  avatarStorage : AvatarStorage σ
  /-- `std::mktime`: the local time of the process as a Unix time. -/
  mktime : Tm → ℤ

/-- The state that outlives a request.  The counters place it on the tape, and `bodies`
is a record of the handler bodies that were entered, which no code reads. -/
structure World (σ : Type) where
  store : Store
  storage : σ
  statements : ℕ
  readings : ℕ
  bodies : List HandlerId

/-- A computation of the service. -/
abbrev Svc (σ : Type) : Type → Type := Prog Exn (Env σ) (World σ)

variable {σ : Type}

/-- Enter the body of a handler. -/
def enter (id : HandlerId) : Svc σ Unit :=
  Prog.modify fun w => { w with bodies := w.bodies ++ [id] }

/-- `std::chrono::system_clock::now()`. -/
def now : Svc σ TimePoint := fun env w =>
  (.ok (env.clock w.readings), { w with readings := w.readings + 1 })

/-- `json::parse`. -/
def parse (text : Bytes) : Svc σ Json := fun env w => (env.json.parse text, w)

/-- `j.dump()`. -/
def dump (j : Json) : Svc σ Bytes := fun env w => (env.json.dump j, w)

/-- `PostgresConnection::ExecuteParams`. -/
def executeParams (query : Query) (params : List DbValue) : Svc σ (List Row) := fun env w =>
  let n := w.statements
  let w := { w with statements := n + 1 }
  match env.fault n with
  | some err => (.error err, w)
  | none =>
      match query.exec env.db (env.txnTime n) (env.rowId n) (params.map convertValueToPQXX)
          w.store with
      | none => (.error (env.refusal n), w)
      | some (store, rows) => (.ok rows, { w with store := store })

/-- `QueryExecutor::ExecuteSelect`. -/
def executeSelect (query : Query) (params : List DbValue) : Svc σ (List Row) :=
  executeParams query params

/-- `QueryExecutor::ExecuteModify`. -/
def executeModify (query : Query) (params : List DbValue) : Svc σ Unit := do
  let _ ← executeParams query params
  pure ()

/-! ## Execution lemmas -/

section Execution

variable {env : Env σ} {w : World σ}

/-- The world after a statement, with the tables it leaves. -/
def World.afterStatement (w : World σ) (store : Store) : World σ :=
  { w with statements := w.statements + 1, store := store }

/-- The statement succeeds in the world, with these tables and rows. -/
def Succeeds (env : Env σ) (w : World σ) (query : Query) (params : List DbValue)
    (store : Store) (rows : List Row) : Prop :=
  env.fault w.statements = none ∧
    query.exec env.db (env.txnTime w.statements) (env.rowId w.statements)
      (params.map convertValueToPQXX) w.store = some (store, rows)

/-- A statement that succeeds returns its rows. -/
lemma Succeeds.run {query : Query} {params : List DbValue} {store : Store} {rows : List Row}
    (h : Succeeds env w query params store rows) :
    (executeParams query params).run env w = (.ok rows, w.afterStatement store) := by
  obtain ⟨hfault, hexec⟩ := h
  simp only [Prog.run, executeParams, hfault, hexec]
  rfl

/-- A statement succeeds, or throws and changes no table. -/
lemma executeParams_cases (env : Env σ) (w : World σ) (query : Query) (params : List DbValue) :
    (∃ err, (executeParams query params).run env w = (.error err, w.afterStatement w.store) ∧
      ¬ ∃ store rows, Succeeds env w query params store rows) ∨
    ∃ store rows, Succeeds env w query params store rows ∧
      (executeParams query params).run env w = (.ok rows, w.afterStatement store) := by
  rcases hf : env.fault w.statements with _ | err
  · rcases hq : query.exec env.db (env.txnTime w.statements) (env.rowId w.statements)
        (params.map convertValueToPQXX) w.store with _ | ⟨store, rows⟩
    · refine Or.inl ⟨env.refusal w.statements, ?_, ?_⟩
      · simp [Prog.run, executeParams, hf, hq, World.afterStatement]
      · rintro ⟨store, rows, -, h⟩
        rw [hq] at h
        exact absurd h (by simp)
    · have hs : Succeeds env w query params store rows := ⟨hf, hq⟩
      exact Or.inr ⟨store, rows, hs, hs.run⟩
  · refine Or.inl ⟨err, ?_, ?_⟩
    · simp [Prog.run, executeParams, hf, World.afterStatement]
    · rintro ⟨store, rows, h, -⟩
      rw [hf] at h
      exact absurd h (by simp)

end Execution

end ProfileService
