/-
# The connection

`PostgresConnection` over the driver, and `QueryExecutor` over the connection.  Code that makes
statements one after another, each as it likes after what came of those before, sees on a connection
what it sees on some tape; and once the connection is lost the tape holds an exception for every
statement that is still to come.  A call on the driver that throws has had no effect: a commit in
doubt is left out.
-/
import ProfileService.Lib.Work
import ProfileService.QueryExecutor
import ProfileService.Standalone

namespace ProfileService

open Bytes (str)
open Work (Driver)

/-- The driver under a connection, whose calls are numbered. -/
structure Link (S R δ : Type) where
  /-- Whether the call begins a transaction, or throws. -/
  begins : ℕ → Bool
  /-- The unit of work that the call begins, over the server. -/
  work : ℕ → ∀ server : S → δ → Option (R × δ), Driver server
  /-- What the call throws, if it does. -/
  err : ℕ → Exn
  /-- Whether the connection is lost with the call. -/
  lost : ℕ → Bool

/-- `PostgresConnection` over a database. -/
structure PostgresConnection (δ : Type) where
  /-- `m_connection`, and what its `is_open()` says. -/
  connection : Option Bool
  /-- `m_isOpen`. -/
  opened : Bool
  database : δ
  /-- How many calls were made on the driver, a record that no code reads. -/
  calls : ℕ

namespace PostgresConnection

variable {S R δ : Type}

/-- `PostgresConnection(connectionString)`, with what the driver's constructor does: it throws, or
it gives a connection that is open or not. -/
def new (driver : Except Exn Bool) (database : δ) : Except Exn (PostgresConnection δ) :=
  match driver with
  | .error e => .error ⟨str "PostgreSQL connection error: " ++ e.what⟩
  | .ok false =>
      .error ⟨str "PostgreSQL connection error: " ++ str "Failed to connect to PostgreSQL"⟩
  | .ok true => .ok ⟨some true, true, database, 0⟩

/-- `PostgresConnection::IsOpen`. -/
def isOpen (c : PostgresConnection δ) : Bool := c.opened && c.connection.getD false

/-- `PostgresConnection::Close`. -/
def close (c : PostgresConnection δ) : PostgresConnection δ :=
  if c.connection.isSome then { c with connection := some false, opened := false } else c

section Execute

variable (server : S → δ → Option (R × δ)) (link : Link S R δ)

/-- After a call on the driver. -/
def called (c : PostgresConnection δ) : PostgresConnection δ :=
  { c with connection := c.connection.map (· && !link.lost c.calls), calls := c.calls + 1 }

/-- `PostgresConnection::Execute` and `ExecuteParams`. -/
def execute (statement : S) (c : PostgresConnection δ) : Except Exn R × PostgresConnection δ :=
  if c.isOpen then
    let begins := c.calls
    let c := c.called link
    if link.begins begins then
      let work := link.work begins server
      let executes := c.calls
      let c := c.called link
      match work.exec statement (work.start c.database) with
      | (none, txn) => (.error (link.err executes), { c with database := work.database txn })
      | (some result, txn) =>
          let commits := c.calls
          let c := c.called link
          match work.commit txn with
          | (false, txn) => (.error (link.err commits), { c with database := work.database txn })
          | (true, txn) => (.ok result, { c with database := work.database txn })
    else (.error (link.err begins), c)
  else (.error ⟨str "Connection is not open"⟩, c)

end Execute

/-! ## What a statement does on a connection -/

section Lemmas

variable {server : S → δ → Option (R × δ)} {link : Link S R δ} {c : PostgresConnection δ}

@[simp] lemma called_database : (c.called link).database = c.database := rfl

/-- A connection that was constructed is open. -/
lemma isOpen_new {driver : Except Exn Bool} {database : δ} (h : new driver database = .ok c) :
    c.isOpen := by
  unfold new at h
  split at h
  · cases h
  · cases h
  · obtain rfl := Except.ok.inj h
    rfl

/-- A connection that was closed is not. -/
lemma isOpen_close : c.close.isOpen = false := by
  obtain ⟨connection, opened, database, calls⟩ := c
  cases connection with
  | none => simp [close, isOpen]
  | some up => rfl

/-- A statement throws and changes nothing, or what the server makes of it is committed. -/
lemma execute_cases (server : S → δ → Option (R × δ)) (link : Link S R δ) (statement : S)
    (c : PostgresConnection δ) :
    (∃ err, (c.execute server link statement).1 = .error err ∧
      (c.execute server link statement).2.database = c.database) ∨
    ∃ result, (c.execute server link statement).1 = .ok result ∧
      server statement c.database =
        some (result, (c.execute server link statement).2.database) := by
  unfold execute
  split_ifs with hopen
  · dsimp only
    split_ifs with hbegins
    · rw [called_database, called_database]
      rcases Work.Driver.single (link.work c.calls server) statement c.database with
        ⟨txn, hexec, hdatabase⟩ |
        ⟨result, txn, txn', hexec, ⟨hcommit, hdatabase⟩ | ⟨hcommit, hserver⟩⟩
      · simp only [hexec]
        exact Or.inl ⟨_, rfl, hdatabase⟩
      · simp only [hexec, hcommit]
        exact Or.inl ⟨_, rfl, hdatabase⟩
      · simp only [hexec, hcommit]
        exact Or.inr ⟨_, rfl, hserver⟩
    · exact Or.inl ⟨_, rfl, rfl⟩
  · exact Or.inl ⟨_, rfl, rfl⟩

end Lemmas

end PostgresConnection

/-! ## The executor -/

/-- `QueryExecutor` over a connection.  `statements` counts its calls, a record that no code
reads. -/
structure QueryExecutor where
  connection : PostgresConnection Store
  statements : ℕ

/-- A statement as the server gets it. -/
abbrev BoundQuery : Type := Query × List Bytes

variable {σ α : Type}

/-- What the server makes of the statement with the number. -/
def Env.server (env : Env σ) (n : ℕ) (statement : BoundQuery) (store : Store) :
    Option (List Row × Store) :=
  (statement.1.exec env.db (env.txnTime n) (env.rowId n) statement.2 store).map Prod.swap

/-- `QueryExecutor::ExecuteSelect` and `ExecuteModify`; without parameters it is `Execute` that is
called, of which the server gets the same. -/
def QueryExecutor.execute (env : Env σ) (link : Link BoundQuery (List Row) Store) (query : Query)
    (params : List DbValue) (q : QueryExecutor) : Except Exn (List Row) × QueryExecutor :=
  if q.connection.isOpen then
    let (result, connection) := q.connection.execute (env.server q.statements) link
      (query, params.map convertValueToPQXX)
    (result, ⟨connection, q.statements + 1⟩)
  else (.error ⟨str "Database connection is not open"⟩, ⟨q.connection, q.statements + 1⟩)

/-- Code that makes statements. -/
inductive Client (α : Type)
  | done (a : α)
  | ask (query : Query) (params : List DbValue) (next : Except Exn (List Row) → Client α)

/-- The code on a connection. -/
def Client.over (env : Env σ) (link : Link BoundQuery (List Row) Store) :
    Client α → QueryExecutor → α × QueryExecutor
  | .done a, q => (a, q)
  | .ask query params next, q =>
      let (result, q) := q.execute env link query params
      (next result).over env link q

/-- The code on a tape. -/
def Client.run (env : Env σ) : Client α → World σ → α × World σ
  | .done a, w => (a, w)
  | .ask query params next, w =>
      let (result, w) := (executeParams query params).run env w
      (next result).run env w

/-- The environment with other exceptions on its tape. -/
def Env.withTape (env : Env σ) (tape : ℕ → Option Exn × Exn) : Env σ :=
  { env with fault := fun n => (tape n).1, refusal := fun n => (tape n).2 }

/-- The executor and the world are at the same statement and the same tables. -/
structure SameState (q : QueryExecutor) (w : World σ) : Prop where
  statements : q.statements = w.statements
  store : q.connection.database = w.store

/-- The exception of `QueryExecutor` when the connection is not open. -/
def notOpen : Exn := ⟨str "Database connection is not open"⟩

/-! ## One statement -/

section Statement

variable {env : Env σ} {link : Link BoundQuery (List Row) Store} {query : Query}
  {params : List DbValue} {q : QueryExecutor} {w : World σ} {tape : ℕ → Option Exn × Exn}

/-- A statement that fails by itself. -/
lemma run_fault {err : Exn} (h : (tape w.statements).1 = some err) :
    (executeParams query params).run (env.withTape tape) w =
      (.error err, w.afterStatement w.store) := by
  simp [Prog.run, executeParams, Env.withTape, h, World.afterStatement]

/-- A statement reads one entry of the tape. -/
lemma run_executeParams_congr {tape' : ℕ → Option Exn × Exn}
    (h : tape w.statements = tape' w.statements) :
    (executeParams query params).run (env.withTape tape') w =
      (executeParams query params).run (env.withTape tape) w := by
  simp [Prog.run, executeParams, Env.withTape, h]

lemma QueryExecutor.execute_of_isOpen (h : q.connection.isOpen) :
    q.execute env link query params =
      ((q.connection.execute (env.server q.statements) link
        (query, params.map convertValueToPQXX)).1,
      ⟨(q.connection.execute (env.server q.statements) link
        (query, params.map convertValueToPQXX)).2, q.statements + 1⟩) := by
  rw [QueryExecutor.execute, if_pos h]

lemma QueryExecutor.execute_of_not_isOpen (h : q.connection.isOpen = false) :
    q.execute env link query params = (.error notOpen, ⟨q.connection, q.statements + 1⟩) := by
  rw [QueryExecutor.execute, if_neg (by simp [h]), notOpen]

/-- What a statement does on a connection it does on a tape that holds the right exceptions for
it. -/
lemma QueryExecutor.execute_eq (env : Env σ) (link : Link BoundQuery (List Row) Store)
    (query : Query) (params : List DbValue) (h : SameState q w) :
    ∃ entry, ∀ tape : ℕ → Option Exn × Exn, tape w.statements = entry →
      ((executeParams query params).run (env.withTape tape) w).1 =
          (q.execute env link query params).1 ∧
        SameState (q.execute env link query params).2
          ((executeParams query params).run (env.withTape tape) w).2 := by
  obtain ⟨hstatements, hstore⟩ := h
  by_cases hopen : q.connection.isOpen
  · rw [QueryExecutor.execute_of_isOpen hopen]
    rcases PostgresConnection.execute_cases (env.server q.statements) link
        (query, params.map convertValueToPQXX) q.connection with
      ⟨err, herr, hsame⟩ | ⟨rows, hrows, hserver⟩
    · refine ⟨(some err, err), fun tape htape => ?_⟩
      rw [run_fault (congrArg Prod.fst htape)]
      exact ⟨herr.symm, congrArg (· + 1) hstatements, hsame.trans hstore⟩
    · refine ⟨(none, ⟨[]⟩), fun tape htape => ?_⟩
      obtain ⟨⟨store, rows'⟩, hexec, heq⟩ := Option.map_eq_some_iff.mp hserver
      obtain ⟨rfl, hstore'⟩ := Prod.mk.inj heq
      rw [hstatements, hstore] at hexec
      have hrun : (executeParams query params).run (env.withTape tape) w =
          (.ok rows', w.afterStatement store) :=
        Succeeds.run ⟨congrArg Prod.fst htape, hexec⟩
      rw [hrun]
      exact ⟨hrows.symm, congrArg (· + 1) hstatements, hstore'.symm⟩
  · refine ⟨(some notOpen, notOpen), fun tape htape => ?_⟩
    rw [QueryExecutor.execute_of_not_isOpen (by simpa using hopen),
      run_fault (congrArg Prod.fst htape)]
    exact ⟨rfl, congrArg (· + 1) hstatements, hstore⟩

end Statement

/-! ## Code on a connection and on a tape -/

namespace Client

variable {β : Type} {env : Env σ} {link : Link BoundQuery (List Row) Store} {q : QueryExecutor}
  {w : World σ} {tape tape' : ℕ → Option Exn × Exn}

/-- The next statement. -/
lemma run_ask (query : Query) (params : List DbValue) (next : Except Exn (List Row) → Client α) :
    (ask query params next).run env w =
      (next ((executeParams query params).run env w).1).run env
        ((executeParams query params).run env w).2 := rfl

lemma over_ask (query : Query) (params : List DbValue) (next : Except Exn (List Row) → Client α) :
    (ask query params next).over env link q =
      (next (q.execute env link query params).1).over env link
        (q.execute env link query params).2 := rfl

lemma statements_executeParams (env : Env σ) (w : World σ) (query : Query)
    (params : List DbValue) :
    ((executeParams query params).run env w).2.statements = w.statements + 1 := by
  rcases executeParams_cases env w query params with ⟨err, hrun, -⟩ | ⟨store, rows, -, hrun⟩
  · rw [hrun]
    rfl
  · rw [hrun]
    rfl

lemma statements_le_run (client : Client α) (env : Env σ) (w : World σ) :
    w.statements ≤ (client.run env w).2.statements := by
  induction client generalizing w with
  | done a => exact le_rfl
  | ask query params next ih =>
    rw [run_ask]
    have hnext := ih ((executeParams query params).run env w).1
      ((executeParams query params).run env w).2
    rw [statements_executeParams] at hnext
    omega

/-- Only the entries of the tape that are read matter. -/
lemma run_congr (client : Client α) (w : World σ)
    (h : ∀ n, w.statements ≤ n → n < (client.run (env.withTape tape) w).2.statements →
      tape n = tape' n) :
    client.run (env.withTape tape') w = client.run (env.withTape tape) w := by
  induction client generalizing w with
  | done a => rfl
  | ask query params next ih =>
    have hnext : w.statements + 1 ≤
        ((ask query params next).run (env.withTape tape) w).2.statements := by
      rw [run_ask, ← statements_executeParams (env.withTape tape) w query params]
      exact statements_le_run _ _ _
    have hentry := h w.statements le_rfl (by omega)
    rw [run_ask, run_ask, run_executeParams_congr hentry]
    refine ih _ _ fun n hn hlt => h n ?_ hlt
    rw [statements_executeParams] at hn
    omega

/-- What code does on a connection it does on some tape. -/
lemma exists_tape (client : Client α) (env : Env σ) (link : Link BoundQuery (List Row) Store)
    (h : SameState q w) :
    ∃ tape, (client.run (env.withTape tape) w).1 = (client.over env link q).1 ∧
      SameState (client.over env link q).2 (client.run (env.withTape tape) w).2 := by
  induction client generalizing q w with
  | done a => exact ⟨fun _ => (none, notOpen), rfl, h⟩
  | ask query params next ih =>
    obtain ⟨entry, hentry⟩ := QueryExecutor.execute_eq env link query params h
    obtain ⟨hresult, hsame⟩ := hentry (fun _ => entry) rfl
    obtain ⟨rest, hrest⟩ := ih (q.execute env link query params).1 hsame
    refine ⟨fun n => if n = w.statements then entry else rest n, ?_⟩
    have hfirst : (executeParams query params).run
        (env.withTape fun n => if n = w.statements then entry else rest n) w =
          (executeParams query params).run (env.withTape fun _ => entry) w :=
      run_executeParams_congr (by simp)
    rw [run_ask, over_ask, hfirst, hresult]
    -- the statements that follow read the rest of the tape
    rw [run_congr _ _ fun n hn _ => ?_]
    · exact hrest
    · rw [statements_executeParams] at hn
      rw [if_neg (by omega)]

/-- A connection that is not open is not made again. -/
lemma isOpen_over (client : Client α) (env : Env σ) (link : Link BoundQuery (List Row) Store)
    (hclosed : q.connection.isOpen = false) :
    (client.over env link q).2.connection.isOpen = false := by
  induction client generalizing q with
  | done a => exact hclosed
  | ask query params next ih =>
    rw [over_ask, QueryExecutor.execute_of_not_isOpen hclosed]
    exact ih (.error notOpen) hclosed

/-- On a connection that is not open every statement of the code throws. -/
lemma over_closed (client : Client α) (env : Env σ) (link : Link BoundQuery (List Row) Store)
    (h : SameState q w) (hclosed : q.connection.isOpen = false)
    (htape : ∀ n, w.statements ≤ n → (tape n).1 = some notOpen) :
    (client.run (env.withTape tape) w).1 = (client.over env link q).1 ∧
      SameState (client.over env link q).2 (client.run (env.withTape tape) w).2 := by
  induction client generalizing q w with
  | done a => exact ⟨rfl, h⟩
  | ask query params next ih =>
    rw [run_ask, over_ask, run_fault (htape w.statements le_rfl),
      QueryExecutor.execute_of_not_isOpen hclosed]
    have hnext : SameState (⟨q.connection, q.statements + 1⟩ : QueryExecutor)
        (w.afterStatement w.store) := ⟨congrArg (· + 1) h.statements, h.store⟩
    exact ih (.error notOpen) hnext hclosed fun n hn => htape n (Nat.le_of_succ_le hn)

/-- The tape from the statement on that comes next; on a connection that is not open it holds an
exception for every statement. -/
lemma exists_tape_from (client : Client α) (env : Env σ) (link : Link BoundQuery (List Row) Store)
    (h : SameState q w) :
    ∃ late : ℕ → Option Exn × Exn,
      (q.connection.isOpen = false → ∀ n, q.statements ≤ n → (late n).1 = some notOpen) ∧
      ∀ tape : ℕ → Option Exn × Exn, (∀ n, q.statements ≤ n → tape n = late n) →
        (client.run (env.withTape tape) w).1 = (client.over env link q).1 ∧
          SameState (client.over env link q).2 (client.run (env.withTape tape) w).2 := by
  rcases hclosed : q.connection.isOpen with _ | _
  · refine ⟨fun _ => (some notOpen, notOpen), fun _ _ _ => rfl, fun tape htape => ?_⟩
    refine over_closed client env link h hclosed fun n hn => ?_
    rw [htape n (h.statements ▸ hn)]
  · obtain ⟨late, hlate⟩ := exists_tape client env link h
    refine ⟨late, fun hopen => absurd hopen (by simp), fun tape htape => ?_⟩
    rw [run_congr client w fun n hn _ => (htape n (h.statements ▸ hn)).symm]
    exact hlate

/-- Code that goes on with what it has found. -/
def andThen (first : Client β) (rest : β → Client α) : Client α :=
  match first with
  | .done b => rest b
  | .ask query params next => .ask query params fun result => (next result).andThen rest

lemma run_andThen (first : Client β) (rest : β → Client α) (env : Env σ) (w : World σ) :
    (first.andThen rest).run env w =
      (rest (first.run env w).1).run env (first.run env w).2 := by
  induction first generalizing w with
  | done b => rfl
  | ask query params next ih =>
    rw [andThen, run_ask, run_ask]
    exact ih _ _

lemma over_andThen (first : Client β) (rest : β → Client α) (env : Env σ)
    (link : Link BoundQuery (List Row) Store) (q : QueryExecutor) :
    (first.andThen rest).over env link q =
      (rest (first.over env link q).1).over env link (first.over env link q).2 := by
  induction first generalizing q with
  | done b => rfl
  | ask query params next ih =>
    rw [andThen, over_ask, over_ask]
    exact ih _ _

end Client

/-- Code that makes statements, first some and then others, has on a connection the results and the
tables that it has on some tape.  If the connection is lost with the first, the tape holds an
exception for each of the others, whatever they are, and the connection is not made again. -/
theorem connection_refines_tape {α β : Type} (env : Env σ) (link : Link BoundQuery (List Row) Store)
    (first : Client β) (rest : β → Client α) (q : QueryExecutor) (w : World σ)
    (h : SameState q w) :
    ∃ tape, ((first.andThen rest).run (env.withTape tape) w).1 =
        ((first.andThen rest).over env link q).1 ∧
      SameState ((first.andThen rest).over env link q).2
        ((first.andThen rest).run (env.withTape tape) w).2 ∧
      ((first.over env link q).2.connection.isOpen = false →
        (∀ n, (first.over env link q).2.statements ≤ n → (tape n).1 = some notOpen) ∧
          ((first.andThen rest).over env link q).2.connection.isOpen = false) := by
  obtain ⟨early, hresult, hsame⟩ := first.exists_tape env link h
  rw [Client.over_andThen]
  generalize first.over env link q = mid at hresult hsame
  obtain ⟨late, hclosed, hlate⟩ := (rest mid.1).exists_tape_from env link hsame
  -- the tape of the first up to where they end, and then the tape of the others
  let tape := fun n => if n < mid.2.statements then early n else late n
  have htape : ∀ n, mid.2.statements ≤ n → tape n = late n := fun n hn => if_neg (not_lt.mpr hn)
  have hfirst : first.run (env.withTape tape) w = first.run (env.withTape early) w :=
    first.run_congr w fun n _ hlt => (if_pos (hsame.statements ▸ hlt)).symm
  obtain ⟨hrest, hsame'⟩ := hlate tape htape
  refine ⟨tape, ?_, ?_, fun hlost => ⟨fun n hn => ?_, (rest mid.1).isOpen_over env link hlost⟩⟩
  · rw [Client.run_andThen, hfirst, hresult, hrest]
  · rw [Client.run_andThen, hfirst, hresult]
    exact hsame'
  · rw [htape n hn]
    exact hclosed hlost n hn

/-- The connection is lost with the first commit. -/
def losingLink : Link BoundQuery (List Row) Store where
  begins _ := true
  work _ server := Work.scripted server fun _ => .proceeds
  err _ := ⟨str "connection lost"⟩
  lost n := n = 2

/-- A statement that is executed, and one that comes after the connection is lost. -/
theorem connection_refines_tape_lost :
    ∃ tape,
      (((Client.ask .createProfile [.string (numbered 1).1] Client.done).andThen fun created =>
        Client.ask .createProfile [.string (numbered 2).1] fun next =>
          Client.done (created.toBool, next.toBool)).run
        ((Env.standalone .migrations).withTape tape) ⟨Store.empty, (), 0, 0, []⟩).1 =
          (true, false) ∧
      ∀ n, 1 ≤ n → (tape n).1 = some notOpen := by
  obtain ⟨tape, hresult, -, hlost⟩ := connection_refines_tape (Env.standalone .migrations)
    losingLink (Client.ask .createProfile [.string (numbered 1).1] Client.done)
    (fun created => Client.ask .createProfile [.string (numbered 2).1] fun next =>
      Client.done (created.toBool, next.toBool))
    ⟨⟨some true, true, Store.empty, 0⟩, 0⟩ ⟨Store.empty, (), 0, 0, []⟩ ⟨rfl, rfl⟩
  refine ⟨tape, hresult.trans ?_, (hlost ?_).1⟩
  · decide +kernel
  · decide +kernel

end ProfileService
