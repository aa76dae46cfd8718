/-
# Units of work

A unit of work is a transaction as a client library has it: statements are executed in it, and it
is committed or aborted once.  Until it is committed the database does not show it.  A call may
fail at any time; the statement or the commit has then had no effect, and the server may have
given the transaction up, in which case even a commit that returns normally changes nothing.

A driver is any implementation of these calls that keeps to this.  The scripted driver is one whose
calls fail where a script says so.
-/
import Mathlib.Data.List.Basic
import Mathlib.Tactic.Common

namespace Work

inductive Status
  | active | committed | aborted
deriving DecidableEq

/-- A call that was made, for a record that no code reads. -/
inductive Entry (S : Type)
  | statement (s : S) (executed : Bool)
  | commit (returned effective : Bool)
  | abort

/-- What there is to know of a unit of work over a database. -/
structure State (S δ : Type) where
  /-- What the database shows. -/
  database : δ
  status : Status
  /-- What the transaction sees, unless the server has given it up. -/
  view : Option δ
  record : List (Entry S)

variable {S R δ : Type}

/-- The start of a transaction. -/
def start (database : δ) : State S δ := ⟨database, .active, some database, []⟩

/-! ## What was done -/

/-- The statements of a record that were executed. -/
def executed (record : List (Entry S)) : List S :=
  record.filterMap fun
    | .statement s true => some s
    | _ => none

/-- All statements of a record. -/
def statements (record : List (Entry S)) : List S :=
  record.filterMap fun
    | .statement s _ => some s
    | _ => none

/-- All statements of a record, each with whether it was executed. -/
def sent (record : List (Entry S)) : List (S × Bool) :=
  record.filterMap fun
    | .statement s executed => some (s, executed)
    | _ => none

/-- Whether a commit took effect. -/
def Entry.isEffective : Entry S → Bool
  | .commit _ effective => effective
  | _ => false

/-- Whether a commit returned normally. -/
def Entry.isCommitted : Entry S → Bool
  | .commit returned _ => returned
  | _ => false

variable (server : S → δ → Option (R × δ))

/-- The database after statements. -/
def replay (ss : List S) (database : δ) : Option δ :=
  ss.foldlM (fun d s => (server s d).map Prod.snd) database

lemma sent_append (record record' : List (Entry S)) :
    sent (record ++ record') = sent record ++ sent record' :=
  List.filterMap_append

lemma executed_append (record record' : List (Entry S)) :
    executed (record ++ record') = executed record ++ executed record' :=
  List.filterMap_append

lemma statements_map_statement (ss : List S) (rest : List (Entry S)) :
    statements (ss.map (.statement · true) ++ rest) = ss ++ statements rest := by
  rw [statements, List.filterMap_append, List.filterMap_map]
  exact congrArg (· ++ statements rest) List.filterMap_some

lemma replay_concat (ss : List S) (s : S) (database : δ) :
    replay server (ss ++ [s]) database =
      (replay server ss database).bind fun d => (server s d).map Prod.snd := by
  simp [replay]

/-- The transaction sees what its statements made of the database. -/
def Sees (database : δ) (w : State S δ) : Prop :=
  ∀ v, w.view = some v → replay server (executed w.record) database = some v

/-- The entry is no commit that returned or took effect. -/
def Entry.IsPending (e : Entry S) : Prop := e.isCommitted = false ∧ e.isEffective = false

/-! ## What a call may do -/

section Calls

/-- What a statement that throws leaves behind. -/
structure ThrowsStatement (w w' : State S δ) (s : S) : Prop where
  database : w'.database = w.database
  status : w'.status = w.status
  view : w'.view = w.view ∨ w'.view = none
  record : w'.record = w.record ++ [.statement s false]

/-- A statement may throw at any time, and then it was not executed; it is executed in what the
transaction sees, and only before the transaction has an end. -/
inductive Executes (s : S) (w : State S δ) : Option R → State S δ → Prop
  | throws {w' : State S δ} (h : ThrowsStatement w w' s) : Executes s w none w'
  | returns {r : R} {v v' : δ} (status : w.status = .active) (view : w.view = some v)
      (run : server s v = some (r, v')) :
      Executes s w (some r)
        { w with view := some v', record := w.record ++ [.statement s true] }

/-- A commit may throw at any time, and then it has no effect; a commit of an active transaction
that returns makes what the transaction sees the database, and a second one changes nothing. -/
inductive Commits (w : State S δ) : Bool → State S δ → Prop
  | throws {w' : State S δ} (notYet : w.status ≠ .committed)
      (database : w'.database = w.database)
      (record : w'.record = w.record ++ [.commit false false])
      (status : w'.status = w.status ∧ w'.view = w.view ∨ w'.status = .aborted) :
      Commits w false w'
  | returns (status : w.status = .active) :
      Commits w true { w with database := w.view.getD w.database, status := .committed,
                              view := none, record := w.record ++ [.commit true w.view.isSome] }
  | again (status : w.status = .committed) :
      Commits w true { w with record := w.record ++ [.commit true false] }

/-- An abort throws after a commit; before one it ends the transaction without effect. -/
inductive Aborts (w : State S δ) : Bool → State S δ → Prop
  | throws (status : w.status = .committed) :
      Aborts w false { w with record := w.record ++ [.abort] }
  | returns {w' : State S δ} (notYet : w.status ≠ .committed)
      (database : w'.database = w.database) (status : w'.status = .aborted)
      (record : w'.record = w.record ++ [.abort]) :
      Aborts w true w'

variable {server} {database : δ} {w : State S δ}

lemma sees_start (database : δ) : Sees server database (start database : State S δ) := by
  intro v hv
  simpa [start, executed, replay] using hv

/-- A statement that throws was not executed. -/
lemma ThrowsStatement.sees {w' : State S δ} {s : S} (h : ThrowsStatement w w' s)
    (hsees : Sees server database w) : Sees server database w' := by
  intro v hv
  have hexecuted : executed w'.record = executed w.record := by
    rw [h.record, executed_append]
    exact List.append_nil _
  rcases h.view with hview | hview
  · rw [hexecuted]
    exact hsees v (hview ▸ hv)
  · exact absurd (hview.symm.trans hv) (by simp)

/-- A statement that was executed is seen. -/
lemma Sees.concat {s : S} {r : R} {v v' : δ} (hsees : Sees server database w)
    (hv : w.view = some v) (hserver : server s v = some (r, v')) :
    Sees server database
      { w with view := some v', record := w.record ++ [.statement s true] } := by
  intro v₁ hv₁
  obtain rfl := Option.some.inj hv₁
  have hexecuted : executed (w.record ++ [.statement s true]) = executed w.record ++ [s] :=
    executed_append _ _
  rw [hexecuted, replay_concat, hsees v hv, Option.bind_some, hserver]
  rfl

end Calls

/-! ## Drivers -/

section Driver

/-- A driver of units of work: its calls, `none` or `false` when they throw, and what there is to
know of its states. -/
structure Driver where
  State : Type
  start : δ → State
  exec : S → State → Option R × State
  commit : State → Bool × State
  abort : State → Bool × State
  shows : State → Work.State S δ
  starts (database : δ) : shows (start database) = Work.start database
  executes (s : S) (t : State) :
    Executes server s (shows t) (exec s t).1 (shows (exec s t).2)
  commits (t : State) : Commits (shows t) (commit t).1 (shows (commit t).2)
  aborts (t : State) : Aborts (shows t) (abort t).1 (shows (abort t).2)

variable {server} {work : Driver server} {t : work.State}

/-- What the database shows. -/
def Driver.database (work : Driver server) (t : work.State) : δ := (work.shows t).database

/-- A commit of an active transaction. -/
lemma Driver.commit_active (hstatus : (work.shows t).status = .active) :
    ((work.commit t).1 = false ∧
      (work.shows (work.commit t).2).database = (work.shows t).database ∧
      (work.shows (work.commit t).2).record =
        (work.shows t).record ++ [.commit false false] ∧
      ((work.shows (work.commit t).2).status = .active ∧
          (work.shows (work.commit t).2).view = (work.shows t).view ∨
        (work.shows (work.commit t).2).status = .aborted)) ∨
    ((work.commit t).1 = true ∧
      work.shows (work.commit t).2 =
        { work.shows t with
          database := (work.shows t).view.getD (work.shows t).database
          status := .committed
          view := none
          record := (work.shows t).record ++ [.commit true (work.shows t).view.isSome] }) := by
  have hcommits := work.commits t
  generalize (work.commit t).1 = returned, work.shows (work.commit t).2 = w' at hcommits ⊢
  cases hcommits with
  | throws _ database record status =>
    rw [hstatus] at status
    exact Or.inl ⟨rfl, database, record, status⟩
  | returns => exact Or.inr ⟨rfl, rfl⟩
  | again status => exact absurd (status.symm.trans hstatus) (by simp)

/-- A commit of an aborted transaction throws. -/
lemma Driver.commit_aborted (hstatus : (work.shows t).status = .aborted) :
    (work.commit t).1 = false ∧
      (work.shows (work.commit t).2).database = (work.shows t).database ∧
      (work.shows (work.commit t).2).status = .aborted ∧
      (work.shows (work.commit t).2).record =
        (work.shows t).record ++ [.commit false false] := by
  have hcommits := work.commits t
  generalize (work.commit t).1 = returned, work.shows (work.commit t).2 = w' at hcommits ⊢
  cases hcommits with
  | throws _ database record status =>
    refine ⟨rfl, database, ?_, record⟩
    rcases status with ⟨status, -⟩ | status
    · exact status.trans hstatus
    · exact status
  | returns status => exact absurd (status.symm.trans hstatus) (by simp)
  | again status => exact absurd (status.symm.trans hstatus) (by simp)

/-- A transaction of one statement throws and changes nothing, or it commits what the server makes
of the statement. -/
lemma Driver.single (work : Driver server) (s : S) (database : δ) :
    (∃ t, work.exec s (work.start database) = (none, t) ∧ work.database t = database) ∨
    ∃ r t t', work.exec s (work.start database) = (some r, t) ∧
      (work.commit t = (false, t') ∧ work.database t' = database ∨
        work.commit t = (true, t') ∧ server s database = some (r, work.database t')) := by
  have hexecutes := work.executes s (work.start database)
  rw [work.starts] at hexecutes
  rcases hexec : work.exec s (work.start database) with ⟨rows, t⟩
  rw [hexec] at hexecutes
  generalize hshows : work.shows t = w at hexecutes
  cases hexecutes with
  | throws h => exact Or.inl ⟨t, rfl, (congrArg State.database hshows).trans h.database⟩
  | @returns r v v' _ hv hserver =>
    obtain rfl := Option.some.inj hv
    have hactive : (work.shows t).status = .active := congrArg State.status hshows
    refine Or.inr ⟨r, t, (work.commit t).2, rfl, ?_⟩
    rcases Driver.commit_active hactive with ⟨hthrew, hdatabase, -⟩ | ⟨hreturned, hafter⟩
    · exact Or.inl ⟨Prod.ext hthrew rfl,
        hdatabase.trans (congrArg State.database hshows)⟩
    · refine Or.inr ⟨Prod.ext hreturned rfl, ?_⟩
      rw [Driver.database, hafter, hshows]
      exact hserver

/-- An abort of a transaction that was not committed. -/
lemma Driver.abort_of_ne (hstatus : (work.shows t).status ≠ .committed) :
    (work.abort t).1 = true ∧
      (work.shows (work.abort t).2).database = (work.shows t).database ∧
      (work.shows (work.abort t).2).status = .aborted ∧
      (work.shows (work.abort t).2).record = (work.shows t).record ++ [.abort] := by
  have haborts := work.aborts t
  generalize (work.abort t).1 = returned, work.shows (work.abort t).2 = w' at haborts ⊢
  cases haborts with
  | throws status => exact absurd status hstatus
  | returns _ database status record => exact ⟨rfl, database, status, record⟩

end Driver

/-! ## The scripted driver -/

section Scripted

/-- What befalls a call. -/
inductive Turn
  /-- Nothing gets in its way. -/
  | proceeds
  /-- It throws. -/
  | fails
  /-- It throws, and the server gives the transaction up. -/
  | breaks
deriving DecidableEq

/-- Execute a statement; `none` when it throws. -/
def exec (turn : Turn) (s : S) (w : State S δ) : Option R × State S δ :=
  let failed := w.record ++ [.statement s false]
  match w.status with
  | .committed | .aborted => (none, { w with record := failed })
  | .active =>
      match turn with
      | .fails => (none, { w with record := failed })
      | .breaks => (none, { w with view := none, record := failed })
      | .proceeds =>
          match w.view.bind (server s) with
          | none => (none, { w with view := none, record := failed })
          | some (r, v) =>
              (some r, { w with view := some v, record := w.record ++ [.statement s true] })

/-- Commit; `false` when it throws. -/
def commit (turn : Turn) (w : State S δ) : Bool × State S δ :=
  match w.status with
  | .committed => (true, { w with record := w.record ++ [.commit true false] })
  | .aborted => (false, { w with record := w.record ++ [.commit false false] })
  | .active =>
      match turn with
      | .fails => (false, { w with record := w.record ++ [.commit false false] })
      | .breaks =>
          (false, { w with status := .aborted, view := none,
                           record := w.record ++ [.commit false false] })
      | .proceeds =>
          (true, { w with database := w.view.getD w.database, status := .committed, view := none,
                          record := w.record ++ [.commit true w.view.isSome] })

/-- Abort; `false` when it throws. -/
def abort (w : State S δ) : Bool × State S δ :=
  match w.status with
  | .committed => (false, { w with record := w.record ++ [.abort] })
  | .aborted => (true, { w with record := w.record ++ [.abort] })
  | .active =>
      (true, { w with status := .aborted, view := none, record := w.record ++ [.abort] })

/-- A statement that nothing gets in the way of. -/
lemma exec_proceeds {s : S} {w : State S δ} {v : δ} (hstatus : w.status = .active)
    (hview : w.view = some v) :
    exec server .proceeds s w =
      match server s v with
      | none => (none, { w with view := none, record := w.record ++ [.statement s false] })
      | some (r, v') =>
          (some r, { w with view := some v', record := w.record ++ [.statement s true] }) := by
  unfold exec
  rw [hstatus, hview]
  rfl

lemma commit_proceeds {w : State S δ} (hstatus : w.status = .active) :
    (commit .proceeds w).1 = true := by
  simp only [commit, hstatus]

lemma executes_exec (turn : Turn) (s : S) (w : State S δ) :
    Executes server s w (exec server turn s w).1 (exec server turn s w).2 := by
  obtain ⟨database, status, view, record⟩ := w
  cases status with
  | committed => exact .throws ⟨rfl, rfl, Or.inl rfl, rfl⟩
  | aborted => exact .throws ⟨rfl, rfl, Or.inl rfl, rfl⟩
  | active =>
    cases turn with
    | fails => exact .throws ⟨rfl, rfl, Or.inl rfl, rfl⟩
    | breaks => exact .throws ⟨rfl, rfl, Or.inr rfl, rfl⟩
    | proceeds =>
      simp only [exec]
      rcases hrun : view.bind (server s) with _ | ⟨r, v'⟩
      · exact .throws ⟨rfl, rfl, Or.inr rfl, rfl⟩
      · obtain ⟨v, hv, hserver⟩ := Option.bind_eq_some_iff.mp hrun
        exact .returns rfl hv hserver

lemma commits_commit (turn : Turn) (w : State S δ) :
    Commits w (commit turn w).1 (commit turn w).2 := by
  obtain ⟨database, status, view, record⟩ := w
  cases status with
  | committed => exact .again rfl
  | aborted => exact .throws (by simp) rfl rfl (Or.inr rfl)
  | active =>
    cases turn with
    | proceeds => exact .returns rfl
    | fails => exact .throws (by simp) rfl rfl (Or.inl ⟨rfl, rfl⟩)
    | breaks => exact .throws (by simp) rfl rfl (Or.inr rfl)

lemma aborts_abort (w : State S δ) : Aborts w (abort w).1 (abort w).2 := by
  obtain ⟨database, status, view, record⟩ := w
  cases status with
  | active => exact .returns (by simp) rfl rfl rfl
  | committed => exact .throws rfl
  | aborted => exact .returns (by simp) rfl rfl rfl

/-- The driver whose calls in a transaction fare as the script says, one turn for each. -/
def scripted (turns : ℕ → Turn) : Driver server where
  State := State S δ
  start := start
  exec s w := exec server (turns w.record.length) s w
  commit w := commit (turns w.record.length) w
  abort := abort
  shows := id
  starts _ := rfl
  executes s w := executes_exec server (turns w.record.length) s w
  commits w := commits_commit (turns w.record.length) w
  aborts := aborts_abort

end Scripted

end Work
