/-
# Transactions

`PostgresTransaction` and `QueryExecutor::ExecuteInTransaction` over a unit of work of any driver.
One flag stands for both ends of a transaction, so that neither is asked for twice; the
destructor aborts what has no end yet.
-/
import ProfileService.Connection
import ProfileService.Lib.Mealy
import ProfileService.Lib.Work

namespace ProfileService

open Bytes (str)
open Work (Driver Entry)

/-- A statement as the server gets it: its text and the texts of its parameters. -/
structure Statement where
  query : Bytes
  params : List Bytes
deriving DecidableEq

/-- `PostgresTransaction::ExecuteWithParams`. -/
def executeWithParams (query : Bytes) (params : List DbValue) : Statement :=
  if params = [] then ⟨query, []⟩ else ⟨query, params.map convertValueToPQXX⟩

/-- A call of `Execute` or of `ExecuteParams`. -/
inductive Invocation
  | execute (query : Bytes)
  | executeParams (query : Bytes) (params : List DbValue)

def Invocation.statement : Invocation → Statement
  | .execute query => ⟨query, []⟩
  | .executeParams query params => executeWithParams query params

/- What the server makes of a statement, and the driver that sends it the statements. -/
variable {δ : Type} {server : Statement → δ → Option (List Row × δ)} (work : Driver server)

/-- `PostgresTransaction` over a driver; `committed` is `m_committed`. -/
structure PostgresTransaction where
  txn : work.State
  committed : Bool

namespace PostgresTransaction

/-- `PostgresTransaction(conn)`. -/
def new (database : δ) : PostgresTransaction work := ⟨work.start database, false⟩

variable {work}

/-- What there is to know of the unit of work. -/
def shows (t : PostgresTransaction work) : Work.State Statement δ := work.shows t.txn

/-- `Execute` and `ExecuteParams`; `none` when it throws. -/
def execute (invocation : Invocation) (t : PostgresTransaction work) :
    Option (List Row) × PostgresTransaction work :=
  let (rows, txn) := work.exec invocation.statement t.txn
  (rows, { t with txn := txn })

/-- `PostgresTransaction::Commit`; `false` when it throws. -/
def commit (t : PostgresTransaction work) : Bool × PostgresTransaction work :=
  if t.committed then (true, t)
  else
    match work.commit t.txn with
    | (true, txn) => (true, ⟨txn, true⟩)
    | (false, txn) => (false, { t with txn := txn })

/-- `PostgresTransaction::Rollback`; `false` when it throws. -/
def rollback (t : PostgresTransaction work) : Bool × PostgresTransaction work :=
  if t.committed then (true, t)
  else
    match work.abort t.txn with
    | (true, txn) => (true, ⟨txn, true⟩)
    | (false, txn) => (false, { t with txn := txn })

/-- `~PostgresTransaction`. -/
def destroy (t : PostgresTransaction work) : PostgresTransaction work :=
  if t.committed then t else { t with txn := (work.abort t.txn).2 }

end PostgresTransaction

/-- A call on a transaction. -/
inductive TransactionCall
  | statement (invocation : Invocation)
  | commit
  | rollback

/-- A call: whether it returns normally, and what it leaves behind. -/
def TransactionCall.make {work : Driver server} (t : PostgresTransaction work)
    (call : TransactionCall) : Bool × PostgresTransaction work :=
  match call with
  | .statement invocation => ((t.execute invocation).1.isSome, (t.execute invocation).2)
  | .commit => t.commit
  | .rollback => t.rollback

/-- The calls on a new transaction. -/
def makeCalls (database : δ) (calls : List TransactionCall) : PostgresTransaction work :=
  Mealy.run TransactionCall.make (.new work database) calls

/-- The calls on a new transaction, each with whether it returned normally. -/
def callTrace (database : δ) (calls : List TransactionCall) : List (TransactionCall × Bool) :=
  Mealy.trace TransactionCall.make (PostgresTransaction.new work database) calls

/-- A transaction from its construction to its destruction. -/
def lifetime (database : δ) (calls : List TransactionCall) : PostgresTransaction work :=
  (makeCalls work database calls).destroy

/-- The statement of a call, with whether the call returned normally. -/
def TransactionCall.sent : TransactionCall × Bool → Option (Statement × Bool)
  | (.statement invocation, returned) => some (invocation.statement, returned)
  | (.commit, _) | (.rollback, _) => none

lemma makeCalls_concat (database : δ) (calls : List TransactionCall) (call : TransactionCall) :
    makeCalls work database (calls ++ [call]) =
      (call.make (makeCalls work database calls)).2 :=
  Mealy.run_concat _ calls call

lemma callTrace_concat (database : δ) (calls : List TransactionCall) (call : TransactionCall) :
    callTrace work database (calls ++ [call]) =
      callTrace work database calls ++
        [(call, (call.make (makeCalls work database calls)).1)] :=
  Mealy.trace_concat _ calls call

/-! ## What the flag says -/

section Invariant

variable {work}

/-- The transaction has no end: what it sees comes from its statements. -/
structure IsOpen (database : δ) (t : PostgresTransaction work) : Prop where
  status : t.shows.status = .active
  flag : t.committed = false
  unchanged : t.shows.database = database
  pending : ∀ e ∈ t.shows.record, e.IsPending
  sees : Work.Sees server database t.shows

/-- The transaction was aborted, or a commit threw and lost it. -/
structure IsLost (database : δ) (t : PostgresTransaction work) : Prop where
  status : t.shows.status = .aborted
  unchanged : t.shows.database = database
  pending : ∀ e ∈ t.shows.record, e.IsPending

/-- The transaction was committed in an open state, and nothing was done in it after that. -/
structure IsCommitted (database : δ) (before t : PostgresTransaction work) : Prop where
  status : t.shows.status = .committed
  flag : t.committed = true
  isOpen : IsOpen database before
  shows : t.shows.database = before.shows.view.getD database
  record : ∃ refused, (∀ e ∈ refused, ∃ s, e = .statement s false) ∧
    t.shows.record = before.shows.record ++ .commit true before.shows.view.isSome :: refused

variable {database : δ} {t : PostgresTransaction work}

lemma shows_new (database : δ) :
    (PostgresTransaction.new work database).shows = Work.start database :=
  work.starts database

lemma isOpen_new : IsOpen database (.new work database) := by
  have hstart : (PostgresTransaction.new work database).shows = _ := shows_new database
  exact ⟨by rw [hstart]; rfl, rfl, by rw [hstart]; rfl, by simp [hstart, Work.start],
    by rw [hstart]; exact Work.sees_start database⟩

lemma pending_concat {record : List (Entry Statement)} {entry : Entry Statement}
    (h : ∀ e ∈ record, e.IsPending) (hentry : entry.IsPending) :
    ∀ e ∈ record ++ [entry], e.IsPending := by
  intro e he
  rcases List.mem_append.mp he with he | he
  · exact h e he
  · obtain rfl := List.mem_singleton.mp he
    exact hentry

/-- A statement throws, or it is executed in an open transaction; it leaves the flag alone. -/
lemma execute_cases (invocation : Invocation) (t : PostgresTransaction work) :
    (t.execute invocation).2.committed = t.committed ∧
    ((t.execute invocation).1 = none ∧
        Work.ThrowsStatement t.shows (t.execute invocation).2.shows invocation.statement ∨
      ∃ rows v v', t.shows.status = .active ∧ t.shows.view = some v ∧
        server invocation.statement v = some (rows, v') ∧
        (t.execute invocation).1 = some rows ∧
        (t.execute invocation).2.shows = { t.shows with
          view := some v'
          record := t.shows.record ++ [.statement invocation.statement true] }) := by
  refine ⟨rfl, ?_⟩
  have hexecutes : Work.Executes server invocation.statement t.shows (t.execute invocation).1
      (t.execute invocation).2.shows := work.executes invocation.statement t.txn
  generalize (t.execute invocation).1 = rows, (t.execute invocation).2.shows = w' at hexecutes ⊢
  cases hexecutes with
  | throws h => exact Or.inl ⟨rfl, h⟩
  | returns status view run => exact Or.inr ⟨_, _, _, status, view, run, rfl, rfl⟩

lemma IsOpen.execute (h : IsOpen database t) (invocation : Invocation) :
    IsOpen database (t.execute invocation).2 := by
  rcases execute_cases invocation t with
    ⟨hflag, ⟨-, hthrows⟩ | ⟨rows, v, v', -, hv, hserver, -, hshows⟩⟩
  · refine ⟨hthrows.status.trans h.status, hflag.trans h.flag,
      hthrows.database.trans h.unchanged, ?_, hthrows.sees h.sees⟩
    rw [hthrows.record]
    exact pending_concat h.pending ⟨rfl, rfl⟩
  · refine ⟨?_, hflag.trans h.flag, ?_, ?_, ?_⟩ <;> rw [hshows]
    · exact h.status
    · exact h.unchanged
    · exact pending_concat h.pending ⟨rfl, rfl⟩
    · exact h.sees.concat hv hserver

lemma IsLost.execute (h : IsLost database t) (invocation : Invocation) :
    IsLost database (t.execute invocation).2 := by
  rcases execute_cases invocation t with ⟨-, ⟨-, hthrows⟩ | ⟨_, _, _, hactive, -⟩⟩
  · refine ⟨hthrows.status.trans h.status, hthrows.database.trans h.unchanged, ?_⟩
    rw [hthrows.record]
    exact pending_concat h.pending ⟨rfl, rfl⟩
  · exact absurd (h.status.symm.trans hactive) (by simp)

lemma IsCommitted.execute {before : PostgresTransaction work}
    (h : IsCommitted database before t) (invocation : Invocation) :
    IsCommitted database before (t.execute invocation).2 := by
  rcases execute_cases invocation t with ⟨hflag, ⟨-, hthrows⟩ | ⟨_, _, _, hactive, -⟩⟩
  · obtain ⟨refused, hrefused, hrecord⟩ := h.record
    refine ⟨hthrows.status.trans h.status, hflag.trans h.flag, h.isOpen,
      hthrows.database.trans h.shows, refused ++ [.statement invocation.statement false], ?_, ?_⟩
    · intro e he
      rcases List.mem_append.mp he with he | he
      · exact hrefused e he
      · exact ⟨_, List.mem_singleton.mp he⟩
    · rw [hthrows.record, hrecord, List.append_assoc, List.cons_append]
  · exact absurd (h.status.symm.trans hactive) (by simp)

/-- `Commit` of a transaction without an end is a commit of the driver. -/
lemma commit_of_flag (hflag : t.committed = false) :
    t.commit.1 = (work.commit t.txn).1 ∧
      t.commit.2.shows = work.shows (work.commit t.txn).2 ∧
      t.commit.2.committed = (work.commit t.txn).1 := by
  rw [PostgresTransaction.commit, if_neg (by simp [hflag])]
  rcases work.commit t.txn with ⟨_ | _, txn⟩
  · exact ⟨rfl, rfl, hflag⟩
  · exact ⟨rfl, rfl, rfl⟩

/-- `Rollback` of a transaction without an end is an abort of the driver. -/
lemma rollback_of_flag (hflag : t.committed = false) :
    t.rollback.1 = (work.abort t.txn).1 ∧
      t.rollback.2.shows = work.shows (work.abort t.txn).2 := by
  rw [PostgresTransaction.rollback, if_neg (by simp [hflag])]
  rcases work.abort t.txn with ⟨_ | _, txn⟩
  · exact ⟨rfl, rfl⟩
  · exact ⟨rfl, rfl⟩

/-- A commit throws, and the transaction stays open or is lost, or it commits the transaction. -/
lemma IsOpen.commit (h : IsOpen database t) :
    (t.commit.1 = false ∧ (IsOpen database t.commit.2 ∨ IsLost database t.commit.2)) ∨
    (t.commit.1 = true ∧ IsCommitted database t t.commit.2 ∧
      t.commit.2.shows.record = t.shows.record ++ [.commit true t.shows.view.isSome]) := by
  obtain ⟨hreturned, hshows, hflag⟩ := commit_of_flag h.flag
  rcases Work.Driver.commit_active h.status with
    ⟨hthrew, hdatabase, hrecord, hstatus⟩ | ⟨hdone, hafter⟩
  · rw [← hshows] at hdatabase hrecord hstatus
    have hpending : ∀ e ∈ t.commit.2.shows.record, e.IsPending := by
      rw [hrecord]
      exact pending_concat h.pending ⟨rfl, rfl⟩
    refine Or.inl ⟨hreturned.trans hthrew, ?_⟩
    rcases hstatus with ⟨hstatus, hview⟩ | hstatus
    · refine Or.inl ⟨hstatus, hflag.trans hthrew, hdatabase.trans h.unchanged, hpending,
        fun v hv => ?_⟩
      have hexecuted : Work.executed t.commit.2.shows.record =
          Work.executed t.shows.record := by
        rw [hrecord, Work.executed_append]
        exact List.append_nil _
      rw [hexecuted]
      exact h.sees v (hview ▸ hv)
    · exact Or.inr ⟨hstatus, hdatabase.trans h.unchanged, hpending⟩
  · rw [← hshows] at hafter
    have hrecord : t.commit.2.shows.record =
        t.shows.record ++ [.commit true t.shows.view.isSome] := by
      rw [hafter]
      rfl
    refine Or.inr ⟨hreturned.trans hdone, ⟨?_, hflag.trans hdone, h, ?_, [], by simp, hrecord⟩,
      hrecord⟩
    · rw [hafter]
    · rw [hafter, ← h.unchanged]
      rfl

lemma IsLost.commit (h : IsLost database t) : IsLost database t.commit.2 := by
  rcases hflag : t.committed with _ | _
  · obtain ⟨-, hshows, -⟩ := commit_of_flag hflag
    obtain ⟨-, hdatabase, hstatus, hrecord⟩ := Work.Driver.commit_aborted h.status
    rw [← hshows] at hdatabase hstatus hrecord
    refine ⟨hstatus, hdatabase.trans h.unchanged, ?_⟩
    rw [hrecord]
    exact pending_concat h.pending ⟨rfl, rfl⟩
  · rw [PostgresTransaction.commit, if_pos hflag]
    exact h

lemma IsCommitted.commit {before : PostgresTransaction work}
    (h : IsCommitted database before t) : t.commit = (true, t) := by
  rw [PostgresTransaction.commit, if_pos h.flag]

/-- An abort of a transaction that was not committed loses it. -/
lemma isLost_abort (hstatus : t.shows.status ≠ .committed)
    (hdatabase : t.shows.database = database) (hpending : ∀ e ∈ t.shows.record, e.IsPending)
    {t' : PostgresTransaction work} (hshows : t'.shows = work.shows (work.abort t.txn).2) :
    IsLost database t' := by
  obtain ⟨-, hdatabase', hstatus', hrecord⟩ := Work.Driver.abort_of_ne hstatus
  rw [← hshows] at hdatabase' hstatus' hrecord
  refine ⟨hstatus', hdatabase'.trans hdatabase, ?_⟩
  rw [hrecord]
  exact pending_concat hpending ⟨rfl, rfl⟩

lemma IsOpen.rollback (h : IsOpen database t) : IsLost database t.rollback.2 :=
  isLost_abort (by simp [h.status]) h.unchanged h.pending (rollback_of_flag h.flag).2

lemma IsLost.rollback (h : IsLost database t) : IsLost database t.rollback.2 := by
  rcases hflag : t.committed with _ | _
  · exact isLost_abort (by simp [h.status]) h.unchanged h.pending (rollback_of_flag hflag).2
  · rw [PostgresTransaction.rollback, if_pos hflag]
    exact h

lemma IsCommitted.rollback {before : PostgresTransaction work}
    (h : IsCommitted database before t) : t.rollback = (true, t) := by
  rw [PostgresTransaction.rollback, if_pos h.flag]

lemma destroy_of_flag (hflag : t.committed = false) :
    t.destroy.shows = work.shows (work.abort t.txn).2 := by
  rw [PostgresTransaction.destroy, if_neg (by simp [hflag])]
  rfl

lemma IsOpen.destroy (h : IsOpen database t) : IsLost database t.destroy :=
  isLost_abort (by simp [h.status]) h.unchanged h.pending (destroy_of_flag h.flag)

lemma IsLost.destroy (h : IsLost database t) : IsLost database t.destroy := by
  rcases hflag : t.committed with _ | _
  · exact isLost_abort (by simp [h.status]) h.unchanged h.pending (destroy_of_flag hflag)
  · rw [PostgresTransaction.destroy, if_pos hflag]
    exact h

lemma IsCommitted.destroy {before : PostgresTransaction work}
    (h : IsCommitted database before t) : t.destroy = t := by
  rw [PostgresTransaction.destroy, if_pos h.flag]

variable (work database) in
/-- The states of a transaction after calls. -/
inductive Lives (calls : List TransactionCall) : Prop
  | active (isOpen : IsOpen database (makeCalls work database calls))
      (noRollback : .rollback ∉ calls)
  | lost (isLost : IsLost database (makeCalls work database calls))
  | committed (before after : List TransactionCall) (split : calls = before ++ .commit :: after)
      (noRollback : .rollback ∉ before)
      (isCommitted : IsCommitted database (makeCalls work database before)
        (makeCalls work database calls))

/-- After any calls the transaction is open and was not rolled back, or it is lost, or it was
committed by one of them. -/
lemma lives (work : Driver server) (database : δ) (calls : List TransactionCall) :
    Lives work database calls := by
  induction calls using List.reverseRecOn with
  | nil => exact .active isOpen_new (by simp)
  | append_singleton calls call ih =>
    have hmake := makeCalls_concat work database calls call
    cases ih with
    | active isOpen noRollback =>
      cases call with
      | statement invocation =>
        refine .active ?_ (by simpa using noRollback)
        rw [hmake]
        exact isOpen.execute invocation
      | commit =>
        rcases isOpen.commit with ⟨-, hstill | hlost⟩ | ⟨-, hcommitted, -⟩
        · refine .active ?_ (by simpa using noRollback)
          rwa [hmake]
        · refine .lost ?_
          rwa [hmake]
        · refine .committed calls [] rfl noRollback ?_
          rwa [hmake]
      | rollback =>
        refine .lost ?_
        rw [hmake]
        exact isOpen.rollback
    | lost isLost =>
      refine .lost ?_
      rw [hmake]
      cases call with
      | statement invocation => exact isLost.execute invocation
      | commit => exact isLost.commit
      | rollback => exact isLost.rollback
    | committed before after split noRollback isCommitted =>
      refine .committed before (after ++ [call]) (by simp [split]) noRollback ?_
      rw [hmake]
      cases call with
      | statement invocation => exact isCommitted.execute invocation
      | commit =>
        rw [TransactionCall.make, isCommitted.commit]
        exact isCommitted
      | rollback =>
        rw [TransactionCall.make, isCommitted.rollback]
        exact isCommitted

/-- At its end a transaction has had no effect, or it was committed by one of the calls. -/
lemma lifetime_cases (work : Driver server) (database : δ) (calls : List TransactionCall) :
    IsLost database (lifetime work database calls) ∨
    ∃ before after, calls = before ++ .commit :: after ∧ .rollback ∉ before ∧
      IsCommitted database (makeCalls work database before)
        (lifetime work database calls) := by
  rcases lives work database calls with
    ⟨isOpen, -⟩ | isLost | ⟨before, after, split, noRollback, isCommitted⟩
  · exact Or.inl isOpen.destroy
  · exact Or.inl isLost.destroy
  · refine Or.inr ⟨before, after, split, noRollback, ?_⟩
    rw [lifetime, isCommitted.destroy]
    exact isCommitted

end Invariant

/-! ## What was sent -/

section Sent

variable {work} {t : PostgresTransaction work}

/-- Neither end of a transaction sends a statement. -/
lemma sent_commit (t : PostgresTransaction work) :
    Work.sent t.commit.2.shows.record = Work.sent t.shows.record := by
  rcases hflag : t.committed with _ | _
  · obtain ⟨-, hshows, -⟩ := commit_of_flag hflag
    rw [hshows]
    have hcommits : Work.Commits t.shows (work.commit t.txn).1 _ := work.commits t.txn
    generalize (work.commit t.txn).1 = returned, work.shows (work.commit t.txn).2 = w' at hcommits ⊢
    cases hcommits with
    | throws _ _ record _ =>
      rw [record, Work.sent_append]
      exact List.append_nil _
    | returns => exact (Work.sent_append _ _).trans (List.append_nil _)
    | again => exact (Work.sent_append _ _).trans (List.append_nil _)
  · rw [PostgresTransaction.commit, if_pos hflag]

lemma sent_abort {t' : PostgresTransaction work}
    (hshows : t'.shows = work.shows (work.abort t.txn).2) :
    Work.sent t'.shows.record = Work.sent t.shows.record := by
  rw [hshows]
  have haborts : Work.Aborts t.shows (work.abort t.txn).1 _ := work.aborts t.txn
  generalize (work.abort t.txn).1 = returned, work.shows (work.abort t.txn).2 = w' at haborts ⊢
  cases haborts with
  | throws => exact (Work.sent_append _ _).trans (List.append_nil _)
  | returns _ _ _ record =>
    rw [record, Work.sent_append]
    exact List.append_nil _

lemma sent_rollback (t : PostgresTransaction work) :
    Work.sent t.rollback.2.shows.record = Work.sent t.shows.record := by
  rcases hflag : t.committed with _ | _
  · exact sent_abort (rollback_of_flag hflag).2
  · rw [PostgresTransaction.rollback, if_pos hflag]

lemma sent_destroy (t : PostgresTransaction work) :
    Work.sent t.destroy.shows.record = Work.sent t.shows.record := by
  rcases hflag : t.committed with _ | _
  · exact sent_abort (destroy_of_flag hflag)
  · rw [PostgresTransaction.destroy, if_pos hflag]

/-- A call sends its own statement, which is executed exactly if the call returns normally. -/
lemma sent_make (t : PostgresTransaction work) (call : TransactionCall) :
    Work.sent (call.make t).2.shows.record =
      Work.sent t.shows.record ++ (TransactionCall.sent (call, (call.make t).1)).toList := by
  cases call with
  | statement invocation =>
    have hmake : TransactionCall.make t (.statement invocation) =
      ((t.execute invocation).1.isSome, (t.execute invocation).2) := rfl
    rw [hmake]
    rcases execute_cases invocation t with
      ⟨-, ⟨hnone, hthrows⟩ | ⟨rows, v, v', -, -, -, hsome, hshows⟩⟩
    · rw [hthrows.record, hnone]
      exact Work.sent_append _ _
    · rw [hshows, hsome]
      exact Work.sent_append _ _
  | commit => exact (sent_commit t).trans (List.append_nil _).symm
  | rollback => exact (sent_rollback t).trans (List.append_nil _).symm

/-- The statements that are sent are those of the calls, in their order. -/
lemma sent_makeCalls (work : Driver server) (database : δ) (calls : List TransactionCall) :
    Work.sent (makeCalls work database calls).shows.record =
      (callTrace work database calls).filterMap TransactionCall.sent := by
  induction calls using List.reverseRecOn with
  | nil =>
    have hnew : (makeCalls work database []).shows = Work.start database := shows_new database
    rw [hnew]
    rfl
  | append_singleton calls call ih =>
    rw [makeCalls_concat, sent_make, ih, callTrace_concat, List.filterMap_append]
    rfl

end Sent

/-! ## Operations -/

/-- What `ExecuteInTransaction` is given: code that makes statements, on the way to a normal end or
an exception, and sees whether each of them threw.  It calls neither `Commit` nor `Rollback`. -/
inductive Operation
  | finish
  | throw
  | call (invocation : Invocation) (next : Option (List Row) → Operation)

namespace Operation

/-- The code ends with an exception, whatever comes of its statements. -/
inductive Throws : Operation → Prop
  | throw : Throws .throw
  | call {invocation : Invocation} {next : Option (List Row) → Operation}
      (h : ∀ rows, Throws (next rows)) : Throws (.call invocation next)

/-- The code swallows no exception: when a statement throws, it ends with an exception. -/
inductive Propagates : Operation → Prop
  | finish : Propagates .finish
  | throw : Propagates .throw
  | call {invocation : Invocation} {next : Option (List Row) → Operation}
      (throws : (next none).Throws) (h : ∀ rows, Propagates (next (some rows))) :
      Propagates (.call invocation next)

/-- Run the code on a transaction; `false` when it ends with an exception. -/
def run {work : Driver server} :
    Operation → PostgresTransaction work → Bool × PostgresTransaction work
  | .finish, t => (true, t)
  | .throw, t => (false, t)
  | .call invocation next, t =>
      let (rows, t) := t.execute invocation
      (next rows).run t

/-- What the code means to do: its statements, and what the server makes of them when nothing comes
in between; `none` when it ends with an exception. -/
def perform (server : Statement → δ → Option (List Row × δ)) :
    Operation → δ → Option (List Statement × δ)
  | .finish, database => some ([], database)
  | .throw, _ => none
  | .call invocation next, database =>
      (server invocation.statement database).bind fun (rows, database) =>
        ((next (some rows)).perform server database).map fun (statements, database) =>
          (invocation.statement :: statements, database)

end Operation

/-- `QueryExecutor::ExecuteInTransaction`, `false` when it throws; `opens` is whether the
connection is open and a transaction begins on it. -/
def executeInTransaction (opens : Bool) (database : δ) (operation : Operation) :
    Bool × PostgresTransaction work :=
  if opens then
    let (returned, txn) := operation.run (.new work database)
    if returned then
      let (committed, txn) := txn.commit
      (committed, txn.destroy)
    else (false, txn.destroy)
  else (false, .new work database)

section Operations

variable {work} {database : δ} {t : PostgresTransaction work}

lemma Operation.run_isOpen (operation : Operation) (h : IsOpen database t) :
    IsOpen database (operation.run t).2 := by
  induction operation generalizing t with
  | finish => exact h
  | throw => exact h
  | call invocation next ih => exact ih _ (h.execute invocation)

lemma Operation.Throws.run {operation : Operation} (h : operation.Throws)
    (t : PostgresTransaction work) : (operation.run t).1 = false := by
  induction h generalizing t with
  | throw => rfl
  | call _ ih => exact ih _ _

lemma Operation.run_call (invocation : Invocation) (next : Option (List Row) → Operation)
    (t : PostgresTransaction work) :
    (Operation.call invocation next).run t =
      (next (t.execute invocation).1).run (t.execute invocation).2 := rfl

/-- The next statement of the code, and what comes after it. -/
lemma Operation.perform_call {invocation : Invocation} {next : Option (List Row) → Operation}
    {rows : List Row} {v v' v'' : δ} {statements : List Statement}
    (hserver : server invocation.statement v = some (rows, v'))
    (hnext : (next (some rows)).perform server v' = some (statements, v'')) :
    (Operation.call invocation next).perform server v =
      some (invocation.statement :: statements, v'') := by
  simp only [Operation.perform, hserver, Option.bind_some, hnext, Option.map_some]

/-- When code that swallows no exception returns, then it has done what it means to do. -/
lemma Operation.Propagates.run {operation : Operation} (h : operation.Propagates) {v : δ}
    (hview : t.shows.view = some v) (hreturned : (operation.run t).1 = true) :
    ∃ statements v', operation.perform server v = some (statements, v') ∧
      (operation.run t).2.shows.view = some v' ∧
      (operation.run t).2.shows.record = t.shows.record ++ statements.map (.statement · true) := by
  induction h generalizing t v with
  | finish => exact ⟨[], v, rfl, hview, (List.append_nil _).symm⟩
  | throw => exact absurd hreturned (by simp [Operation.run])
  | @call invocation next throws _ ih =>
    rw [Operation.run_call] at hreturned ⊢
    rcases execute_cases invocation t with
      ⟨-, ⟨hnone, -⟩ | ⟨rows, u, u', -, hu, hserver, hsome, hshows⟩⟩
    · rw [hnone, throws.run] at hreturned
      exact absurd hreturned (by simp)
    · obtain rfl := Option.some.inj (hview.symm.trans hu)
      rw [hsome] at hreturned ⊢
      obtain ⟨statements, v', hperform, hview', hrecord⟩ := ih rows (by rw [hshows]) hreturned
      refine ⟨invocation.statement :: statements, v', perform_call hserver hperform, hview', ?_⟩
      rw [hrecord, hshows, List.map_cons, List.append_assoc]
      rfl

/-- What the code means to do is what its statements do. -/
lemma Operation.replay_of_perform {operation : Operation} {v v' : δ}
    {statements : List Statement} (h : operation.perform server v = some (statements, v')) :
    Work.replay server statements v = some v' := by
  induction operation generalizing v statements with
  | finish =>
    obtain ⟨rfl, rfl⟩ := Prod.mk.inj (Option.some.inj h)
    rfl
  | throw => exact absurd h (by simp [Operation.perform])
  | call invocation next ih =>
    obtain ⟨⟨rows, u⟩, hserver, hrest⟩ := Option.bind_eq_some_iff.mp h
    obtain ⟨⟨rest, u'⟩, hnext, heq⟩ := Option.map_eq_some_iff.mp hrest
    obtain ⟨rfl, rfl⟩ := Prod.mk.inj heq
    rw [Work.replay, List.foldlM_cons, hserver]
    exact ih _ hnext

lemma not_isEffective {record : List (Entry Statement)} (h : ∀ e ∈ record, e.IsPending) :
    record.filter Entry.isEffective = [] := by
  rw [List.filter_eq_nil_iff]
  intro e he
  simp [(h e he).2]

/-- The record of a committed transaction has one commit, after which nothing was done. -/
lemma IsCommitted.once {before : PostgresTransaction work}
    (h : IsCommitted database before t) :
    (t.shows.record.filter Entry.isEffective).length ≤ 1 ∧
      ∀ earlier effective later, t.shows.record = earlier ++ .commit true effective :: later →
        .abort ∉ later := by
  obtain ⟨refused, hrefused, hrecord⟩ := h.record
  have hpending : ∀ e ∈ refused, e.IsPending := by
    intro e he
    obtain ⟨s, rfl⟩ := hrefused e he
    exact ⟨rfl, rfl⟩
  rw [hrecord]
  constructor
  · rw [List.filter_append, not_isEffective h.isOpen.pending, List.nil_append, List.filter_cons,
      not_isEffective hpending]
    split <;> simp
  · intro earlier effective later hsplit habort
    -- the commit of the record is the only one
    rcases List.append_eq_append_iff.mp hsplit with ⟨mid, hearlier, htail⟩ | ⟨mid, hbefore, htail⟩
    · rcases mid with _ | ⟨e, mid⟩
      · obtain ⟨-, rfl⟩ := List.cons.inj (htail.trans (List.nil_append _))
        obtain ⟨s, hs⟩ := hrefused _ habort
        exact absurd hs (by simp)
      · obtain ⟨-, rfl⟩ := List.cons.inj htail
        obtain ⟨s, hs⟩ := hrefused (.commit true effective) (by simp)
        exact absurd hs (by simp)
    · rcases mid with _ | ⟨e, mid⟩
      · obtain ⟨-, rfl⟩ := List.cons.inj ((List.nil_append _).symm.trans htail)
        obtain ⟨s, hs⟩ := hrefused _ habort
        exact absurd hs (by simp)
      · obtain ⟨rfl, -⟩ := List.cons.inj htail
        have hcommit := h.isOpen.pending (.commit true effective) (by simp [hbefore])
        exact absurd hcommit.1 (by simp [Entry.isCommitted])

/-- The database of a committed transaction, in which the server may have given up. -/
lemma IsCommitted.database_cases {before : PostgresTransaction work}
    (h : IsCommitted database before t) :
    t.shows.database = database ∨ before.shows.view.isSome ∧
      Work.replay server (Work.executed before.shows.record) database =
        some t.shows.database := by
  rw [h.shows]
  rcases hview : before.shows.view with _ | v
  · exact Or.inl rfl
  · exact Or.inr ⟨rfl, h.isOpen.sees v hview⟩

/-- `ExecuteInTransaction` on an open connection commits what code that returns has done. -/
lemma executeInTransaction_opens (operation : Operation) :
    executeInTransaction work true database operation =
      if (operation.run (.new work database)).1 then
        ((operation.run (.new work database)).2.commit).map id (·.destroy)
      else (false, (operation.run (.new work database)).2.destroy) := rfl

/-- When `ExecuteInTransaction` throws, the database is as it was. -/
lemma executeInTransaction_threw (opens : Bool) (operation : Operation)
    (h : (executeInTransaction work opens database operation).1 = false) :
    (executeInTransaction work opens database operation).2.shows.database = database := by
  cases opens with
  | false => exact isOpen_new.unchanged
  | true =>
    have hopen : IsOpen database (operation.run (.new work database)).2 :=
      operation.run_isOpen isOpen_new
    rw [executeInTransaction_opens] at h ⊢
    split at h
    · rename_i hreturned
      rw [if_pos hreturned]
      rcases hopen.commit with ⟨-, hstill | hlost⟩ | ⟨hcommitted, -, -⟩
      · exact hstill.destroy.unchanged
      · exact hlost.destroy.unchanged
      · exact absurd (hcommitted.symm.trans h) (by simp)
    · rename_i hthrew
      rw [if_neg hthrew]
      exact hopen.destroy.unchanged

/-- When `ExecuteInTransaction` returns, the code has done what it means to do, and the database
shows it. -/
lemma executeInTransaction_returned {opens : Bool} {operation : Operation}
    (hpropagates : operation.Propagates)
    (h : (executeInTransaction work opens database operation).1 = true) :
    ∃ statements, operation.perform server database =
        some (statements, (executeInTransaction work opens database operation).2.shows.database) ∧
      (executeInTransaction work opens database operation).2.shows.record =
        statements.map (.statement · true) ++ [.commit true true] := by
  cases opens with
  | false => exact absurd h (by simp [executeInTransaction])
  | true =>
    have hopen : IsOpen database (operation.run (.new work database)).2 :=
      operation.run_isOpen isOpen_new
    have hstart : (PostgresTransaction.new work database).shows = _ := shows_new database
    rw [executeInTransaction_opens] at h ⊢
    split at h
    swap
    · exact absurd h (by simp)
    rename_i hreturned
    rw [if_pos hreturned]
    obtain ⟨statements, v, hperform, hview, hrecord⟩ :=
      hpropagates.run (v := database) (by rw [hstart]; rfl) hreturned
    rw [hstart] at hrecord
    rcases hopen.commit with ⟨hthrew, -⟩ | ⟨-, hcommitted, hafter⟩
    · exact absurd (hthrew.symm.trans h) (by simp)
    have hend : ((((operation.run (.new work database)).2.commit).map id (·.destroy)).2 :
        PostgresTransaction work) = (operation.run (.new work database)).2.commit.2 :=
      hcommitted.destroy
    refine ⟨statements, ?_, ?_⟩
    · rw [hend, hcommitted.shows, hview]
      exact hperform
    · rw [hend, hafter, hrecord, hview]
      rfl

/-- Whatever is called on a transaction and whatever fails: the statements that the server gets are
those of the calls, executed where the call returns; at its end at most one commit has taken
effect, none was aborted after it, and the database is as it was or as the statements that were
executed before the first effective `Commit` make it, and then no `Rollback` came before that.
Code that is run by `ExecuteInTransaction` and swallows no exception has done all that it means to
do, and it is kept, if it returns normally, and none is kept if it throws. -/
theorem transaction_lifecycle (work : Driver server) (database : δ) :
    (∀ calls,
      Work.sent (makeCalls work database calls).shows.record =
          (callTrace work database calls).filterMap TransactionCall.sent ∧
        Work.sent (lifetime work database calls).shows.record =
          (callTrace work database calls).filterMap TransactionCall.sent) ∧
    (∀ calls, let t := (lifetime work database calls).shows
      (t.record.filter Entry.isEffective).length ≤ 1 ∧
      (∀ earlier effective later, t.record = earlier ++ .commit true effective :: later →
        .abort ∉ later) ∧
      (t.database = database ∨ ∃ before after refused,
        calls = before ++ .commit :: after ∧ .rollback ∉ before ∧
        t.record = (makeCalls work database before).shows.record ++
          .commit true true :: refused ∧
        (∀ e ∈ (makeCalls work database before).shows.record, e.isEffective = false) ∧
        Work.replay server (Work.executed (makeCalls work database before).shows.record)
          database = some t.database)) ∧
    ∀ opens operation, Operation.Propagates operation →
      let result := executeInTransaction work opens database operation
      (result.1 = true →
        (∃ statements, operation.perform server database =
            some (statements, result.2.shows.database) ∧
          result.2.shows.record = statements.map (.statement · true) ++ [.commit true true] ∧
          Work.replay server statements database = some result.2.shows.database) ∧
        (∀ s executed, .statement s executed ∈ result.2.shows.record → executed = true) ∧
        Work.replay server (Work.statements result.2.shows.record) database =
          some result.2.shows.database) ∧
      (result.1 = false → result.2.shows.database = database) := by
  refine ⟨fun calls => ⟨sent_makeCalls work database calls,
    (sent_destroy _).trans (sent_makeCalls work database calls)⟩, fun calls => ?_,
    fun opens operation hpropagates => ?_⟩
  · rcases lifetime_cases work database calls with
      hlost | ⟨before, after, hcalls, hrollback, hcommitted⟩
    · refine ⟨by simp [not_isEffective hlost.pending], ?_, Or.inl hlost.unchanged⟩
      intro earlier effective later hsplit
      have hcommit := hlost.pending (.commit true effective) (by simp [hsplit])
      exact absurd hcommit.1 (by simp [Entry.isCommitted])
    · refine ⟨hcommitted.once.1, hcommitted.once.2, ?_⟩
      rcases hcommitted.database_cases with h | ⟨hview, hreplay⟩
      · exact Or.inl h
      · obtain ⟨refused, -, hrecord⟩ := hcommitted.record
        rw [hview] at hrecord
        exact Or.inr ⟨before, after, refused, hcalls, hrollback, hrecord,
          fun e he => (hcommitted.isOpen.pending e he).2, hreplay⟩
  · refine ⟨fun hreturned => ?_, executeInTransaction_threw opens operation⟩
    obtain ⟨statements, hperform, hrecord⟩ :=
      executeInTransaction_returned hpropagates hreturned
    have hreplay := Operation.replay_of_perform hperform
    refine ⟨⟨statements, hperform, hrecord, hreplay⟩, fun s executed hmem => ?_, ?_⟩
    · rw [hrecord] at hmem
      rcases List.mem_append.mp hmem with hmem | hmem
      · obtain ⟨s', -, hs'⟩ := List.mem_map.mp hmem
        exact (Entry.statement.inj hs').2.symm
      · exact absurd (List.mem_singleton.mp hmem) (by simp)
    · rw [hrecord, Work.statements_map_statement]
      exact (congrArg (Work.replay server · database) (List.append_nil _)).trans hreplay

/-- Code that makes two statements and swallows no exception. -/
def twoStatements : Operation :=
  .call (.execute (str "first")) fun
    | none => .throw
    | some _ => .call (.executeParams (str "second") [.string (str "value")]) fun
      | none => .throw
      | some _ => .finish

lemma propagates_twoStatements : twoStatements.Propagates :=
  .call .throw fun _ => .call .throw fun _ => .finish

/-- A database of the statements that were executed. -/
def logging (statement : Statement) (log : List Statement) :
    Option (List Row × List Statement) :=
  some ([], log ++ [statement])

/-- Both statements are kept; and none is when the second throws. -/
theorem transaction_lifecycle_two :
    (executeInTransaction (Work.scripted logging fun _ => .proceeds)
        true [] twoStatements).2.shows.database =
      [⟨str "first", []⟩, ⟨str "second", [str "value"]⟩] ∧
    (executeInTransaction (Work.scripted logging fun n => if n = 1 then .breaks else .proceeds)
        true [] twoStatements).2.shows.database = [] := by
  have hkept := ((transaction_lifecycle (Work.scripted logging fun _ => .proceeds) []).2.2 true
    twoStatements propagates_twoStatements).1 (by decide +kernel)
  have hlost := ((transaction_lifecycle (Work.scripted logging fun n =>
    if n = 1 then .breaks else .proceeds) []).2.2 true twoStatements propagates_twoStatements).2
      (by decide +kernel)
  obtain ⟨⟨statements, hperform, -⟩, -⟩ := hkept
  exact ⟨(Prod.mk.inj (Option.some.inj hperform)).2.symm, hlost⟩

/-- When nothing comes in between, the code ends as it means to. -/
lemma Operation.Propagates.run_proceeds {operation : Operation} (h : operation.Propagates)
    {t : PostgresTransaction (Work.scripted server fun _ => .proceeds)} {v : δ}
    (hstatus : t.shows.status = .active) (hview : t.shows.view = some v) :
    (operation.run t).1 = (operation.perform server v).isSome := by
  induction h generalizing t v with
  | finish => rfl
  | throw => rfl
  | @call invocation next throws _ ih =>
    rw [Operation.run_call, Operation.perform]
    have hexec : Work.exec server .proceeds invocation.statement t.txn = _ :=
      Work.exec_proceeds server hstatus hview
    rcases hserver : server invocation.statement v with _ | ⟨rows, v'⟩
    · rw [hserver] at hexec
      have hnone : (t.execute invocation).1 = none := congrArg Prod.fst hexec
      rw [hnone]
      exact throws.run _
    · rw [hserver] at hexec
      have hsome : (t.execute invocation).1 = some rows := congrArg Prod.fst hexec
      have hshows : (t.execute invocation).2.shows = _ := congrArg Prod.snd hexec
      rw [hsome, Option.bind_some, Option.isSome_map]
      exact ih rows (by rw [hshows]; exact hstatus) (by rw [hshows])

/-- When nothing comes in between, `ExecuteInTransaction` returns exactly if the code does what it
means to do. -/
theorem executeInTransaction_proceeds {operation : Operation} (h : operation.Propagates)
    (database : δ) :
    (executeInTransaction (Work.scripted server fun _ => .proceeds) true database operation).1 =
      (operation.perform server database).isSome := by
  let start := PostgresTransaction.new (Work.scripted server fun _ => .proceeds) database
  have hopen : IsOpen database (operation.run start).2 := operation.run_isOpen isOpen_new
  have hrun : (operation.run start).1 = (operation.perform server database).isSome :=
    h.run_proceeds rfl rfl
  rw [executeInTransaction_opens, ← hrun]
  split
  · rename_i hreturned
    have hcommit : (Work.commit .proceeds (operation.run start).2.txn).1 = true :=
      Work.commit_proceeds hopen.status
    exact ((commit_of_flag hopen.flag).1.trans hcommit).trans hreturned.symm
  · rename_i hthrew
    exact (Bool.eq_false_of_not_eq_true hthrew).symm

end Operations

end ProfileService
