/-
# Result sets

`PostgresResultSet`, a cursor over the rows of a result.  Getting a row moves the cursor past it,
and so does moving on, so that a walk that does both skips every other row.
-/
import ProfileService.Connection
import ProfileService.Lib.Cursor

namespace ProfileService

open Cursor (Drains Walks)

/-- `PostgresResultSet`. -/
structure PostgresResultSet where
  result : List Row
  currentIndex : ℕ

/-- `PostgresResultSet(result)`. -/
def PostgresResultSet.new (result : List Row) : PostgresResultSet := ⟨result, 0⟩

/-- `PostgresResultSet::Size`. -/
def PostgresResultSet.size (rs : PostgresResultSet) : ℕ := rs.result.length

/-- `PostgresResultSet::GetRow()`. -/
def PostgresResultSet.getRow (rs : PostgresResultSet) : Option Row × PostgresResultSet :=
  if rs.size ≤ rs.currentIndex then (none, rs)
  else (rs.result[rs.currentIndex]?, { rs with currentIndex := rs.currentIndex + 1 })

/-- `PostgresResultSet::Next`. -/
def PostgresResultSet.next (rs : PostgresResultSet) : Bool × PostgresResultSet :=
  let currentIndex := rs.currentIndex + 1
  (decide (currentIndex < rs.size), { rs with currentIndex := currentIndex })

/-- The rows at the even places. -/
def everyOther : List Row → List Row
  | [] => []
  | [row] => [row]
  | row :: _ :: rows => row :: everyOther rows

lemma length_everyOther (rows : List Row) : (everyOther rows).length = (rows.length + 1) / 2 := by
  induction rows using everyOther.induct with
  | case1 => rfl
  | case2 row => simp [everyOther]
  | case3 row _ rows ih =>
    rw [everyOther, List.length_cons, ih, List.length_cons, List.length_cons]
    omega

section Walk

variable {before rows : List Row} {row : Row}

/-- Getting the row after those that were passed. -/
lemma PostgresResultSet.getRow_append :
    PostgresResultSet.getRow ⟨before ++ row :: rows, before.length⟩ =
      (some row, ⟨before ++ row :: rows, before.length + 1⟩) := by
  have hlt : ¬ (before ++ row :: rows).length ≤ before.length := by simp
  rw [PostgresResultSet.getRow, PostgresResultSet.size, if_neg hlt]
  simp

/-- To get rows until there is none goes through all that are left. -/
lemma drains_append (rows before : List Row) :
    Drains PostgresResultSet.getRow ⟨before ++ rows, before.length⟩ rows := by
  induction rows generalizing before with
  | nil =>
    have hend : PostgresResultSet.getRow ⟨before ++ [], before.length⟩ =
        (none, ⟨before ++ [], before.length⟩) := if_pos (by simp [PostgresResultSet.size])
    exact .stop hend
  | cons row rows ih =>
    refine .more PostgresResultSet.getRow_append ?_
    have h := ih (before ++ [row])
    rwa [List.append_assoc, List.length_append, List.length_singleton] at h

/-- To get a row and move on goes through every other row that is left. -/
lemma walks_append (rows before : List Row) (hrows : rows ≠ []) :
    Walks PostgresResultSet.getRow PostgresResultSet.next ⟨before ++ rows, before.length⟩
      (everyOther rows) := by
  induction rows using everyOther.induct generalizing before with
  | case1 => exact absurd rfl hrows
  | case2 row =>
    refine .last PostgresResultSet.getRow_append (Prod.ext ?_ rfl)
    simp [PostgresResultSet.next, PostgresResultSet.size]
  | case3 row skipped rows ih =>
    rcases rows with _ | ⟨row', rows⟩
    · refine .last PostgresResultSet.getRow_append (Prod.ext ?_ rfl)
      simp [PostgresResultSet.next, PostgresResultSet.size]
    · refine .more PostgresResultSet.getRow_append (Prod.ext ?_ rfl) ?_
      · simp only [PostgresResultSet.next, PostgresResultSet.size, List.length_append,
          List.length_cons, decide_eq_true_eq]
        omega
      · have h := ih (before ++ [row, skipped]) (by simp)
        rw [List.append_assoc, List.length_append] at h
        exact h

end Walk

/-- Both walks over a fresh result set go through all rows in order and stop, exactly when there
is at most one row. -/
theorem cursor_complete_iff (result : List Row) :
    (Drains PostgresResultSet.getRow (.new result) result ∧
      (result ≠ [] → Walks PostgresResultSet.getRow PostgresResultSet.next (.new result) result)) ↔
      result.length ≤ 1 := by
  constructor
  · rintro ⟨-, hwalks⟩
    by_cases hnil : result = []
    · simp [hnil]
    have hlength := congrArg List.length ((hwalks hnil).unique (walks_append result [] hnil))
    rw [length_everyOther] at hlength
    omega
  · intro hlength
    refine ⟨drains_append result [], fun hnil => ?_⟩
    have hwalks := walks_append result [] hnil
    match result, hlength with
    | [row], _ => exact hwalks

/-- Of two rows the second is skipped. -/
theorem second_row_skipped :
    Walks PostgresResultSet.getRow PostgresResultSet.next
      (.new [[("id", boolField true)], [("id", boolField false)]]) [[("id", boolField true)]] ∧
    ¬ Walks PostgresResultSet.getRow PostgresResultSet.next
      (.new [[("id", boolField true)], [("id", boolField false)]])
      [[("id", boolField true)], [("id", boolField false)]] := by
  have hwalks := walks_append [[("id", boolField true)], [("id", boolField false)]] [] (by simp)
  exact ⟨hwalks, fun h => absurd (congrArg List.length (h.unique hwalks)) (by decide)⟩

end ProfileService
