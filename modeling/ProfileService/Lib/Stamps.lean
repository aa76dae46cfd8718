/-
# Rows with the time of their latest write

A table is stamped after a history of writes when every row carries the time of the latest one
that wrote it.  A statement that sets the stamp of every row it hits keeps a table stamped.
-/
import ProfileService.Lib.Mealy
import ProfileService.Lib.Table

namespace Table

variable {ρ E : Type*}

/-- Every row carries the time of the latest entry that wrote it. -/
def Stamped (stamp : ρ → Option ℤ) (written : ρ → E → Option ℤ) (es : List E) (t : List ρ) :
    Prop :=
  ∀ r ∈ t, ∃ x, Mealy.latest (written r) es = some x ∧ stamp r = some x

variable {stamp : ρ → Option ℤ} {written : ρ → E → Option ℤ} {es : List E} {e : E} {t : List ρ}

lemma Stamped.nil : Stamped stamp written es [] := by simp [Stamped]

/-- A row that an entry wrote carries its time. -/
lemma Stamped.eq_of_written (h : Stamped stamp written (es ++ [e]) t) {r : ρ} (hr : r ∈ t) {x : ℤ}
    (hwritten : written r e = some x) : stamp r = some x := by
  obtain ⟨y, hlatest, hstamp⟩ := h r hr
  rw [Mealy.latest_concat, hwritten, Option.some_or] at hlatest
  rwa [hlatest]

/-- One row after an entry that did not write it. -/
lemma Stamped.of_missed (h : Stamped stamp written es t) {r : ρ} (hr : r ∈ t)
    (hmiss : written r e = none) :
    ∃ x, Mealy.latest (written r) (es ++ [e]) = some x ∧ stamp r = some x := by
  rw [Mealy.latest_concat, hmiss, Option.none_or]
  exact h r hr

lemma of_written {r : ρ} (h : ∃ x, written r e = some x ∧ stamp r = some x) :
    ∃ x, Mealy.latest (written r) (es ++ [e]) = some x ∧ stamp r = some x := by
  obtain ⟨x, hwritten, hstamp⟩ := h
  refine ⟨x, ?_, hstamp⟩
  rw [Mealy.latest_concat, hwritten, Option.some_or]

/-- An entry that writes no row of the table. -/
lemma Stamped.concat (h : Stamped stamp written es t) (hmiss : ∀ r, written r e = none) :
    Stamped stamp written (es ++ [e]) t := fun r hr => h.of_missed hr (hmiss r)

variable {hit : ρ → Bool} {change : ρ → ρ} {fresh : ρ}

/-- An update that stamps the rows it hits. -/
lemma Stamped.update (h : Stamped stamp written es t)
    (hmiss : ∀ r, hit r = false → written r e = none)
    (hchange : ∀ r ∈ t, hit r = true →
      ∃ x, written (change r) e = some x ∧ stamp (change r) = some x) :
    Stamped stamp written (es ++ [e]) (update hit change t) := by
  intro r hr
  rcases mem_update.mp hr with ⟨hr, hhit⟩ | ⟨r', hr', hhit, rfl⟩
  · exact h.of_missed hr (hmiss r hhit)
  · exact of_written (hchange r' hr' hhit)

/-- An upsert that stamps the rows it hits and the one it inserts. -/
lemma Stamped.insertOrUpdate (h : Stamped stamp written es t)
    (hmiss : ∀ r, hit r = false → written r e = none)
    (hchange : ∀ r ∈ t, hit r = true →
      ∃ x, written (change r) e = some x ∧ stamp (change r) = some x)
    (hfresh : ∃ x, written fresh e = some x ∧ stamp fresh = some x) :
    Stamped stamp written (es ++ [e]) (insertOrUpdate hit change fresh t) := by
  intro r hr
  rcases mem_insertOrUpdate_cases hr with ⟨hr, hhit⟩ | ⟨r', hr', hhit, rfl⟩ | rfl
  · exact h.of_missed hr (hmiss r hhit)
  · exact of_written (hchange r' hr' hhit)
  · exact of_written hfresh

end Table
