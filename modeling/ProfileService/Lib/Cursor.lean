/-
# Cursors

A cursor hands out one item after the other.  There are two ways to walk one: to get items until
there is none, and to get an item, move on and go on as long as that succeeds.  A walk is a
relation between the state of the cursor and the items, so that one that is in it has stopped.
-/
import Mathlib.Data.List.Basic
import Mathlib.Tactic.Common

namespace Cursor

variable {S A : Type*}

/-- Get items until there is none. -/
inductive Drains (get : S → Option A × S) : S → List A → Prop
  | stop {s s' : S} (hget : get s = (none, s')) : Drains get s []
  | more {s s' : S} {a : A} {as : List A} (hget : get s = (some a, s')) (rest : Drains get s' as) :
      Drains get s (a :: as)

/-- Get an item and move on, as long as moving on succeeds.  No walk gets past an item that is
not there. -/
inductive Walks (get : S → Option A × S) (next : S → Bool × S) : S → List A → Prop
  | last {s s' s'' : S} {a : A} (hget : get s = (some a, s')) (hnext : next s' = (false, s'')) :
      Walks get next s [a]
  | more {s s' s'' : S} {a : A} {as : List A} (hget : get s = (some a, s'))
      (hnext : next s' = (true, s'')) (rest : Walks get next s'' as) : Walks get next s (a :: as)

/-- A cursor is walked in one way. -/
lemma Walks.unique {get : S → Option A × S} {next : S → Bool × S} {s : S} {as bs : List A}
    (h : Walks get next s as) (h' : Walks get next s bs) : as = bs := by
  induction h generalizing bs with
  | last hget hnext =>
    cases h' with
    | last hget' hnext' =>
      rw [Option.some.inj (Prod.mk.inj (hget.symm.trans hget')).1]
    | more hget' hnext' rest' =>
      obtain ⟨-, rfl⟩ := Prod.mk.inj (hget.symm.trans hget')
      exact absurd (Prod.mk.inj (hnext.symm.trans hnext')).1 (by simp)
  | more hget hnext rest ih =>
    cases h' with
    | last hget' hnext' =>
      obtain ⟨-, rfl⟩ := Prod.mk.inj (hget.symm.trans hget')
      exact absurd (Prod.mk.inj (hnext.symm.trans hnext')).1 (by simp)
    | more hget' hnext' rest' =>
      obtain ⟨ha, rfl⟩ := Prod.mk.inj (hget.symm.trans hget')
      obtain ⟨-, rfl⟩ := Prod.mk.inj (hnext.symm.trans hnext')
      rw [Option.some.inj ha, ih rest']

end Cursor
