/-
# Records

What clients know of a document before they read it: which members an object has and of which
kinds they are.
-/
import Mathlib.Data.List.Nodup
import ProfileService.Lib.Json

namespace Json

/-- The kinds of members. -/
inductive Kind
  | string
  | integer
  | bool
deriving DecidableEq

/-- The kind of a value, `none` for a value that is no member of a record. -/
def kind? : Json → Option Kind
  | .string _ => some .string
  | .integer _ => some .integer
  | .bool _ => some .bool
  | _ => none

lemma sorted_of_kind {j : Json} {kind : Kind} (h : j.kind? = some kind) : j.Sorted := by
  cases j with
  | string s => exact sorted_string s
  | integer n => exact sorted_integer n
  | bool b => exact sorted_bool b
  | null | float | array | object => exact absurd h (by simp [kind?])

/-- The fields of a record: those it always has and those it may have. -/
structure Record where
  required : List (Bytes × Kind)
  optional : List (Bytes × Kind)
  nodup : ((required ++ optional).map Prod.fst).Nodup

/-- The value has the required fields, and no members besides the fields. -/
structure IsRecord (record : Record) (j : Json) : Prop where
  required : ∀ f ∈ record.required, ∃ v, j.member? f.1 = some v ∧ v.kind? = some f.2
  closed : ∀ k v, j.member? k = some v →
    ∃ f ∈ record.required ++ record.optional, f.1 = k ∧ v.kind? = some f.2

/-- What a document holds: one record, or a list of them. -/
inductive Shape
  | record (r : Record)
  | list (r : Record)

/-- The value is of the shape. -/
def Shape.Fits : Shape → Json → Prop
  | .record r, j => j.IsRecord r
  | .list r, j => ∃ items, j = .array items ∧ ∀ item ∈ items, item.IsRecord r

section Record

variable {record : Record} {ms : List (Bytes × Json)} {extra : List (Bytes × Kind)}

/-- The kind of a field is that of its name. -/
lemma Record.kind_unique {f f' : Bytes × Kind} (hf : f ∈ record.required ++ record.optional)
    (hf' : f' ∈ record.required ++ record.optional) (hname : f.1 = f'.1) : f = f' :=
  List.inj_on_of_nodup_map record.nodup hf hf' hname

/-- Members of the kinds of the required fields, and of some of the optional ones, make a
record. -/
lemma isRecord_ofMembers
    (hkinds : ms.map (Prod.map id kind?) = (record.required ++ extra).map (Prod.map id some))
    (hextra : extra ⊆ record.optional) : (ofMembers ms).IsRecord record := by
  have hmem : ∀ m ∈ ms, ∃ f ∈ record.required ++ extra, f.1 = m.1 ∧ m.2.kind? = some f.2 := by
    intro m hm
    obtain ⟨f, hf, heq⟩ := List.mem_map.mp (hkinds ▸ List.mem_map_of_mem hm)
    obtain ⟨hname, hkind⟩ := Prod.mk.inj heq
    exact ⟨f, hf, hname, hkind.symm⟩
  have hfields : ∀ f ∈ record.required ++ extra, f ∈ record.required ++ record.optional :=
    fun f hf => List.mem_append.mpr ((List.mem_append.mp hf).imp_right fun h => hextra h)
  have hclosed : ∀ k v, (ofMembers ms).member? k = some v →
      ∃ f ∈ record.required ++ record.optional, f.1 = k ∧ v.kind? = some f.2 := by
    intro k v hv
    rw [member?_ofMembers] at hv
    obtain ⟨ms₁, ms₂, heq, -⟩ := List.lookup_eq_some_iff.mp hv
    obtain ⟨f, hf, hname, hkind⟩ := hmem (k, v) (List.mem_reverse.mp (by rw [heq]; simp))
    exact ⟨f, hfields f hf, hname, hkind⟩
  refine ⟨fun f hf => ?_, hclosed⟩
  obtain ⟨m, hm, heq⟩ := List.mem_map.mp
    (hkinds ▸ List.mem_map_of_mem (List.mem_append_left extra hf))
  obtain ⟨v, hv⟩ : ∃ v, (ofMembers ms).member? f.1 = some v := by
    rw [member?_ofMembers, ← Option.isSome_iff_exists, List.lookup_isSome_iff]
    exact ⟨m, List.mem_reverse.mpr hm, beq_iff_eq.mpr (Prod.mk.inj heq).1.symm⟩
  obtain ⟨f', hf', hname, hkind⟩ := hclosed f.1 v hv
  -- the member under the name is of the kind of the one field with this name
  obtain rfl := Record.kind_unique hf' (List.mem_append_left _ hf) hname
  exact ⟨v, hv, hkind⟩

lemma ofMembers_sorted_of_kinds
    (hkinds : ms.map (Prod.map id kind?) = (record.required ++ extra).map (Prod.map id some)) :
    (ofMembers ms).Sorted := by
  refine ofMembers_sorted fun m hm => ?_
  obtain ⟨f, -, heq⟩ := List.mem_map.mp (hkinds ▸ List.mem_map_of_mem hm)
  exact sorted_of_kind (Prod.mk.inj heq).2.symm

end Record

end Json
