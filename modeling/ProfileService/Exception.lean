/-
# Exceptions and the JSON interface

A `std::exception` is known by the text of its `what()`.  The accessors of a JSON value
that the handlers use throw the documented type errors of the JSON library.
-/
import ProfileService.Lib.Json

namespace ProfileService

open Bytes (str)

/-- A `std::exception`. -/
structure Exn where
  what : Bytes

/-- `j.type_name()`. -/
def Json.typeName : Json → Bytes
  | .null => str "null"
  | .bool _ => str "boolean"
  | .integer _ => str "number"
  | .float => str "number"
  | .string _ => str "string"
  | .array _ => str "array"
  | .object _ => str "object"

/-- `type_error` 302. -/
def typeMustBe (expected : Bytes) (j : Json) : Exn :=
  ⟨str "[json.exception.type_error.302] type must be " ++ expected ++ str ", but is " ++
    Json.typeName j⟩

/-- `type_error` 306. -/
def cannotUseValue (j : Json) : Exn :=
  ⟨str "[json.exception.type_error.306] cannot use value() with " ++ Json.typeName j⟩

/-- `j.get<std::string>()`. -/
def getString : Json → Except Exn Bytes
  | .string s => .ok s
  | j => .error (typeMustBe (str "string") j)

/-- `j.get<bool>()`. -/
def getBool : Json → Except Exn Bool
  | .bool b => .ok b
  | j => .error (typeMustBe (str "boolean") j)

/-- `j.value(key, default)`, with the conversion to the type of the default. -/
def value {α : Type} (get : Json → Except Exn α) (j : Json) (key : Bytes) (default : α) :
    Except Exn α :=
  match j with
  | .object _ =>
      match j.member? key with
      | some v => get v
      | none => .ok default
  | _ => .error (cannotUseValue j)

/-- `if (j.contains(key)) field = j[key].get<std::string>();` -/
def assignString (j : Json) (key : Bytes) (field : Option Bytes) : Except Exn (Option Bytes) :=
  match j.member? key with
  | some v => (getString v).map some
  | none => .ok field

end ProfileService
