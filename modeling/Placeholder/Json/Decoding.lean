import Placeholder.Json.Reader
import Placeholder.Error
import Placeholder.Subject
import Placeholder.Time.Ttl

/-!
# Typed views of JSON values

A value is taken as a type only if it is of that type already: no number is read from a string and
no floating point number is taken for a whole one.
-/
namespace Placeholder.Json

def natural? (bound : Nat) : Json → Option Nat
  | .number (.natural n) => if n.toNat ≤ bound then some n.toNat else none
  | _ => none

def word32? (json : Json) : Option Nat := json.natural? (UInt32.size - 1)

def integer? : Json → Option Int
  | .number (.natural n) => if n.toNat ≤ Int64.maxValue.toInt then some n.toNat else none
  | .number (.negative n) => some n.toInt
  | _ => none

def bool? : Json → Option Bool
  | .bool b => some b
  | _ => none

def string? : Json → Option String
  | .string s => some s
  | _ => none

def strings? : Json → Option (List String)
  | .array items => items.mapM string?
  | _ => none

/-- A value of the inner type, or nothing for null. -/
def optional? {α : Type} (inner : Json → Option α) : Json → Option (Option α)
  | .null => some none
  | json => (inner json).map some

/-- The view of a value, or the failure that it is of another type. -/
def decode {α : Type} (view : Json → Option α) (json : Json) : Except Error α :=
  match view json with
  | some a => .ok a
  | none => .error .malformedJson

def subject? (json : Json) : Option Subject := json.string?.bind Subject.ofText?

end Json

/-- Reads a time to live from the text of a whole number. -/
def Ttl.ofJson (text : String) : Except Error Ttl :=
  match (Json.read? text).bind (Json.natural? largest) with
  | some millis => .ok ⟨UInt64.ofNat millis⟩
  | none => .error .malformedJson

def Ttl.toJson (ttl : Ttl) : String := toString ttl.millis.toNat

end Placeholder
