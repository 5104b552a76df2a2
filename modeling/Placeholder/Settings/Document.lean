import Placeholder.Settings.Basic
import Placeholder.Toml.Reader

/-!
# Settings from a document

Settings are read from TOML. What a document does not mention keeps its standard value, what it
mentions beyond the settings does not matter, and a setting of the wrong type is a fault of the
document. A section is a table, or an array that gives its settings in their order.
-/
namespace Placeholder.Settings

/-- Where to find the settings of a section by name. -/
abbrev Fields := String → Option Toml

/-- The settings of a section, whose names are given in order. A date in place of a section is a
section that mentions nothing. -/
def fields? (names : List String) : Toml → Option Fields
  | .table members => some fun name => members.lookup name
  | .array items => some fun name => (names.zip items).lookup name
  | .moment => some fun _ => none
  | _ => none

/-- The section under a name; one that is missing mentions nothing. -/
def sectionOf? (document : Fields) (name : String) (names : List String) : Option Fields :=
  match document name with
  | none => some fun _ => none
  | some v => fields? names v

/-- A setting of some type; one that is missing has its standard value. -/
def setting? {α : Type} (fields : Fields) (name : String) (view : Toml → Option α)
    (standard : α) : Option α :=
  match fields name with
  | none => some standard
  | some v => view v

def string? : Toml → Option String
  | .string s => some s
  | _ => none

def boolean? : Toml → Option Bool
  | .boolean b => some b
  | _ => none

def char? : Toml → Option Char
  | .string s =>
    match s.toList with
    | [c] => some c
    | _ => none
  | _ => none

def word64? : Toml → Option UInt64
  | .integer n => if 0 ≤ n then some (UInt64.ofNat n.toNat) else none
  | _ => none

def ofFields? (document : Fields) : Option Settings := do
  let fallback ← setting? document "fallback" (fun v => (string? v).map some) none
  let preserveUnknown ← setting? document "preserve_unknown" boolean? false
  let delimiter ← setting? document "delimiter" char? Delimiter.percent.char
  let cache ← sectionOf? document "cache" ["enabled", "max_entries"]
  let cacheEnabled ← setting? cache "enabled" boolean? true
  let maxEntries ← setting? cache "max_entries" word64? Cache.standardCapacity
  let registry ← sectionOf? document "registry" ["default_ttl_ms"]
  let defaultTtl ← setting? registry "default_ttl_ms" word64? Ttl.standard.millis
  return {
    fallback, preserveUnknown, delimiter, cacheEnabled, maxEntries, defaultTtl := ⟨defaultTtl⟩ }

def read (text : String) : Except Error Settings := do
  match (Toml.read? text).bind fun members => ofFields? fun name => members.lookup name with
  | none => throw .malformedToml
  | some s =>
    let _ ← s.check
    return s

/-- Reads settings from the bytes of a file; none if there is no file to be read. -/
def ofBytes (content : Option ByteArray) : Except Error Settings := do
  match content.bind String.fromUTF8? with
  | none => throw .unreadable
  | some text => read text

end Placeholder.Settings
