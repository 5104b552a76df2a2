import Placeholder.Toml.Value

/-!
# The tree of a document

A document names its tables in three ways: by a header, as a step on the way to a header, or by a
dotted key. How a table came about decides what may still be added to it, so the tree remembers it
while the document is read. A value that is written after an equals sign is closed for good.
-/
namespace Placeholder.Toml

/-- How a table came about. -/
inductive Form where
  | header
  /-- On the way to a header. -/
  | implied
  | dotted
  deriving DecidableEq, Repr

/-- A part of a document that is still being read. -/
inductive Node where
  | value (v : Toml)
  | table (form : Form) (members : List (String × Node))
  /-- An array of tables, the last one first. -/
  | tables (elements : List (List (String × Node)))

abbrev Node.Members := List (String × Node)

namespace Node

/-- The members with one under a key, in its old place if there was one. -/
def put (key : String) (node : Node) : Members → Members
  | [] => [(key, node)]
  | (k, old) :: rest => if k = key then (key, node) :: rest else (k, old) :: put key node rest

/-- Changes the table at the end of a path. Tables that are missing on the way come about by the
header or dotted key that the path belongs to. The last table of an array stands for the array, and
a dotted key does not enter a table that has a header. -/
def changeAt (byDottedKey : Bool) (change : Form → Members → Option Members) :
    Form → List String → Members → Option Members
  | form, [], members => change form members
  | _, key :: path, members =>
    match members.lookup key with
    | none => do
      let form := if byDottedKey then .dotted else .implied
      let inner ← changeAt byDottedKey change form path []
      return put key (table form inner) members
    | some (value _) => none
    | some (tables []) => none
    | some (tables (last :: earlier)) => do
      let last ← changeAt byDottedKey change .header path last
      return put key (tables (last :: earlier)) members
    | some (table form inner) =>
      if byDottedKey && form == .header then none
      else do
        let inner ← changeAt byDottedKey change form path inner
        return put key (table form inner) members

/-- Adds a value by a dotted key to a table. The tables that the key names must be its own. -/
def addPair (path : List String) (key : String) (v : Toml) (members : Members) :
    Option Members :=
  changeAt true (fun form members =>
    if (form == .dotted) == path.isEmpty then none
    else if (members.lookup key).isSome then none
    else some (put key (value v) members)) .header path members

/-- Gives a table its header. Only a table that was merely on the way may be there already. -/
def addHeader (path : List String) (key : String) (members : Members) : Option Members :=
  changeAt false (fun _ members =>
    match members.lookup key with
    | none => some (put key (table .header []) members)
    | some (table .implied inner) => some (put key (table .header inner) members)
    | some _ => none) .header path members

def addElement (path : List String) (key : String) (members : Members) : Option Members :=
  changeAt false (fun _ members =>
    match members.lookup key with
    | none => some (put key (tables [[]]) members)
    | some (tables elements) => some (put key (tables ([] :: elements)) members)
    | some _ => none) .header path members

mutual

def close : Node → Toml
  | value v => v
  | table _ members => .table (closeMembers members)
  | tables elements => .array (closeElements elements).reverse

def closeMembers : List (String × Node) → List (String × Toml)
  | [] => []
  | (key, node) :: rest => (key, close node) :: closeMembers rest

def closeElements : List (List (String × Node)) → List Toml
  | [] => []
  | members :: rest => .table (closeMembers members) :: closeElements rest

end

end Node
end Placeholder.Toml
