/-!
# TOML values

What a TOML document can say. Dates and times are told apart from everything else but not from each
other, since nothing here is asked of them.
-/
namespace Placeholder

inductive Toml where
  | string (s : String)
  | integer (n : Int)
  | float (x : Float)
  | boolean (b : Bool)
  /-- A date, a time or both. -/
  | moment
  | array (items : List Toml)
  | table (members : List (String × Toml))

end Placeholder
