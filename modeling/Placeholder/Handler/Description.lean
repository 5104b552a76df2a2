import Placeholder.Handler.Basic
import Placeholder.Decimal.Layout

/-!
# Descriptions of handlers

One line that tells all that is known of a handler but its code, for logs and for eyes.
-/
namespace Placeholder

/-- Distances have an exponent from `1e16` on and below `1e-4`. -/
def distanceLayout : Decimal.Layout where
  leastPlaces := -3
  mostPlaces := 16
  tie := .up

def describeOption {α : Type} (describe : α → String) : Option α → String
  | none => "None"
  | some a => "Some(" ++ describe a ++ ")"

def describeBool (b : Bool) : String := if b then "true" else "false"

def Pattern.describe : Pattern → String
  | exact identifier => "Exact(" ++ Text.quoteText identifier ++ ")"
  | leading front => "Prefix(" ++ Text.quoteText front ++ ")"
  | any => "Any"

def Ttl.describe (ttl : Ttl) : String := "CacheTtl(" ++ toString ttl.millis.toNat ++ ")"

def describeFields (name : String) (fields : List String) : String :=
  name ++ " \x7b " ++ String.intercalate ", " fields ++ " \x7d"

/-- All that is known of a handler but its code. -/
def Handler.describe {σ : Type} (h : Handler σ) : String :=
  describeFields "PlaceholderHandler"
    ["expansion: " ++ Text.quoteText h.expansion,
     "pattern: " ++ h.pattern.describe,
     "ttl: " ++ describeOption Ttl.describe h.ttl,
     "relational: " ++ describeBool h.relational,
     "requires_online: " ++ describeBool h.requiresOnline,
     "constraints: " ++ describeFields "RelationalConstraints"
       ["same_world: " ++ describeBool h.sameWorld,
        "max_distance: " ++ describeOption distanceLayout.write h.maxDistance],
     ".."]

end Placeholder
