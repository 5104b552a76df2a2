import Placeholder.Text.Quoted

/-!
# What can go wrong

Every failure that a caller can see, by cause. The causes that this library finds itself carry their
wording; failures of reading a file or a document are told by kind only.
-/
namespace Placeholder

/-- A failure, by its cause. -/
inductive Error where
  | invalidDelimiter (delimiter : Char)
  | invalidContext (reason : String)
  | invalidPattern (reason : String)
  /-- A handler or a custom resolver reports that it has no answer because something failed. -/
  | handler (reason : String)
  | cache (reason : String)
  | configuration (reason : String)
  /-- A file cannot be read or is no text. -/
  | unreadable
  | malformedToml
  | malformedJson
  deriving DecidableEq, Repr

namespace Error

/-- The wording of a failure; none for the kinds that are told by kind only. -/
def message? : Error → Option String
  | invalidDelimiter c => some ("invalid placeholder delimiter: " ++ Text.quoteChar c)
  | invalidContext reason => some ("invalid context: " ++ reason)
  | invalidPattern reason => some ("invalid handler pattern: " ++ reason)
  | handler reason => some ("handler error: " ++ reason)
  | cache reason => some ("cache error: " ++ reason)
  | configuration reason => some ("configuration error: " ++ reason)
  | unreadable | malformedToml | malformedJson => none

def targetWithoutPrimary : Error :=
  invalidContext "relational target set without a primary subject"

def onlineWithoutPrimary : Error :=
  invalidContext "online flag set without a primary subject"

def invalidName (name : String) : Error :=
  invalidPattern ("invalid expansion name " ++ Text.quoteText name)

def emptyPattern (name : String) : Error :=
  invalidPattern ("empty identifier pattern for expansion " ++ Text.quoteText name)

def emptyCache : Error :=
  configuration "cache.max_entries must be positive when the cache is enabled"

end Error
end Placeholder
