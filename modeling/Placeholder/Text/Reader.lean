/-!
# Readers

A reader takes a front part of a text, makes a value of it, and hands on the rest. It has nothing to
say on a text that does not begin as it should.
-/
namespace Placeholder.Text

/-- Reads a front part of a text and hands on the rest. -/
abbrev Reader (α : Type) := List Char → Option (α × List Char)

end Placeholder.Text
