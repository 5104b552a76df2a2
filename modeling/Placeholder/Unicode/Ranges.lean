/-!
# Ranges of code points

A property of characters that a standard fixes by enumeration is kept as a list of closed ranges
of code points. The tables beside this module are such lists.
-/
namespace Placeholder.Unicode

/-- Closed ranges of code points, in ascending order and apart from each other. -/
abbrev Ranges := List (Nat × Nat)

def Ranges.has (table : Ranges) (c : Char) : Bool :=
  table.any fun range => range.1 ≤ c.toNat && c.toNat ≤ range.2

@[simp] theorem Ranges.has_nil (c : Char) : Ranges.has [] c = false := rfl

theorem Ranges.has_cons (low high : Nat) (table : Ranges) (c : Char) :
    Ranges.has ((low, high) :: table) c =
      ((low ≤ c.toNat && c.toNat ≤ high) || Ranges.has table c) := rfl

end Placeholder.Unicode
