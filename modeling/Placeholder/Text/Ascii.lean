/-!
# ASCII spellings

Names are compared without regard to the case of ASCII letters, and numbers and identities are
spelled with ASCII digits. Characters beyond ASCII are left alone by everything here.
-/
namespace Placeholder.Text

/-- The text with its ASCII capitals in lower case. -/
def foldCase (text : String) : String := text.map Char.toLower

@[simp] theorem toList_foldCase (text : String) :
    (foldCase text).toList = text.toList.map Char.toLower := String.toList_map

def digit? (c : Char) : Option Nat :=
  if c.isDigit then some (c.toNat - '0'.toNat) else none

def hexDigit? (c : Char) : Option Nat :=
  if c.isDigit then some (c.toNat - '0'.toNat)
  else if 'a' ≤ c ∧ c ≤ 'f' then some (c.toNat - 'a'.toNat + 10)
  else if 'A' ≤ c ∧ c ≤ 'F' then some (c.toNat - 'A'.toNat + 10)
  else none

/-- The number that the digits spell in a base; none if some character is no digit of the base. -/
def number? (base : Nat) (text : List Char) : Option Nat :=
  text.foldlM (fun value c => do
    let d ← hexDigit? c
    if d < base then some (value * base + d) else none) 0

end Placeholder.Text
