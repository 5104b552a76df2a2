/-!
# Byte positions in a text

Positions in a text are counted in bytes of its UTF-8 form. A text is a list of characters here,
so a byte position is either the border between two characters or no position at all, and an edit
that names such a non-position fails. The lemmas say that a cut at the length of a known front part
finds exactly that part.
-/
namespace Placeholder.Text

def byteLength : List Char → Nat
  | [] => 0
  | c :: rest => c.utf8Size + byteLength rest

@[simp] theorem byteLength_nil : byteLength [] = 0 := rfl

@[simp] theorem byteLength_cons (c : Char) (rest : List Char) :
    byteLength (c :: rest) = c.utf8Size + byteLength rest := rfl

@[simp] theorem byteLength_append (front back : List Char) :
    byteLength (front ++ back) = byteLength front + byteLength back := by
  induction front with
  | nil => simp
  | cons c front ih => simp [ih, Nat.add_assoc]

/-- The characters before and after a byte position; none if it is not a border of the text. -/
def splitAtByte : List Char → Nat → Option (List Char × List Char)
  | text, 0 => some ([], text)
  | [], _ + 1 => none
  | c :: rest, n + 1 =>
    if c.utf8Size ≤ n + 1 then
      (splitAtByte rest (n + 1 - c.utf8Size)).map fun parts => (c :: parts.1, parts.2)
    else none

@[simp] theorem splitAtByte_zero (text : List Char) : splitAtByte text 0 = some ([], text) := by
  cases text <;> rfl

theorem splitAtByte_byteLength (front back : List Char) :
    splitAtByte (front ++ back) (byteLength front) = some (front, back) := by
  induction front with
  | nil => simp
  | cons c front ih =>
    have positive : 0 < c.utf8Size := Char.utf8Size_pos c
    obtain ⟨n, hn⟩ : ∃ n, c.utf8Size + byteLength front = n + 1 :=
      ⟨c.utf8Size + byteLength front - 1, by omega⟩
    have fits : c.utf8Size ≤ n + 1 := by omega
    have left : n + 1 - c.utf8Size = byteLength front := by omega
    simp [hn, splitAtByte, fits, left, ih]

/-- The text with the bytes from `start` up to `stop` replaced; none if they are no stretch of
whole characters of the text. -/
def replaceRange (text : List Char) (start stop : Nat) (value : List Char) :
    Option (List Char) :=
  if start ≤ stop then
    match splitAtByte text start with
    | none => none
    | some (front, rest) =>
      (splitAtByte rest (stop - start)).map fun parts => front ++ value ++ parts.2
  else none

theorem replaceRange_append (front middle back value : List Char) :
    replaceRange (front ++ middle ++ back) (byteLength front)
        (byteLength front + byteLength middle) value
      = some (front ++ value ++ back) := by
  have inner := splitAtByte_byteLength middle back
  simp [replaceRange, List.append_assoc, splitAtByte_byteLength, inner]

end Placeholder.Text
