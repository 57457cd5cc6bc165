import PhpIndex.Text.CodePointSet

/-!
White space as Unicode defines it, and the cutting of characters off the ends of a text.

* `isBlank`: the characters with the property `White_Space`;
* `trimStart`, `trimEnd`, `trimBoth`: cut off the characters of a class;
* `trim`: cuts blanks off both ends.
-/

namespace PhpIndex.Text

/-- The characters with the Unicode property `White_Space`. -/
def whiteSpace : CodePointSet where
  ranges := [
    (0x9, 0xD), (0x20, 0x20), (0x85, 0x85), (0xA0, 0xA0), (0x1680, 0x1680), (0x2000, 0x200A),
    (0x2028, 0x2029), (0x202F, 0x202F), (0x205F, 0x205F), (0x3000, 0x3000)]

/-- Whether the character is white space. -/
def isBlank (c : Char) : Bool := whiteSpace.contains c

/-- Core's ASCII white space is white space. -/
theorem isBlank_of_isWhitespace {c : Char} (h : c.isWhitespace = true) : isBlank c = true := by
  simp only [Char.isWhitespace, Bool.or_eq_true, decide_eq_true_eq] at h
  rcases h with ((rfl | rfl) | rfl) | rfl <;> decide

/-! ### Cutting off the ends of a text -/

/-- The text without the characters of the class `p` at its start. -/
def trimStart (p : Char → Bool) (s : String) : String :=
  String.ofList (s.toList.dropWhile p)

/-- The text without the characters of the class `p` at its end. -/
def trimEnd (p : Char → Bool) (s : String) : String :=
  String.ofList (s.toList.reverse.dropWhile p).reverse

/-- The text without the characters of the class `p` at either end. -/
def trimBoth (p : Char → Bool) (s : String) : String :=
  trimEnd p (trimStart p s)

/-- The text without the blanks at either end. -/
def trim (s : String) : String := trimBoth isBlank s

end PhpIndex.Text
