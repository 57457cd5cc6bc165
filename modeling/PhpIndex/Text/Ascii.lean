/-!
Case folding of the ASCII letters, all other characters kept.

* `asciiLower`: lower case for `A` to `Z`;
* `eqIgnoreAsciiCase`: equality up to the case of ASCII letters.
-/

namespace PhpIndex.Text

/-- The text with the letters `A` to `Z` in lower case. -/
def asciiLower (s : String) : String := String.ofList (s.toList.map Char.toLower)

/-- Whether two texts are equal up to the case of ASCII letters. -/
def eqIgnoreAsciiCase (s t : String) : Bool := asciiLower s == asciiLower t

theorem eqIgnoreAsciiCase_iff {s t : String} :
    eqIgnoreAsciiCase s t = true ↔ asciiLower s = asciiLower t := by
  simp [eqIgnoreAsciiCase]

/-- Whether the text is one of the given ones up to the case of ASCII letters. -/
def isAmongIgnoringCase (names : List String) (s : String) : Bool :=
  names.any (eqIgnoreAsciiCase · s)

end PhpIndex.Text
