/-!
What a text begins with.

* `afterWord?`: what follows a word at the start of a text;
* `afterWord?_eq_some_iff`: the word and what follows it make up the text.
-/

namespace PhpIndex.Text

/-- What follows the word at the start of a text, if the text starts with it. -/
def afterWord? : List Char → List Char → Option (List Char)
  | [], cs => some cs
  | _ :: _, [] => none
  | w :: word, c :: cs => if w = c then afterWord? word cs else none

/-- The word and what follows it make up the text. -/
theorem afterWord?_eq_some_iff {word cs rest : List Char} :
    afterWord? word cs = some rest ↔ cs = word ++ rest := by
  induction word generalizing cs with
  | nil => simp [afterWord?]
  | cons w word ih =>
      cases cs with
      | nil => simp [afterWord?]
      | cons c cs =>
          rw [afterWord?]
          by_cases h : w = c
          · simp [h, ih]
          · simp [h, eq_comm (a := c)]

end PhpIndex.Text
