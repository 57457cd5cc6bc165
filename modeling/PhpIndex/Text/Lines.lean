import PhpIndex.Text.Utf8
import PhpIndex.Text.WhiteSpace

/-!
The lines of a file.

* `lines`: the bytes cut after each line feed, where a last piece without one counts as a
  line unless it is empty;
* `lineText`: the text of a line, without the line end;
* `nthLine?`: the line with a given number, counted from one;
* `flatten_lines`: the lines make up the content.
-/

namespace PhpIndex.Text

/-- The byte that ends a line. -/
def lineFeed : UInt8 := 10

/-- The lines of a content, each with the line feed that ends it. -/
def lines : List UInt8 → List (List UInt8)
  | [] => []
  | b :: rest =>
      if b = lineFeed then [b] :: lines rest
      else match lines rest with
        | [] => [[b]]
        | l :: ls => (b :: l) :: ls

/-- Whether the character belongs to a line end. -/
def isLineEnd (c : Char) : Bool := c == '\n' || c == '\r'

/-- The text of a line, without the line feeds and carriage returns at its end. -/
def lineText (line : List UInt8) : String := trimEnd isLineEnd (Utf8.decodeLossy line)

/-- The text of the line with the number `n`, counted from one; there is no line zero. -/
def nthLine? (content : List UInt8) (n : Nat) : Option String :=
  if n = 0 then none else (lines content)[n - 1]?.map lineText

/-- The lines make up the content. -/
theorem flatten_lines (content : List UInt8) : (lines content).flatten = content := by
  induction content with
  | nil => rfl
  | cons b rest ih =>
      rw [lines]
      split
      · simp [ih]
      · split <;> simp_all

/-- No line is empty. -/
theorem ne_nil_of_mem_lines {content l : List UInt8} (h : l ∈ lines content) : l ≠ [] := by
  induction content generalizing l with
  | nil => simp [lines] at h
  | cons b rest ih =>
      rw [lines] at h
      split at h
      · rcases List.mem_cons.mp h with rfl | h'
        · simp
        · exact ih h'
      · split at h
        · simp at h; simp [h]
        · rename_i l' ls heq
          rcases List.mem_cons.mp h with rfl | h'
          · simp
          · exact ih (by rw [heq]; exact List.mem_cons_of_mem _ h')

end PhpIndex.Text
