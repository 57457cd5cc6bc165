/-!
Places in source files.

* `LineRange`: the lines that something covers, of which the last may be unknown;
* `LineRange.contains`, `LineRange.count`: membership of a line, and the number of lines;
* `Location`: lines of a file;
* `LineRange.text`, `Location.text`: the written forms, as in `3-15` and `a.php:3-15`;
* `LineRange.contains_iff`: a line is covered when it lies between the first and the last.
-/

namespace PhpIndex

/-- The lines that something covers. Lines are counted from one; zero stands for a line that is
not known. -/
structure LineRange where
  first : Nat := 0
  /-- The last line, if it is known. -/
  last : Option Nat := none
deriving DecidableEq

namespace LineRange

/-- A single line. -/
def single (line : Nat) : LineRange := { first := line, last := some line }

/-- The line up to which the range is known to reach. -/
def reach (r : LineRange) : Nat := r.last.getD r.first

/-- Whether the range covers the line. If the last line is unknown it covers only the first. -/
def contains (r : LineRange) (line : Nat) : Bool := r.first ≤ line && line ≤ r.reach

/-- The number of lines covered, at least one. -/
def count (r : LineRange) : Nat := r.reach - r.first + 1

/-- The written form: the first line, and the last if it is another one. -/
def text (r : LineRange) : String :=
  if r.reach = r.first then toString r.first
  else toString r.first ++ "-" ++ toString r.reach

theorem contains_iff {r : LineRange} {line : Nat} :
    r.contains line = true ↔ r.first ≤ line ∧ line ≤ r.reach := by
  simp [contains]

end LineRange

/-- Lines of a file. -/
structure Location where
  file : String := ""
  range : LineRange := {}
deriving DecidableEq

namespace Location

/-- The first line. -/
def line (l : Location) : Nat := l.range.first

/-- The written form: the file and its lines. -/
def text (l : Location) : String := l.file ++ ":" ++ l.range.text

end Location

end PhpIndex
