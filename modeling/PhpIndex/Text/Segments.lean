import PhpIndex.Text.WhiteSpace

/-!
Names of several segments, as in `App\Models\User`.

* `separator`: the character between two segments;
* `segments`: the nonempty segments of a name;
* `lastSegment`: what follows the last separator;
* `splitFirst`: a name cut at its first separator;
* `dropLeading`, `dropOuter`: a name without the separators at its start, or at either end.
-/

namespace PhpIndex.Text

/-- The character between the segments of a name. -/
def separator : Char := '\\'

/-- Whether the character separates segments. -/
def isSeparator (c : Char) : Bool := c == separator

/-- The nonempty segments of a name, outermost first. -/
def segments (s : String) : List String :=
  ((s.toList.splitOn separator).filter (! ·.isEmpty)).map String.ofList

/-- What follows the last separator of a name; all of it if there is none. -/
def lastSegment (s : String) : String :=
  String.ofList (s.toList.reverse.takeWhile (! isSeparator ·)).reverse

/-- What stands before the last segment of a name, with the separator that ends it. -/
def beforeLastSegment (s : String) : String :=
  String.ofList (s.toList.reverse.dropWhile (! isSeparator ·)).reverse

/-- A name cut at its first separator, if it has one. -/
def splitFirst (s : String) : Option (String × String) :=
  match s.toList.dropWhile (! isSeparator ·) with
  | [] => none
  | _ :: rest => some (String.ofList (s.toList.takeWhile (! isSeparator ·)), String.ofList rest)

/-- A name without the separators at its start. -/
def dropLeading (s : String) : String := trimStart isSeparator s

/-- A name without the separators at either end. -/
def dropOuter (s : String) : String := trimBoth isSeparator s

/-- A name without the one separator at its start, if it has one there. -/
def afterSeparator? (s : String) : Option String :=
  match s.toList with
  | [] => none
  | c :: rest => if isSeparator c then some (String.ofList rest) else none

/-! ### The parts of a name make it up -/

theorem isSeparator_iff {c : Char} : isSeparator c = true ↔ c = separator := by
  simp [isSeparator]

theorem beforeLastSegment_append_lastSegment (s : String) :
    beforeLastSegment s ++ lastSegment s = s := by
  rw [← String.toList_inj]
  simp [beforeLastSegment, lastSegment, ← List.reverse_append]

/-- The last segment holds no separator. -/
theorem separator_notMem_lastSegment (s : String) : separator ∉ (lastSegment s).toList := by
  intro h
  simp only [lastSegment, String.toList_ofList, List.mem_reverse] at h
  have hall := List.all_eq_true.mp (List.all_takeWhile (p := (! isSeparator ·))) _ h
  simp [isSeparator] at hall

end PhpIndex.Text
