import PhpIndex.UnionType
import PhpIndex.Text.Leading
import PhpIndex.Text.WordChar

/-!
The tags of a doc comment, read from its characters.

* `readBlanks?`, `readType?`, `readName?`: the parts a tag is made of;
* `TagForm`: a tag with a type and perhaps the name of a variable, as `@var int $n`;
* `TagForm.read?`: such a tag at the start of a text;
* `TagForm.readAll`: the tags of one form in a text, from the left, each looked for in what
  the one before it leaves over;
* `readFirstType?`: the type of the first tag of a keyword;
* `mentions`: whether a text holds a keyword as a complete word.
-/

namespace PhpIndex.DocBlock

open Text

/-! ### The parts of a tag -/

/-- Whether the character can stand in the type that a tag gives. A `$` begins a variable
and a `*` belongs to the frame of the comment. -/
def isTypeChar (c : Char) : Bool := !(isBlank c || c == '$' || c == '*')

/-- What follows the blanks at the start of a text, of which there is at least one. -/
def readBlanks? : List Char → Option (List Char)
  | [] => none
  | c :: rest => if isBlank c then some (rest.dropWhile isBlank) else none

/-- A keyword, blanks and a type at the start of a text: the type and what follows it. -/
def readType? (keyword cs : List Char) : Option (List Char × List Char) :=
  match (afterWord? keyword cs).bind readBlanks? with
  | none => none
  | some rest =>
      match rest.takeWhile isTypeChar with
      | [] => none
      | c :: type => some (c :: type, rest.dropWhile isTypeChar)

/-- What follows the word at the start of a text; all of it if it starts differently. -/
def skipWord (word cs : List Char) : List Char := (afterWord? word cs).getD cs

/-- What follows the marks at the start of a text, each of which may be missing. -/
def skipMarks (marks : List (List Char)) (cs : List Char) : List Char :=
  marks.foldl (fun cs mark => skipWord mark cs) cs

/-- Blanks, perhaps some marks, and a variable at the start of a text: the name of the variable
and what follows it. -/
def readName? (marks : List (List Char)) (cs : List Char) : Option (List Char × List Char) :=
  match (readBlanks? cs).map (skipMarks marks) with
  | some ('$' :: rest) =>
      match rest.takeWhile isWordChar with
      | [] => none
      | c :: name => some (c :: name, rest.dropWhile isWordChar)
  | _ => none

/-! ### Reading shortens the text -/

theorem length_dropWhile_le {α : Type} (p : α → Bool) (l : List α) :
    (l.dropWhile p).length ≤ l.length :=
  (List.dropWhile_sublist p).length_le

theorem readBlanks?_length {cs rest : List Char} (h : readBlanks? cs = some rest) :
    rest.length < cs.length := by
  cases cs with
  | nil => simp [readBlanks?] at h
  | cons c cs =>
      rw [readBlanks?] at h
      split at h
      · have hle := length_dropWhile_le isBlank cs
        simp only [Option.some.injEq] at h
        subst h
        simp only [List.length_cons]
        omega
      · simp at h

theorem length_skipWord_le (word cs : List Char) : (skipWord word cs).length ≤ cs.length := by
  rw [skipWord]
  cases h : afterWord? word cs with
  | none => simp
  | some rest => simp [afterWord?_eq_some_iff.mp h]

theorem length_skipMarks_le (marks : List (List Char)) (cs : List Char) :
    (skipMarks marks cs).length ≤ cs.length := by
  induction marks generalizing cs with
  | nil => simp [skipMarks]
  | cons mark marks ih =>
      exact Nat.le_trans (ih (skipWord mark cs)) (length_skipWord_le mark cs)

theorem readType?_length {keyword cs type rest : List Char}
    (h : readType? keyword cs = some (type, rest)) : rest.length < cs.length := by
  rw [readType?] at h
  split at h
  · simp at h
  · rename_i after hafter
    split at h
    · simp at h
    · simp only [Option.some.injEq, Prod.mk.injEq] at h
      obtain ⟨mid, hmid, hblanks⟩ := Option.bind_eq_some_iff.mp hafter
      have h1 := congrArg List.length (afterWord?_eq_some_iff.mp hmid)
      rw [List.length_append] at h1
      have h2 := readBlanks?_length hblanks
      have h3 := length_dropWhile_le isTypeChar after
      rw [← h.2]
      omega

/-- No type is read of no text. -/
theorem readType?_nil (keyword : List Char) : readType? keyword [] = none := by
  cases h : readType? keyword [] with
  | none => rfl
  | some read => exact absurd (readType?_length h) (Nat.not_lt_zero _)

theorem readName?_length {marks : List (List Char)} {cs name rest : List Char}
    (h : readName? marks cs = some (name, rest)) : rest.length < cs.length := by
  rw [readName?] at h
  split at h
  · rename_i after hafter
    split at h
    · simp at h
    · simp only [Option.some.injEq, Prod.mk.injEq] at h
      obtain ⟨mid, hmid, hmarks⟩ := Option.map_eq_some_iff.mp hafter
      have h1 := readBlanks?_length hmid
      have h2 := length_skipMarks_le marks mid
      have h3 := length_dropWhile_le isWordChar after
      rw [hmarks, List.length_cons] at h2
      rw [← h.2]
      omega
  · simp at h

/-! ### Tags with a type and a name -/

/-- A type that a tag gives to a variable or a parameter, which it may name. -/
structure TypedName where
  /-- The name of the variable, without the `$`. -/
  name : Option String
  type : UnionType
deriving DecidableEq

/-- A kind of tag: its keyword, and the marks that may stand before the `$` of its variable. -/
structure TagForm where
  keyword : List Char
  marks : List (List Char)

namespace TagForm

/-- The tag of this form at the start of a text, and what follows it. A variable that cannot be
read is no part of the tag. -/
def read? (form : TagForm) (cs : List Char) : Option (TypedName × List Char) :=
  match readType? form.keyword cs with
  | none => none
  | some (type, rest) =>
      let union := UnionType.ofAnnotation (String.ofList type)
      match readName? form.marks rest with
      | none => some ({ name := none, type := union }, rest)
      | some (name, rest') => some ({ name := some (String.ofList name), type := union }, rest')

theorem read?_length {form : TagForm} {cs rest : List Char} {tag : TypedName}
    (h : form.read? cs = some (tag, rest)) : rest.length < cs.length := by
  rw [read?] at h
  split at h
  · simp at h
  · rename_i type mid hmid
    have h1 := readType?_length hmid
    split at h
    · simp only [Option.some.injEq, Prod.mk.injEq] at h
      rw [← h.2]
      exact h1
    · rename_i name after hafter
      have h2 := readName?_length hafter
      simp only [Option.some.injEq, Prod.mk.injEq] at h
      rw [← h.2]
      omega

/-- The tags of this form in a text, from the left. After a tag the search goes on behind it,
otherwise at the next character. -/
def readAll (form : TagForm) (cs : List Char) : List TypedName :=
  match _h : form.read? cs with
  | some (tag, rest) => tag :: readAll form rest
  | none =>
      match cs with
      | [] => []
      | _ :: rest => readAll form rest
termination_by cs.length
decreasing_by
  · exact read?_length _h
  · simp

/-! The search for tags, one step at a time. -/

section

variable {form : TagForm} (cs : List Char)

theorem readAll_of_some {tag : TypedName} {rest : List Char}
    (h : form.read? cs = some (tag, rest)) : form.readAll cs = tag :: form.readAll rest := by
  rw [readAll]
  split <;> simp_all

theorem readAll_of_none {c : Char} (h : form.read? (c :: cs) = none) :
    form.readAll (c :: cs) = form.readAll cs := by
  rw [readAll]
  split <;> simp_all

theorem readAll_nil : form.readAll [] = [] := by
  have h : form.read? [] = none := by rw [read?, readType?_nil]
  rw [readAll]
  split <;> simp_all

end

end TagForm

/-! ### Tags that count once -/

/-- The type of the first tag of the keyword in a text. -/
def readFirstType? (keyword : List Char) : List Char → Option UnionType
  | [] => none
  | c :: rest =>
      match readType? keyword (c :: rest) with
      | some (type, _) => some (UnionType.ofAnnotation (String.ofList type))
      | none => readFirstType? keyword rest

/-- Whether the text holds the keyword with no word character after it. -/
def mentions (keyword : List Char) : List Char → Bool
  | [] => false
  | c :: rest =>
      ((afterWord? keyword (c :: rest)).map endsWord).getD false || mentions keyword rest

end PhpIndex.DocBlock
