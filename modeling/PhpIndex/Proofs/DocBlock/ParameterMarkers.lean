import PhpIndex.Proofs.DocBlock.Writing

/-!
Parameters that are marked in a comment as they are in the language.

The language writes the marker of a parameter that is passed by reference before the one of a
variadic parameter. In a comment the two are understood the other way round.

* `TagForm.readAll_append_lines`, `TagForm.readAll_lines`: lines in which the keyword of a form does
  not stand hold no tag of this form;
* `Markers`, `ParameterComment`: the markers of a parameter, and the comments of which a single line
  gives one, whatever the other lines are;
* `ParameterComment.KeepsName`: the tag of this line is read with the type and the name;
* `ParameterComment.readsMarkers`: **the name is kept behind one marker** or none, and behind both
  only if they are exchanged. As the language writes them it is lost:
  `ParameterComment.not_keepsName`.
-/

namespace PhpIndex.DocBlock

open Text

/-! ### Lines without a keyword -/

lemma afterWord?_eq_none_iff {word cs : List Char} : afterWord? word cs = none ↔ ¬ word <+: cs := by
  rw [Option.eq_none_iff_forall_not_mem]
  constructor
  · rintro h ⟨rest, hrest⟩
    exact h rest (afterWord?_eq_some_iff.mpr hrest.symm)
  · intro h rest hrest
    exact h ⟨rest, (afterWord?_eq_some_iff.mp hrest).symm⟩

lemma intercalate_append_lines {d : Char} {lines rest : List (List Char)} (h : rest ≠ []) :
    [d].intercalate (lines ++ rest) = lines.flatMap (· ++ [d]) ++ [d].intercalate rest := by
  induction lines with
  | nil => rfl
  | cons line lines ih =>
      rw [List.cons_append, List.intercalate_cons_of_ne_nil (List.append_ne_nil_of_right_ne_nil _ h),
        ih, List.flatMap_cons, List.append_assoc _ _ ([d].intercalate rest)]

namespace TagForm

variable {form : TagForm} {d : Char} (hend : d ∉ form.keyword)

include hend

/-- A keyword that does not stand in a line does not begin in it either. -/
lemma afterWord?_line {line : List Char} (h : ¬ form.keyword <:+: line) (ds : List Char) :
    afterWord? form.keyword (line ++ d :: ds) = none := by
  rw [afterWord?_cut line ds hend, afterWord?_eq_none_iff.mpr fun hpre => h hpre.isInfix,
    Option.map_none]

/-- A line in which the keyword does not stand is passed over. -/
lemma readAll_append_line {line : List Char} (h : ¬ form.keyword <:+: line) (ds : List Char) :
    form.readAll (line ++ d :: ds) = form.readAll ds := by
  induction line with
  | nil => exact readAll_of_none ds (read?_of_other (afterWord?_line hend h ds))
  | cons c line ih =>
      have hline : ¬ form.keyword <:+: line := fun hin =>
        h (hin.trans (List.suffix_cons c line).isInfix)
      have hother := afterWord?_line hend h ds
      rw [List.cons_append] at hother ⊢
      rw [readAll_of_none _ (read?_of_other hother), ih hline]

/-- So are some lines before another text. -/
lemma readAll_append_lines {lines : List (List Char)}
    (h : ∀ line ∈ lines, ¬ form.keyword <:+: line) (ds : List Char) :
    form.readAll (lines.flatMap (· ++ [d]) ++ ds) = form.readAll ds := by
  induction lines with
  | nil => rfl
  | cons line lines ih =>
      obtain ⟨hline, hlines⟩ := List.forall_mem_cons.mp h
      rw [List.flatMap_cons, List.append_assoc, List.append_assoc, List.singleton_append,
        readAll_append_line hend hline, ih hlines]

omit hend in
lemma readAll_of_not_infix {cs : List Char} (h : ¬ form.keyword <:+: cs) : form.readAll cs = [] := by
  induction cs with
  | nil => exact readAll_nil
  | cons c cs ih =>
      have hcs : ¬ form.keyword <:+: cs := fun hin =>
        h (hin.trans (List.suffix_cons c cs).isInfix)
      have hother := afterWord?_eq_none_iff.mpr fun hpre => h hpre.isInfix
      rw [readAll_of_none cs (read?_of_other hother), ih hcs]

/-- And in a text that ends with such lines nothing is found. -/
lemma readAll_lines {line : List Char} {lines : List (List Char)}
    (h : ∀ l ∈ line :: lines, ¬ form.keyword <:+: l) :
    form.readAll (line ++ lines.flatMap (d :: ·)) = [] := by
  induction lines generalizing line with
  | nil =>
      rw [List.flatMap_nil, List.append_nil]
      exact readAll_of_not_infix (h line List.mem_cons_self)
  | cons next lines ih =>
      obtain ⟨hline, hlines⟩ := List.forall_mem_cons.mp h
      rw [List.flatMap_cons, List.cons_append, readAll_append_line hend hline, ih hlines]

end TagForm

/-! ### Markers of parameters -/

/-- How a parameter is marked. -/
structure Markers where
  byReference : Bool
  variadic : Bool

/-- The markers as the language writes them before the `$`. -/
def Markers.text (m : Markers) : String :=
  (if m.byReference then "&" else "") ++ (if m.variadic then "..." else "")

/-- A comment in which one line gives a parameter. The keyword of these tags stands in no other
line. -/
structure ParameterComment where
  before : List String
  after : List String
  others : ∀ line ∈ before ++ after, ¬ paramForm.keyword <:+: line.toList
  type : String
  type_ne_empty : type ≠ ""
  typeChars : ∀ c ∈ type.toList, isTypeChar c = true
  name : VariableName

namespace ParameterComment

variable (c : ParameterComment)

/-- The line of the parameter, with some text before the `$`. -/
def line (marks : String) : String := " * @param " ++ c.type ++ " " ++ marks ++ "$" ++ c.name.text

/-- The whole comment. -/
def text (marks : String) : String := "\n".intercalate (c.before ++ [c.line marks] ++ c.after)

/-- The one tag of a parameter that is read, with its name or without. -/
def ReadAs (marks : String) (name? : Option String) : Prop :=
  (ofText (c.text marks)).paramTags = [{ name := name?, type := UnionType.ofAnnotation c.type }]

/-- Whether the name of the parameter is kept. -/
def KeepsName (m : Markers) : Prop := c.ReadAs m.text (some c.name.text)

/-! ### Reading the line -/

/-- What stands behind the line. -/
def tail : List Char := (c.after.map String.toList).flatMap ('\n' :: ·)

/-- The characters of the line from the keyword on, and what stands behind it. -/
def tagAndTail (marks : String) : List Char :=
  paramForm.keyword ++ ' ' :: (c.type.toList ++
    ' ' :: (marks.toList ++ '$' :: (c.name.text.toList ++ c.tail)))

lemma toList_text (marks : String) :
    (c.text marks).toList = (c.before.map String.toList).flatMap (· ++ ['\n']) ++
      (" * ".toList ++ c.tagAndTail marks) := by
  have hbreak : "\n".toList = ['\n'] := rfl
  have hline : (c.line marks).toList ++ c.tail = " * ".toList ++ c.tagAndTail marks := by
    simp [line, tagAndTail, paramForm]
  rw [text, String.toList_intercalate, hbreak, List.map_append, List.map_append,
    List.append_assoc, List.map_singleton, List.singleton_append,
    intercalate_append_lines (List.cons_ne_nil _ _), intercalate_lines, ← hline, tail]

lemma not_infix_of_mem_before : ∀ l ∈ c.before.map String.toList, ¬ paramForm.keyword <:+: l := by
  simpa using fun line hline => c.others line (List.mem_append_left _ hline)

lemma not_infix_of_mem_after : ∀ l ∈ c.after.map String.toList, ¬ paramForm.keyword <:+: l := by
  simpa using fun line hline => c.others line (List.mem_append_right _ hline)

/-- What is read of the comment is what is read from the keyword on. -/
lemma paramTags_text (marks : String) :
    (ofText (c.text marks)).paramTags = paramForm.readAll (c.tagAndTail marks) := by
  rw [ofText, toList_text]
  exact (TagForm.readAll_append_lines (by decide) c.not_infix_of_mem_before _).trans
    (TagForm.readAll_append_of_notMem _ rfl (by decide))

/-- The type is read whatever stands behind it. -/
lemma readType?_tagAndTail (marks : String) :
    readType? paramForm.keyword (c.tagAndTail marks) =
      some (c.type.toList, ' ' :: (marks.toList ++ '$' :: (c.name.text.toList ++ c.tail))) :=
  readType?_append _ (by simpa using c.type_ne_empty) c.typeChars
    (by simpa using show isTypeChar ' ' = false by decide)

/-- No tag of a parameter stands behind the line. -/
lemma readAll_tail {cs : List Char} (h : '@' ∉ cs) : paramForm.readAll (cs ++ c.tail) = [] := by
  have hcs : ¬ paramForm.keyword <:+: cs := fun hin => h (hin.mem (by decide))
  exact TagForm.readAll_lines (by decide) (List.forall_mem_cons.mpr ⟨hcs, c.not_infix_of_mem_after⟩)

lemma head?_tail : ∀ d ∈ c.tail.head?, isWordChar d = false := by
  rw [tail]
  cases c.after with
  | nil => simp
  | cons line after => simpa using show isWordChar '\n' = false by decide

variable {marks : String} (hblank : marks.toList.head?.all (! isBlank ·) = true)

include hblank

/-- Marks that are understood do not hide the name. -/
lemma readAs_of_skips
    (h : ∀ cs, skipMarks paramForm.marks (marks.toList ++ '$' :: cs) = '$' :: cs) :
    c.ReadAs marks (some c.name.text) := by
  have hname := readName?_append (forall_mem_eq_false_iff.mpr hblank) (h _)
    c.name.toList_ne_nil c.name.word c.head?_tail
  have hread : paramForm.read? (c.tagAndTail marks) =
      some ({ name := some c.name.text, type := UnionType.ofAnnotation c.type }, c.tail) := by
    rw [TagForm.read?, readType?_tagAndTail]
    simp [hname]
  have htail : paramForm.readAll c.tail = [] := c.readAll_tail (List.not_mem_nil (a := '@'))
  rw [ReadAs, paramTags_text, TagForm.readAll_of_some _ hread]
  exact congrArg _ htail

/-- Marks that are not understood do, and the type alone is read. -/
lemma readAs_of_stops (hat : '@' ∉ marks.toList)
    (h : ∀ cs, (skipMarks paramForm.marks (marks.toList ++ '$' :: cs)).head? ≠ some '$') :
    c.ReadAs marks none := by
  have hname : readName? paramForm.marks
      (' ' :: (marks.toList ++ '$' :: (c.name.text.toList ++ c.tail))) = none := by
    rw [readName?, readBlanks?_mark (forall_mem_eq_false_iff.mpr hblank), Option.map_some]
    split
    next rest hskip => exact absurd (congrArg List.head? (Option.some.inj hskip)) (h _)
    next => rfl
  have hread : paramForm.read? (c.tagAndTail marks) =
      some ({ name := none, type := UnionType.ofAnnotation c.type },
        ' ' :: (marks.toList ++ '$' :: (c.name.text.toList ++ c.tail))) := by
    rw [TagForm.read?, readType?_tagAndTail]
    simp [hname]
  have hrest : '@' ∉ ' ' :: (marks.toList ++ '$' :: c.name.text.toList) := by
    simp [hat, c.name.at_notMem]
  have htail := c.readAll_tail hrest
  rw [ReadAs, paramTags_text, TagForm.readAll_of_some _ hread]
  simpa using htail

omit hblank

/-! ### Markers that are kept and lost -/

/-- The name is kept or lost, not both. -/
lemma ReadAs.name_eq {c : ParameterComment} {name? name?' : Option String}
    (h : c.ReadAs marks name?) (h' : c.ReadAs marks name?') : name? = name?' := by
  have htags := h.symm.trans h'
  simpa using htags

/-- Behind both markers the name is lost: the one of a variadic parameter is looked for first, and
then it is not expected any more. -/
lemma readAs_both : c.ReadAs (Markers.text ⟨true, true⟩) none := by
  refine c.readAs_of_stops (by decide) (by decide) fun cs => ?_
  have hstop : skipMarks paramForm.marks ((Markers.text ⟨true, true⟩).toList ++ '$' :: cs) =
      "...$".toList ++ cs := rfl
  rw [hstop]
  simp

/-- Behind one marker or none it is kept. -/
lemma keepsName_of_single {m : Markers} (h : ¬ (m.byReference = true ∧ m.variadic = true)) :
    c.KeepsName m := by
  obtain ⟨byReference, variadic⟩ := m
  cases byReference <;> cases variadic
  · exact c.readAs_of_skips (by decide) fun _ => rfl
  · exact c.readAs_of_skips (by decide) fun _ => rfl
  · exact c.readAs_of_skips (by decide) fun _ => rfl
  · exact absurd ⟨rfl, rfl⟩ h

/-- What is read of the line of a parameter. -/
structure ReadsMarkers : Prop where
  /-- The name and the type are kept unless there are both markers. -/
  keepsName_iff : ∀ m, c.KeepsName m ↔ ¬ (m.byReference = true ∧ m.variadic = true)
  /-- Then there is the tag with its type and no name. -/
  both : c.ReadAs (Markers.text ⟨true, true⟩) none
  /-- Both markers are understood the other way round. -/
  exchanged : c.ReadAs "...&" (some c.name.text)

/-- **The name of a marked parameter is kept behind one marker**, and behind both of them only if
they are written the other way round. -/
theorem readsMarkers : c.ReadsMarkers where
  keepsName_iff m := by
    refine ⟨?_, c.keepsName_of_single⟩
    rintro hkeeps ⟨hreference, hvariadic⟩
    obtain ⟨byReference, variadic⟩ := m
    subst hreference hvariadic
    exact absurd (hkeeps.name_eq c.readAs_both) (Option.some_ne_none _)
  both := c.readAs_both
  exchanged := c.readAs_of_skips (by decide) fun _ => rfl

/-- The comment of a function with a parameter `&...$rest`. -/
def restComment : ParameterComment where
  before := ["/**"]
  after := [" */"]
  others := by decide
  type := "array"
  type_ne_empty := by decide
  typeChars := List.all_eq_true.mp (by decide)
  name := ⟨"rest", by decide, List.all_eq_true.mp (by decide)⟩

/-- The tag of a variadic parameter that is passed by reference loses its name. -/
theorem not_keepsName :
    restComment.text "&..." = "/**\n * @param array &...$rest\n */" ∧
      ¬ restComment.KeepsName ⟨true, true⟩ := by
  refine ⟨by decide, fun hkeeps => ?_⟩
  exact absurd (hkeeps.name_eq restComment.readAs_both) (Option.some_ne_none _)

end ParameterComment

end PhpIndex.DocBlock
