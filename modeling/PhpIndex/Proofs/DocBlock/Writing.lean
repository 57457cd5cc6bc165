import Mathlib.Tactic.Common
import PhpIndex.Proofs.DocBlock.Stretches
import PhpIndex.Proofs.Text.Segments

/-!
Tags that are written into a comment and read back from it.

* `TypeText`, `VariableName`: the types and names that a tag may hold, in which nothing can be taken
  for another part of the comment;
* `WrittenTag`, `commentText`: the tags, and the comment that lists them, one on each line;
* `ofTags`: what the tags say;
* `ofChars`, `ofChars_cut`, `ofChars_append_of_notMem`: the facts of a row of characters, which are
  those of its stretches, and none where there is no `@`;
* `readType?_append`, `readName?_append`, `TagForm.read?_written`: the parts of a tag, each of
  which ends where the next one begins;
* `TagForm.readAll_of_other`, `ofChars_line`: so a line is read as its own tag and as no other;
* `ofText_commentText`: **what is written is read back**, whatever tags are listed, in whatever
  order.
-/

namespace PhpIndex

open Text

namespace DocBlock

/-! ### Tags and comments -/

/-- A type as a tag may hold it: blanks and the characters that begin a variable, a tag or the
frame of a line are no part of it. -/
structure TypeText where
  text : String
  ne_empty : text ≠ ""
  plain : ∀ c ∈ text.toList, isBlank c = false ∧ c ∉ ['$', '*', '@']

/-- The name of a variable, without the `$`. -/
structure VariableName where
  text : String
  ne_empty : text ≠ ""
  word : ∀ c ∈ text.toList, isWordChar c = true

/-- What stands before the `$` of a parameter. -/
inductive Mark where
  | bare
  | byReference
  | variadic

/-- The text of a mark. -/
def Mark.text : Mark → String
  | bare => ""
  | byReference => "&"
  | variadic => "..."

/-- A tag as a comment may list it. -/
inductive WrittenTag where
  | var (type : TypeText) (name? : Option VariableName)
  | param (type : TypeText) (marked? : Option (Mark × VariableName))
  | returns (type : TypeText)
  | deprecated

/-- The variable behind a type, which may be missing. -/
def variableText : Option (Mark × VariableName) → String
  | none => ""
  | some (mark, name) => " " ++ mark.text ++ "$" ++ name.text

/-- A type and the name it is given to. -/
def TypeText.named (type : TypeText) (name? : Option VariableName) : TypedName where
  name := name?.map (·.text)
  type := UnionType.ofAnnotation type.text

namespace WrittenTag

/-- The text of a tag. -/
def text : WrittenTag → String
  | var type name? => "@var " ++ type.text ++ variableText (name?.map (Mark.bare, ·))
  | param type marked? => "@param " ++ type.text ++ variableText marked?
  | returns type => "@return " ++ type.text
  | deprecated => "@deprecated"

/-- What the tag says of a variable. -/
def var? : WrittenTag → Option TypedName
  | var type name? => some (type.named name?)
  | _ => none

/-- What it says of a parameter. -/
def param? : WrittenTag → Option TypedName
  | param type marked? => some (type.named (marked?.map Prod.snd))
  | _ => none

/-- The type of results that it gives. -/
def returnType? : WrittenTag → Option UnionType
  | returns type => some (UnionType.ofAnnotation type.text)
  | _ => none

/-- Whether it marks the declaration as deprecated. -/
def isDeprecated : WrittenTag → Bool
  | deprecated => true
  | _ => false

end WrittenTag

/-- The comment that lists some tags, one on each line. -/
def commentText (tags : List WrittenTag) : String :=
  "\n".intercalate (["/**"] ++ tags.map (" * " ++ ·.text) ++ [" */"])

/-- What some tags say: of the types of results the first one counts. -/
def ofTags (tags : List WrittenTag) : DocBlock where
  isDeprecated := tags.any (·.isDeprecated)
  varTags := tags.filterMap (·.var?)
  paramTags := tags.filterMap (·.param?)
  returnType := (tags.filterMap (·.returnType?)).head?

lemma ofTags_cons (tag : WrittenTag) (tags : List WrittenTag) :
    ofTags (tag :: tags) = (ofTags [tag]).beside (ofTags tags) := by
  cases tag <;> simp [ofTags, beside, WrittenTag.isDeprecated, WrittenTag.var?, WrittenTag.param?,
    WrittenTag.returnType?]

/-! ### Characters -/

/-- The facts of a row of characters. -/
def ofChars (cs : List Char) : DocBlock where
  isDeprecated := mentions "@deprecated".toList cs
  varTags := varForm.readAll cs
  paramTags := paramForm.readAll cs
  returnType := readFirstType? "@return".toList cs

/-- Asterisks cut characters into stretches. -/
lemma ofChars_cut (cs ds : List Char) :
    ofChars (cs ++ '*' :: ds) = (ofChars cs).beside (ofChars ds) := by
  simp only [ofChars, beside, DocBlock.mk.injEq]
  refine ⟨?_, ?_, ?_, ?_⟩
  · exact mentions_cut (by decide) (by decide) _ _
  · exact TagForm.readAll_cut unstarred_varForm _ _
  · exact TagForm.readAll_cut unstarred_paramForm _ _
  · exact readFirstType?_cut (by decide) _ _

lemma empty_beside (d : DocBlock) : empty.beside d = d := by
  simp [beside, empty]

/-! ### Texts in which a keyword does not stand -/

section

variable {word cs : List Char}

/-- A keyword does not stand where a text begins with another character. -/
lemma afterWord?_cons_of_ne {w c : Char} (h : c ≠ w) :
    afterWord? (w :: word) (c :: cs) = none := by
  rw [afterWord?, if_neg (Ne.symm h)]

lemma readType?_of_other {keyword : List Char} (h : afterWord? keyword cs = none) :
    readType? keyword cs = none := by
  rw [readType?, h, Option.bind_none]

lemma TagForm.read?_of_other {form : TagForm} (h : afterWord? form.keyword cs = none) :
    form.read? cs = none := by
  rw [read?, readType?_of_other h]

variable (ds : List Char)

/-- Where there is no `@` no tag is found. -/
lemma TagForm.readAll_append_of_notMem {form : TagForm} (hform : form.keyword = '@' :: word)
    (h : '@' ∉ cs) : form.readAll (cs ++ ds) = form.readAll ds := by
  induction cs with
  | nil => rfl
  | cons c cs ih =>
      obtain ⟨hc, hcs⟩ := List.ne_and_not_mem_of_not_mem_cons h
      have hother : afterWord? form.keyword (c :: (cs ++ ds)) = none :=
        hform ▸ afterWord?_cons_of_ne hc.symm
      rw [List.cons_append, readAll_of_none _ (read?_of_other hother), ih hcs]

lemma readFirstType?_append_of_notMem (h : '@' ∉ cs) :
    readFirstType? ('@' :: word) (cs ++ ds) = readFirstType? ('@' :: word) ds := by
  induction cs with
  | nil => rfl
  | cons c cs ih =>
      obtain ⟨hc, hcs⟩ := List.ne_and_not_mem_of_not_mem_cons h
      rw [List.cons_append, readFirstType?, readType?_of_other (afterWord?_cons_of_ne hc.symm),
        ih hcs]

lemma mentions_append_of_notMem (h : '@' ∉ cs) :
    mentions ('@' :: word) (cs ++ ds) = mentions ('@' :: word) ds := by
  induction cs with
  | nil => rfl
  | cons c cs ih =>
      obtain ⟨hc, hcs⟩ := List.ne_and_not_mem_of_not_mem_cons h
      rw [List.cons_append, mentions, afterWord?_cons_of_ne hc.symm, ih hcs]
      rfl

/-- So characters before the first `@` say nothing. -/
lemma ofChars_append_of_notMem (h : '@' ∉ cs) : ofChars (cs ++ ds) = ofChars ds := by
  simp only [ofChars, DocBlock.mk.injEq]
  refine ⟨?_, ?_, ?_, ?_⟩
  · exact mentions_append_of_notMem ds h
  · exact TagForm.readAll_append_of_notMem ds rfl h
  · exact TagForm.readAll_append_of_notMem ds rfl h
  · exact readFirstType?_append_of_notMem ds h

lemma ofChars_of_notMem (h : '@' ∉ cs) : ofChars cs = empty := by
  rw [← List.append_nil cs, ofChars_append_of_notMem [] h]
  exact ofText_empty

/-! Behind an `@` there is none either if another keyword begins there. -/

variable (hcs : '@' ∉ cs)

include hcs

lemma TagForm.readAll_of_other {form : TagForm} (hform : form.keyword = '@' :: word)
    (h : afterWord? form.keyword ('@' :: cs) = none) : form.readAll ('@' :: cs) = [] := by
  rw [readAll_of_none cs (read?_of_other h), ← List.append_nil cs,
    readAll_append_of_notMem [] hform hcs, readAll_nil]

lemma readFirstType?_of_other (h : afterWord? ('@' :: word) ('@' :: cs) = none) :
    readFirstType? ('@' :: word) ('@' :: cs) = none := by
  rw [readFirstType?, readType?_of_other h, ← List.append_nil cs,
    readFirstType?_append_of_notMem [] hcs, readFirstType?]

lemma mentions_of_other (h : afterWord? ('@' :: word) ('@' :: cs) = none) :
    mentions ('@' :: word) ('@' :: cs) = false := by
  rw [mentions, h, ← List.append_nil cs, mentions_append_of_notMem [] hcs]
  rfl

end

/-! ### The parts of a written tag -/

namespace TypeText

variable (type : TypeText)

lemma isTypeChar_of_mem : ∀ c ∈ type.text.toList, isTypeChar c = true := by
  intro c hc
  obtain ⟨hblank, hplain⟩ := type.plain c hc
  simp only [List.mem_cons, not_or] at hplain
  simp [isTypeChar, hblank, hplain.1, hplain.2.1]

lemma toList_ne_nil : type.text.toList ≠ [] := by simpa using type.ne_empty

lemma at_notMem : '@' ∉ type.text.toList := fun hc => by simpa using (type.plain _ hc).2

end TypeText

namespace VariableName

variable (name : VariableName)

lemma toList_ne_nil : name.text.toList ≠ [] := by simpa using name.ne_empty

lemma at_notMem : '@' ∉ name.text.toList := fun hc => absurd (name.word _ hc) (by decide)

end VariableName

lemma at_notMem_variableText (marked? : Option (Mark × VariableName)) :
    '@' ∉ (variableText marked?).toList := by
  cases marked? with
  | none => simp [variableText]
  | some marked =>
      obtain ⟨mark, name⟩ := marked
      cases mark <;> simp [variableText, Mark.text, name.at_notMem]

/-- Behind a blank the marks of a variable begin, or its `$`. -/
lemma readBlanks?_mark {mark : List Char} (h : ∀ c ∈ mark.head?, isBlank c = false)
    (cs : List Char) : readBlanks? (' ' :: (mark ++ '$' :: cs)) = some (mark ++ '$' :: cs) := by
  rw [readBlanks?, if_pos (by decide)]
  cases mark with
  | nil => exact congrArg some (List.dropWhile_cons_of_neg (by decide))
  | cons c mark => exact congrArg some (List.dropWhile_cons_of_neg (by simp [h c rfl]))

/-- A type ends where something begins that is no part of it. -/
lemma readType?_append (keyword : List Char) {type : List Char} (hne : type ≠ [])
    (htype : ∀ c ∈ type, isTypeChar c = true) {rest : List Char}
    (hrest : ∀ c ∈ rest.head?, isTypeChar c = false) :
    readType? keyword (keyword ++ ' ' :: (type ++ rest)) = some (type, rest) := by
  have hword : afterWord? keyword (keyword ++ ' ' :: (type ++ rest)) =
      some (' ' :: (type ++ rest)) := afterWord?_eq_some_iff.mpr rfl
  obtain ⟨c, cs, rfl⟩ := List.exists_cons_of_ne_nil hne
  have hblanks : readBlanks? (' ' :: (c :: cs ++ rest)) = some (c :: cs ++ rest) := by
    have hc : isBlank c = false := by
      have := htype c List.mem_cons_self
      simp_all [isTypeChar]
    rw [readBlanks?, if_pos (by decide), List.cons_append,
      List.dropWhile_cons_of_neg (by simp [hc])]
  rw [readType?, hword, Option.bind_some, hblanks]
  simp only [takeWhile_append_stop htype hrest, dropWhile_append_stop htype hrest]

/-- Marks that are read end before the `$` of a variable, whose name ends where something begins
that is no part of it. -/
lemma readName?_append {marks : List (List Char)} {mark name rest : List Char}
    (hmark : ∀ c ∈ mark.head?, isBlank c = false)
    (hskip : skipMarks marks (mark ++ '$' :: (name ++ rest)) = '$' :: (name ++ rest))
    (hne : name ≠ []) (hname : ∀ c ∈ name, isWordChar c = true)
    (hrest : ∀ c ∈ rest.head?, isWordChar c = false) :
    readName? marks (' ' :: (mark ++ '$' :: (name ++ rest))) = some (name, rest) := by
  rw [readName?, readBlanks?_mark hmark, Option.map_some, hskip]
  simp only [takeWhile_append_stop hname hrest, dropWhile_append_stop hname hrest]
  obtain ⟨c, cs, rfl⟩ := List.exists_cons_of_ne_nil hne
  rfl

/-- What ends a line before the frame of the next. -/
def lineEnd : List Char := "\n ".toList

/-- A line from the keyword of its tag on, if it holds a type and perhaps a variable. -/
def writtenLine (keyword : List Char) (type : TypeText) (marked? : Option (Mark × VariableName)) :
    List Char :=
  keyword ++ ' ' :: (type.text.toList ++ ((variableText marked?).toList ++ lineEnd))

/-- The only `@` of a line is that of its keyword. -/
lemma at_notMem_writtenLine {word : List Char} (h : '@' ∉ word) (type : TypeText)
    (marked? : Option (Mark × VariableName)) : '@' ∉ writtenLine word type marked? := by
  have hend : '@' ∉ lineEnd := by decide
  simp [writtenLine, h, type.at_notMem, at_notMem_variableText, hend]

/-- A type ends where a variable or the end of its line begins. -/
lemma readType?_writtenLine (keyword : List Char) (type : TypeText)
    (marked? : Option (Mark × VariableName)) :
    readType? keyword (writtenLine keyword type marked?) =
      some (type.text.toList, (variableText marked?).toList ++ lineEnd) := by
  refine readType?_append keyword type.toList_ne_nil type.isTypeChar_of_mem ?_
  cases marked? with
  | none => simp [variableText, lineEnd, isTypeChar, show isBlank '\n' = true by decide]
  | some marked => simp [variableText, isTypeChar, show isBlank ' ' = true by decide]

/-- Whether the tags of a form may have a mark before the `$` of their variable. -/
def TagForm.Takes (form : TagForm) (mark : Mark) : Prop :=
  ∀ cs, skipMarks form.marks (mark.text.toList ++ '$' :: cs) = '$' :: cs

lemma takes_varForm : varForm.Takes .bare := fun _ => rfl

lemma takes_paramForm (mark : Mark) : paramForm.Takes mark := fun cs => by
  cases mark <;> rfl

/-- At the end of a line there are no marks. -/
lemma skipMarks_nil (marks : List (List Char)) : skipMarks marks [] = [] := by
  induction marks with
  | nil => rfl
  | cons mark marks ih =>
      have hmark : skipWord mark [] = [] := by cases mark <;> rfl
      rw [skipMarks, List.foldl_cons, hmark]
      exact ih

lemma readName?_lineEnd (marks : List (List Char)) : readName? marks lineEnd = none := by
  have hblanks : readBlanks? lineEnd = some [] := by decide
  rw [readName?, hblanks, Option.map_some, skipMarks_nil]

/-- The name of a variable ends with its line. -/
lemma readName?_written {form : TagForm} {mark : Mark} (h : form.Takes mark)
    (name : VariableName) :
    readName? form.marks ((variableText (some (mark, name))).toList ++ lineEnd) =
      some (name.text.toList, lineEnd) := by
  have hvariable : (variableText (some (mark, name))).toList ++ lineEnd =
      ' ' :: (mark.text.toList ++ '$' :: (name.text.toList ++ lineEnd)) := by
    simp [variableText]
  have hmark : ∀ c ∈ mark.text.toList.head?, isBlank c = false :=
    forall_mem_eq_false_iff.mpr (by cases mark <;> decide)
  rw [hvariable]
  exact readName?_append hmark (h _) name.toList_ne_nil name.word
    (forall_mem_eq_false_iff.mpr (by decide))

namespace TagForm

variable {form : TagForm} (type : TypeText) {marked? : Option (Mark × VariableName)}
variable (h : ∀ marked ∈ marked?, form.Takes marked.1)

include h

/-- A tag ends with its line. -/
lemma read?_written :
    form.read? (writtenLine form.keyword type marked?) =
      some (type.named (marked?.map Prod.snd), lineEnd) := by
  rw [read?, readType?_writtenLine]
  cases marked? with
  | none =>
      simp only [variableText, String.toList_empty, List.nil_append, readName?_lineEnd]
      simp [TypeText.named]
  | some marked =>
      obtain ⟨mark, name⟩ := marked
      simp only [readName?_written (h _ rfl) name]
      simp [TypeText.named]

/-- Behind it there is no other. -/
lemma readAll_written {word : List Char} (hform : form.keyword = '@' :: word) :
    form.readAll (writtenLine form.keyword type marked?) =
      [type.named (marked?.map Prod.snd)] := by
  have hend : form.readAll lineEnd = [] := by
    rw [← List.append_nil lineEnd, readAll_append_of_notMem [] hform (by decide), readAll_nil]
  rw [readAll_of_some _ (read?_written type h), hend]

end TagForm

/-! ### Lines -/

section

variable (type : TypeText)

lemma ofChars_writtenLine_var (name? : Option VariableName) :
    ofChars (writtenLine "@var".toList type (name?.map (Mark.bare, ·))) =
      ofTags [.var type name?] := by
  have hat : '@' ∉ writtenLine "var".toList type (name?.map (Mark.bare, ·)) :=
    at_notMem_writtenLine (by decide) type _
  have htakes : ∀ marked ∈ name?.map (Mark.bare, ·), varForm.Takes marked.1 := by
    simpa using fun _ _ => takes_varForm
  have hname : (name?.map (Mark.bare, ·)).map Prod.snd = name? := by simp [Function.comp_def]
  have hread := TagForm.readAll_written type htakes rfl
  rw [hname] at hread
  rw [ofChars, ofTags, DocBlock.mk.injEq]
  refine ⟨?_, ?_, ?_, ?_⟩
  · exact mentions_of_other hat rfl
  · exact hread
  · exact TagForm.readAll_of_other hat rfl rfl
  · exact readFirstType?_of_other hat rfl

lemma ofChars_writtenLine_param (marked? : Option (Mark × VariableName)) :
    ofChars (writtenLine "@param".toList type marked?) = ofTags [.param type marked?] := by
  have hat : '@' ∉ writtenLine "param".toList type marked? :=
    at_notMem_writtenLine (by decide) type _
  rw [ofChars, ofTags, DocBlock.mk.injEq]
  refine ⟨?_, ?_, ?_, ?_⟩
  · exact mentions_of_other hat rfl
  · exact TagForm.readAll_of_other hat rfl rfl
  · exact TagForm.readAll_written type (fun marked _ => takes_paramForm marked.1) rfl
  · exact readFirstType?_of_other hat rfl

lemma ofChars_writtenLine_returns :
    ofChars (writtenLine "@return".toList type none) = ofTags [.returns type] := by
  have hat : '@' ∉ writtenLine "return".toList type none :=
    at_notMem_writtenLine (by decide) type _
  have hread : readFirstType? "@return".toList (writtenLine "@return".toList type none) =
      some (UnionType.ofAnnotation type.text) := by
    have htype := readType?_writtenLine "@return".toList type none
    rw [show writtenLine "@return".toList type none =
      '@' :: writtenLine "return".toList type none from rfl] at htype ⊢
    rw [readFirstType?, htype]
    simp
  rw [ofChars, ofTags, DocBlock.mk.injEq]
  refine ⟨?_, ?_, ?_, ?_⟩
  · exact mentions_of_other hat rfl
  · exact TagForm.readAll_of_other hat rfl rfl
  · exact TagForm.readAll_of_other hat rfl rfl
  · exact hread

end

lemma ofChars_deprecated : ofChars ("@deprecated".toList ++ lineEnd) = ofTags [.deprecated] := by
  have hat : '@' ∉ "deprecated".toList ++ lineEnd := by decide
  rw [ofChars, ofTags, DocBlock.mk.injEq]
  refine ⟨?_, ?_, ?_, ?_⟩
  · decide
  · exact TagForm.readAll_of_other hat rfl rfl
  · exact TagForm.readAll_of_other hat rfl rfl
  · exact readFirstType?_of_other hat rfl

/-- **A line is read as its own tag** and as no other. -/
theorem ofChars_line (tag : WrittenTag) :
    ofChars (' ' :: (tag.text.toList ++ lineEnd)) = ofTags [tag] := by
  have hblank : '@' ∉ [' '] := by decide
  have hskip : ofChars (' ' :: (tag.text.toList ++ lineEnd)) =
      ofChars (tag.text.toList ++ lineEnd) :=
    ofChars_append_of_notMem _ hblank
  rw [hskip]
  cases tag with
  | var type name? =>
      rw [← ofChars_writtenLine_var]
      simp [WrittenTag.text, writtenLine]
  | param type marked? =>
      rw [← ofChars_writtenLine_param]
      simp [WrittenTag.text, writtenLine]
  | returns type =>
      rw [← ofChars_writtenLine_returns]
      simp [WrittenTag.text, writtenLine, variableText]
  | deprecated => exact ofChars_deprecated

/-! ### Comments -/

/-- The characters from the end of a line on, if some tags are still to be listed. -/
def remainder (tags : List WrittenTag) : List Char :=
  tags.flatMap (fun tag => "\n * ".toList ++ tag.text.toList) ++ "\n */".toList

/-- Lines are written as the first of them and the others behind line breaks. -/
lemma intercalate_lines (d : Char) (line : List Char) (lines : List (List Char)) :
    [d].intercalate (line :: lines) = line ++ lines.flatMap (d :: ·) := by
  induction lines generalizing line with
  | nil => simp
  | cons next lines ih =>
      rw [List.intercalate_cons_cons, ih, List.flatMap_cons, List.append_assoc,
        List.singleton_append, List.cons_append]

lemma toList_commentText (tags : List WrittenTag) :
    (commentText tags).toList = "/**".toList ++ remainder tags := by
  rw [commentText, String.toList_intercalate]
  simp [intercalate_lines, remainder, List.flatMap_map]

/-- Each line is read on its own. -/
lemma ofChars_append_remainder (cs : List Char) (tags : List WrittenTag) :
    ofChars (cs ++ remainder tags) = (ofChars (cs ++ lineEnd)).beside (ofTags tags) := by
  induction tags generalizing cs with
  | nil =>
      have hend : cs ++ remainder [] = (cs ++ lineEnd) ++ '*' :: ['/'] := by
        simp [remainder, lineEnd]
      have hslash : ofChars ['/'] = ofTags [] := ofChars_of_notMem (by decide)
      rw [hend, ofChars_cut, hslash]
  | cons tag tags ih =>
      have hline : cs ++ remainder (tag :: tags) =
          (cs ++ lineEnd) ++ '*' :: ((' ' :: tag.text.toList) ++ remainder tags) := by
        simp [remainder, lineEnd]
      rw [hline, ofChars_cut, ih, List.cons_append, ofChars_line, ← ofTags_cons]

/-- **What is written is read back**: a comment that lists some tags says what each of them says,
the variables and the parameters in their order, the first type of results, and that the
declaration is deprecated if one of them does. -/
theorem ofText_commentText (tags : List WrittenTag) : ofText (commentText tags) = ofTags tags := by
  have hframe : "/**".toList ++ remainder tags = ['/'] ++ '*' :: ([] ++ '*' :: remainder tags) :=
    rfl
  have hslash : ofChars ['/'] = empty := ofChars_of_notMem (by decide)
  have hnone : ofChars [] = empty := ofChars_of_notMem (by decide)
  have hend : ofChars lineEnd = empty := ofChars_of_notMem (by decide)
  calc ofText (commentText tags)
      = ofChars ("/**".toList ++ remainder tags) := by rw [← toList_commentText]; rfl
    _ = ofChars ([] ++ remainder tags) := by
        rw [hframe, ofChars_cut, ofChars_cut, hslash, hnone, empty_beside, empty_beside,
          List.nil_append]
    _ = ofTags tags := by
        rw [ofChars_append_remainder, List.nil_append, hend, empty_beside]

end DocBlock

end PhpIndex
