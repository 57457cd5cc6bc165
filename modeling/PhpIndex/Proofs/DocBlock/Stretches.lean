import Mathlib.Tactic.Common
import PhpIndex.DocBlock

/-!
Doc comments in stretches.

An asterisk belongs to the frame of a comment and to no part of a tag. So whatever is read of a
text comes to an end before an asterisk, and what stands behind one is read as if it stood alone.

* `afterWord?_cut`, `readType?_cut`, `readName?_cut`, `TagForm.read?_cut`: what is read at the start
  of a text does not depend on what stands behind an asterisk, which is left over;
* `TagForm.readAll_cut`, `readFirstType?_cut`, `mentions_cut`: the search for tags begins again
  behind an asterisk;
* `DocBlock.beside`, `ofText_append_star`: **asterisks cut a comment into stretches** that say what
  each of them says alone.
-/

namespace PhpIndex

open Text

namespace DocBlock

/-! ### The start of a text -/

section

variable (cs ds : List Char)

lemma takeWhile_cut {p : Char → Bool} (h : p '*' = false) :
    (cs ++ '*' :: ds).takeWhile p = cs.takeWhile p := by
  induction cs with
  | nil => simp [h]
  | cons c cs ih => simp [List.takeWhile_cons, ih]

lemma dropWhile_cut {p : Char → Bool} (h : p '*' = false) :
    (cs ++ '*' :: ds).dropWhile p = cs.dropWhile p ++ '*' :: ds := by
  induction cs with
  | nil => simp [h]
  | cons c cs ih =>
      rw [List.cons_append, List.dropWhile_cons, List.dropWhile_cons, ih]
      split <;> rfl

/-- A word is not found across a character that it does not hold. -/
lemma afterWord?_cut {word : List Char} {d : Char} (h : d ∉ word) :
    afterWord? word (cs ++ d :: ds) = (afterWord? word cs).map (· ++ d :: ds) := by
  induction word generalizing cs with
  | nil => cases cs <;> rfl
  | cons w word ih =>
      obtain ⟨hw, hword⟩ := List.ne_and_not_mem_of_not_mem_cons h
      cases cs with
      | nil => simp [afterWord?, hw.symm]
      | cons c cs =>
          rw [List.cons_append, afterWord?, afterWord?, ih cs hword]
          split <;> rfl

/-- Asterisks are no blanks. -/
lemma readBlanks?_cut :
    readBlanks? (cs ++ '*' :: ds) = (readBlanks? cs).map (· ++ '*' :: ds) := by
  have hstar : isBlank '*' = false := by decide
  cases cs with
  | nil => simp [readBlanks?, hstar]
  | cons c cs =>
      rw [List.cons_append, readBlanks?, readBlanks?, dropWhile_cut cs ds hstar]
      split <;> rfl

lemma skipWord_cut {word : List Char} (h : '*' ∉ word) :
    skipWord word (cs ++ '*' :: ds) = skipWord word cs ++ '*' :: ds := by
  rw [skipWord, skipWord, afterWord?_cut cs ds h]
  cases afterWord? word cs <;> rfl

lemma skipMarks_cut {marks : List (List Char)} (h : ∀ mark ∈ marks, '*' ∉ mark) :
    skipMarks marks (cs ++ '*' :: ds) = skipMarks marks cs ++ '*' :: ds := by
  induction marks generalizing cs with
  | nil => rfl
  | cons mark marks ih =>
      obtain ⟨hmark, hmarks⟩ := List.forall_mem_cons.mp h
      rw [skipMarks, List.foldl_cons, skipWord_cut cs ds hmark]
      exact ih (skipWord mark cs) hmarks

/-! ### The parts of a tag -/

/-- A type ends before an asterisk. -/
lemma readType?_cut {keyword : List Char} (h : '*' ∉ keyword) :
    readType? keyword (cs ++ '*' :: ds) =
      (readType? keyword cs).map (Prod.map id (· ++ '*' :: ds)) := by
  have hstar : isTypeChar '*' = false := by decide
  have hblanks : (afterWord? keyword (cs ++ '*' :: ds)).bind readBlanks? =
      ((afterWord? keyword cs).bind readBlanks?).map (· ++ '*' :: ds) := by
    rw [afterWord?_cut cs ds h]
    cases afterWord? keyword cs with
    | none => rfl
    | some rest => exact readBlanks?_cut rest ds
  rw [readType?, readType?, hblanks]
  cases (afterWord? keyword cs).bind readBlanks? with
  | none => rfl
  | some rest =>
      simp only [Option.map_some, takeWhile_cut rest ds hstar, dropWhile_cut rest ds hstar]
      cases rest.takeWhile isTypeChar <;> rfl

/-- So does the name of a variable, and its marks and its `$` are not behind one. -/
lemma readName?_cut {marks : List (List Char)} (h : ∀ mark ∈ marks, '*' ∉ mark) :
    readName? marks (cs ++ '*' :: ds) =
      (readName? marks cs).map (Prod.map id (· ++ '*' :: ds)) := by
  have hstar : isWordChar '*' = false := by decide
  rw [readName?, readName?, readBlanks?_cut]
  cases readBlanks? cs with
  | none => rfl
  | some rest =>
      rw [Option.map_some, Option.map_some, Option.map_some, skipMarks_cut rest ds h]
      cases skipMarks marks rest with
      | nil => rfl
      | cons c rest =>
          by_cases hc : c = '$'
          · subst hc
            simp only [List.cons_append, takeWhile_cut rest ds hstar, dropWhile_cut rest ds hstar]
            cases rest.takeWhile isWordChar <;> rfl
          · simp [hc]

end

/-! ### Tags one after the other -/

namespace TagForm

/-- Whether nothing that makes up the tags of a form holds an asterisk. -/
structure Unstarred (form : TagForm) : Prop where
  keyword : '*' ∉ form.keyword
  marks : ∀ mark ∈ form.marks, '*' ∉ mark

variable {form : TagForm} (h : form.Unstarred) (cs ds : List Char)

include h in
/-- A tag ends before an asterisk. -/
lemma read?_cut :
    form.read? (cs ++ '*' :: ds) = (form.read? cs).map (Prod.map id (· ++ '*' :: ds)) := by
  rw [read?, read?, readType?_cut cs ds h.keyword]
  cases readType? form.keyword cs with
  | none => rfl
  | some read =>
      obtain ⟨type, rest⟩ := read
      simp only [Option.map_some, Prod.map_apply, readName?_cut rest ds h.marks]
      cases readName? form.marks rest <;> rfl

include h in
/-- **The search begins again behind an asterisk.** -/
theorem readAll_cut : form.readAll (cs ++ '*' :: ds) = form.readAll cs ++ form.readAll ds := by
  have hcut := read?_cut h
  induction cs using readAll.induct form with
  | case1 cs tag rest hread ih =>
      have hread' : form.read? (cs ++ '*' :: ds) = some (tag, rest ++ '*' :: ds) := by
        rw [hcut, hread]
        rfl
      rw [readAll_of_some cs hread, readAll_of_some _ hread', ih, List.cons_append]
  | case2 hread =>
      rw [List.nil_append, readAll_nil, List.nil_append, readAll_of_none]
      rw [← List.nil_append ('*' :: ds), hcut, hread, Option.map_none]
  | case3 c cs hread ih =>
      rw [readAll_of_none cs hread, List.cons_append, readAll_of_none, ih]
      rw [← List.cons_append, hcut, hread, Option.map_none]

end TagForm

/-- The first type that a keyword gives is that of the first stretch in which it gives one. -/
lemma readFirstType?_cut {keyword : List Char} (h : '*' ∉ keyword) (cs ds : List Char) :
    readFirstType? keyword (cs ++ '*' :: ds) =
      (readFirstType? keyword cs).or (readFirstType? keyword ds) := by
  induction cs with
  | nil =>
      have hread : readType? keyword ('*' :: ds) = none := by
        rw [← List.nil_append ('*' :: ds), readType?_cut [] ds h, readType?_nil, Option.map_none]
      simp only [List.nil_append, readFirstType?, hread, Option.none_or]
  | cons c cs ih =>
      rw [List.cons_append, readFirstType?, readFirstType?, ← List.cons_append,
        readType?_cut (c :: cs) ds h]
      cases readType? keyword (c :: cs) with
      | none => exact ih
      | some read => rfl

/-- A word is complete at an asterisk as it is at the end of a text. -/
lemma endsWord_cut (cs ds : List Char) : endsWord (cs ++ '*' :: ds) = endsWord cs := by
  have hstar : isWordChar '*' = false := by decide
  cases cs with
  | nil => simp [endsWord, hstar]
  | cons c cs => rfl

/-- A keyword is mentioned if it is in one of the stretches. -/
lemma mentions_cut {keyword : List Char} (h : '*' ∉ keyword) (hne : keyword ≠ [])
    (cs ds : List Char) :
    mentions keyword (cs ++ '*' :: ds) = (mentions keyword cs || mentions keyword ds) := by
  induction cs with
  | nil =>
      have hnone : afterWord? keyword ('*' :: ds) = none := by
        cases keyword with
        | nil => exact absurd rfl hne
        | cons w word => simp [afterWord?, (List.ne_and_not_mem_of_not_mem_cons h).1.symm]
      simp [mentions, hnone]
  | cons c cs ih =>
      rw [List.cons_append, mentions, mentions, ih, Bool.or_assoc, ← List.cons_append,
        afterWord?_cut (c :: cs) ds h, Option.map_map]
      simp only [Function.comp_def, endsWord_cut]

/-! ### Comments -/

lemma unstarred_varForm : varForm.Unstarred := ⟨by decide, by decide⟩

lemma unstarred_paramForm : paramForm.Unstarred := ⟨by decide, by decide⟩

/-- What two stretches of a comment say, the first before the second. -/
def beside (d e : DocBlock) : DocBlock where
  isDeprecated := d.isDeprecated || e.isDeprecated
  varTags := d.varTags ++ e.varTags
  paramTags := d.paramTags ++ e.paramTags
  returnType := d.returnType.or e.returnType

/-- **Asterisks cut a comment into stretches**: what stands on the two sides of one is read as if
each side stood alone, whatever it is. -/
theorem ofText_append_star (a b : String) :
    ofText (a ++ "*" ++ b) = (ofText a).beside (ofText b) := by
  have hlist : (a ++ "*" ++ b).toList = a.toList ++ '*' :: b.toList := by
    rw [String.toList_append, String.toList_append, List.append_assoc]
    rfl
  simp only [ofText, beside, hlist, DocBlock.mk.injEq]
  refine ⟨?_, ?_, ?_, ?_⟩
  · exact mentions_cut (by decide) (by decide) _ _
  · exact TagForm.readAll_cut unstarred_varForm _ _
  · exact TagForm.readAll_cut unstarred_paramForm _ _
  · exact readFirstType?_cut (by decide) _ _

end DocBlock

end PhpIndex
