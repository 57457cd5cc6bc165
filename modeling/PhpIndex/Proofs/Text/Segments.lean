import Mathlib.Data.List.DropRight
import PhpIndex.Fqsen

/-!
Names and their segments.

* `takeWhile_append_stop`, `dropWhile_append_stop`, `rdropWhile_append_stop`, `append_inj_of_stops`:
  a row of characters ends where something begins that is no part of it;
* `toList_trimStart`, `toList_trimEnd`, `toList_trimBoth`: what cutting off the ends leaves;
* `pieces`, `segments_eq`: the nonempty segments of a list of characters;
* `segments_append`, `lastSegment_append`: a separator between two names keeps the segments of both;
* `segments_dropLeading`, `segments_dropOuter`, `lastSegment_dropLeading`: separators at the ends of
  a name do not matter to its segments, nor those at its start to the last of them;
* `Fqsen.ofClassName?_eq`: **the class of a full name** has the last segment as its name, and is in
  the namespace of the others.
-/

namespace PhpIndex

namespace Text

/-! ### Rows up to a stop -/

/-- Whether the ends of a row are outside a class can be computed. -/
lemma forall_mem_eq_false_iff {p : Char → Bool} {end? : Option Char} :
    (∀ c ∈ end?, p c = false) ↔ end?.all (! p ·) = true := by
  simp [Option.all_eq_true]

section

variable {p : Char → Bool} {cs rest : List Char} (h : ∀ c ∈ cs, p c = true)
  (hrest : ∀ c ∈ rest.head?, p c = false)

include h hrest

lemma takeWhile_append_stop : (cs ++ rest).takeWhile p = cs := by
  rw [List.takeWhile_append_of_pos h]
  cases rest with
  | nil => rw [List.takeWhile_nil, List.append_nil]
  | cons d rest => rw [List.takeWhile_cons_of_neg (by simp [hrest d rfl]), List.append_nil]

lemma dropWhile_append_stop : (cs ++ rest).dropWhile p = rest := by
  rw [List.dropWhile_append_of_pos h]
  cases rest with
  | nil => rfl
  | cons d rest => rw [List.dropWhile_cons_of_neg (by simp [hrest d rfl])]

end

lemma rdropWhile_append_stop {p : Char → Bool} {cs rest : List Char}
    (hrest : ∀ c ∈ rest, p c = true) (h : ∀ c ∈ cs.getLast?, p c = false) :
    (cs ++ rest).rdropWhile p = cs := by
  rw [List.rdropWhile, List.reverse_append,
    dropWhile_append_stop (by simpa using hrest) (by rwa [List.head?_reverse]),
    List.reverse_reverse]

/-- There is one way to cut a text before the first of some characters. -/
lemma append_inj_of_stops {stops : List Char} {s s' t t' : String}
    (hs : ∀ c ∈ stops, c ∉ s.toList) (hs' : ∀ c ∈ stops, c ∉ s'.toList)
    (ht : ∀ c ∈ t.toList.head?, c ∈ stops) (ht' : ∀ c ∈ t'.toList.head?, c ∈ stops)
    (h : s ++ t = s' ++ t') : s = s' ∧ t = t' := by
  have hgoes {u : String} (hu : ∀ c ∈ stops, c ∉ u.toList) :
      ∀ c ∈ u.toList, decide (c ∉ stops) = true :=
    fun c hc => decide_eq_true fun hstop => hu c hstop hc
  have hends {u : String} (hu : ∀ c ∈ u.toList.head?, c ∈ stops) :
      ∀ c ∈ u.toList.head?, decide (c ∉ stops) = false :=
    fun c hc => decide_eq_false (not_not_intro (hu c hc))
  rw [← String.toList_inj, String.toList_append, String.toList_append] at h
  constructor
  · rw [← String.toList_inj, ← takeWhile_append_stop (hgoes hs) (hends ht), h,
      takeWhile_append_stop (hgoes hs') (hends ht')]
  · rw [← String.toList_inj, ← dropWhile_append_stop (hgoes hs) (hends ht), h,
      dropWhile_append_stop (hgoes hs') (hends ht')]

/-! ### Texts without their ends -/

lemma toList_trimStart (p : Char → Bool) (s : String) :
    (trimStart p s).toList = s.toList.dropWhile p := String.toList_ofList

lemma toList_trimEnd (p : Char → Bool) (s : String) :
    (trimEnd p s).toList = s.toList.rdropWhile p := String.toList_ofList

lemma toList_trimBoth (p : Char → Bool) (s : String) :
    (trimBoth p s).toList = (s.toList.dropWhile p).rdropWhile p := by
  rw [trimBoth, toList_trimEnd, toList_trimStart]

/-! ### Pieces -/

/-- The nonempty segments of a list of characters. -/
def pieces (cs : List Char) : List String :=
  ((cs.splitOn separator).filter (! ·.isEmpty)).map String.ofList

lemma segments_eq (s : String) : segments s = pieces s.toList := rfl

lemma segments_ofList (cs : List Char) : segments (String.ofList cs) = pieces cs := by
  rw [segments_eq, String.toList_ofList]

@[simp] lemma pieces_nil : pieces [] = [] := by rfl

lemma pieces_append_cons (xs ys : List Char) :
    pieces (xs ++ separator :: ys) = pieces xs ++ pieces ys := by
  simp only [pieces, List.splitOn]
  rw [List.splitOnP_append_cons xs ys (by simp), List.filter_append, List.map_append]

lemma pieces_of_notMem {cs : List Char} (h : separator ∉ cs) (hne : cs ≠ []) :
    pieces cs = [String.ofList cs] := by
  rw [pieces, List.splitOn_eq_singleton h]
  simp [hne]

lemma pieces_dropWhile (cs : List Char) : pieces (cs.dropWhile isSeparator) = pieces cs := by
  induction cs with
  | nil => rfl
  | cons c rest ih =>
      rw [List.dropWhile_cons]
      split
      · rename_i hc
        rw [ih, isSeparator_iff.mp hc]
        exact (pieces_append_cons [] rest).symm
      · rfl

lemma pieces_rdropWhile (cs : List Char) : pieces (cs.rdropWhile isSeparator) = pieces cs := by
  induction cs using List.reverseRecOn with
  | nil => rfl
  | append_singleton cs c ih =>
      by_cases hc : isSeparator c = true
      · rw [List.rdropWhile_concat_pos _ _ _ hc, ih, isSeparator_iff.mp hc, pieces_append_cons,
          pieces_nil, List.append_nil]
      · rw [List.rdropWhile_concat_neg _ _ _ hc]

/-! ### Segments -/

variable (s t : String)

lemma toList_append_separator :
    (s ++ separator.toString ++ t).toList = s.toList ++ separator :: t.toList := by
  rw [String.toList_append, String.toList_append, List.append_assoc]
  rfl

/-- A name of two parts has the segments of both. -/
lemma segments_append : segments (s ++ separator.toString ++ t) = segments s ++ segments t := by
  rw [segments_eq, toList_append_separator, pieces_append_cons, segments_eq, segments_eq]

/-- A name without separators is its own only segment. -/
lemma segments_of_notMem {s : String} (h : separator ∉ s.toList) (hne : s ≠ "") :
    segments s = [s] := by
  rw [segments_eq, pieces_of_notMem h (by simpa using hne), String.ofList_toList]

@[simp] lemma segments_dropLeading : segments (dropLeading s) = segments s := by
  rw [dropLeading, trimStart, segments_ofList, pieces_dropWhile, segments_eq]

@[simp] lemma segments_dropOuter : segments (dropOuter s) = segments s := by
  rw [segments_eq, dropOuter, toList_trimBoth, pieces_rdropWhile, pieces_dropWhile, segments_eq]

/-! ### The last segment -/

/-- The characters of the last segment are those after the last separator. -/
lemma toList_lastSegment : (lastSegment s).toList = s.toList.rtakeWhile (! isSeparator ·) := by
  rw [lastSegment, String.toList_ofList]
  rfl

lemma toList_beforeLastSegment :
    (beforeLastSegment s).toList = s.toList.rdropWhile (! isSeparator ·) := by
  rw [beforeLastSegment, String.toList_ofList]
  rfl

/-- What is before a separator does not matter to the last segment. -/
lemma rtakeWhile_append_cons (xs ys : List Char) :
    (xs ++ separator :: ys).rtakeWhile (! isSeparator ·) = ys.rtakeWhile (! isSeparator ·) := by
  induction ys using List.reverseRecOn with
  | nil => exact List.rtakeWhile_concat_neg _ _ _ (by decide)
  | append_singleton ys y ih =>
      rw [← List.cons_append, ← List.append_assoc]
      by_cases hy : (! isSeparator y) = true
      · rw [List.rtakeWhile_concat_pos (! isSeparator ·) _ _ hy,
          List.rtakeWhile_concat_pos (! isSeparator ·) _ _ hy, ih]
      · rw [List.rtakeWhile_concat_neg (! isSeparator ·) _ _ hy,
          List.rtakeWhile_concat_neg (! isSeparator ·) _ _ hy]

lemma lastSegment_append : lastSegment (s ++ separator.toString ++ t) = lastSegment t := by
  rw [← String.toList_inj, toList_lastSegment, toList_lastSegment, toList_append_separator,
    rtakeWhile_append_cons]

lemma not_isSeparator_of_notMem {cs : List Char} (h : separator ∉ cs) :
    ∀ c ∈ cs, (! isSeparator c) = true := by
  intro c hc
  rw [Bool.not_eq_true', ← Bool.not_eq_true, isSeparator_iff]
  exact ne_of_mem_of_not_mem hc h

lemma isSeparator_eq_false_of_ne {end? : Option Char} (h : end? ≠ some separator) :
    ∀ c ∈ end?, isSeparator c = false := by
  intro c hc
  rw [← Bool.not_eq_true, isSeparator_iff]
  rintro rfl
  exact h hc

/-- A name without separators is its last segment. -/
lemma lastSegment_of_notMem {s : String} (h : separator ∉ s.toList) : lastSegment s = s := by
  rw [← String.toList_inj, toList_lastSegment, List.rtakeWhile_eq_self_iff]
  exact not_isSeparator_of_notMem h

@[simp] lemma lastSegment_dropLeading : lastSegment (dropLeading s) = lastSegment s := by
  rw [← String.toList_inj, toList_lastSegment, toList_lastSegment, dropLeading, toList_trimStart]
  induction s.toList with
  | nil => rfl
  | cons c rest ih =>
      rw [List.dropWhile_cons]
      split
      · rename_i hc
        rw [ih, isSeparator_iff.mp hc]
        exact (rtakeWhile_append_cons [] rest).symm
      · rfl

/-- What is before the last segment has the other segments. -/
lemma segments_beforeLastSegment {s : String} (h : lastSegment s ≠ "") :
    segments (beforeLastSegment s) = (segments s).dropLast := by
  have hparts : s.toList = (beforeLastSegment s).toList ++ (lastSegment s).toList := by
    rw [← String.toList_append, beforeLastSegment_append_lastSegment]
  have hlast : pieces (lastSegment s).toList = [lastSegment s] :=
    segments_of_notMem (separator_notMem_lastSegment s) h
  have hends := List.rdropWhile_last_not (! isSeparator ·) s.toList
  rw [← toList_beforeLastSegment] at hends
  rw [segments_eq, segments_eq, hparts]
  cases hbefore : (beforeLastSegment s).toList using List.reverseRecOn with
  | nil =>
      rw [List.nil_append, hlast]
      rfl
  | append_singleton xs c =>
      have hc : c = separator := by
        have hnot := hends (by simp [hbefore])
        simpa [hbefore, isSeparator_iff] using hnot
      rw [hc, List.append_assoc, List.singleton_append, pieces_append_cons, pieces_append_cons,
        hlast, pieces_nil, List.append_nil, List.dropLast_concat]

end Text

open Text

/-- **The class of a full name**: it has the last segment as its name and is in the namespace of the
segments before, whatever separators there are at the start or side by side. -/
theorem Fqsen.ofClassName?_eq {name : String} (h : lastSegment name ≠ "") :
    Fqsen.ofClassName? name =
      some { path := (segments name).dropLast, element := .classLike (lastSegment name) } := by
  have hbare : lastSegment (dropLeading name) ≠ "" := by rwa [lastSegment_dropLeading]
  have hpath := segments_beforeLastSegment hbare
  rw [segments_dropLeading] at hpath
  rw [ofClassName?]
  simp only [lastSegment_dropLeading, if_neg h, ofClass, ofNamespace, withClassName, hpath]

end PhpIndex
