import PhpIndex.Proofs.Text.Segments

/-!
Names by their segments.

* `IsSegment`, `QualifiedName`: a text that is a single segment, and a row of one or more of them;
* `joined_injective`, `segments_spaceText`: segments are found again in the text of a row of them;
* `QualifiedName.text`: the segments with single separators between them; `segments_text`,
  `lastSegment_text`: they can be read off it;
* `trimStart_eq_self`, `trimEnd_eq_self`, `getLast?_trim`: texts at whose ends nothing is cut off;
* `QualifiedName.head?_text_ne`, `getLast?_text_ne`: there is no separator at its ends;
* `QualifiedName.splitFirst_text`: it is cut after its first segment;
* `spaceText`: the form of a namespace, with a separator behind each of its segments;
  `spaceText_append_joined`: what stands in a namespace has the segments of both.
-/

namespace PhpIndex

namespace Text

/-- A text that is a single segment of a name. -/
structure IsSegment (s : String) : Prop where
  ne_empty : s ≠ ""
  separator_notMem : separator ∉ s.toList

instance (s : String) : Decidable (IsSegment s) :=
  decidable_of_iff (s ≠ "" ∧ separator ∉ s.toList) ⟨fun h => ⟨h.1, h.2⟩, fun h => ⟨h.1, h.2⟩⟩

/-- Segments with a separator between each two of them. -/
def joined (l : List String) : String := String.intercalate separator.toString l

/-- Segments with a separator behind each of them, which is how the namespace of a scope is kept. -/
def spaceText (l : List String) : String := String.join (l.map (· ++ separator.toString))

/-! ### Joined segments -/

variable {l : List String} {s : String}

@[simp] lemma joined_singleton (s : String) : joined [s] = s := String.intercalate_singleton

lemma joined_cons (s : String) (h : l ≠ []) :
    joined (s :: l) = s ++ separator.toString ++ joined l :=
  String.intercalate_cons_of_ne_nil h

lemma joined_append {m : List String} (hl : l ≠ []) (hm : m ≠ []) :
    joined (l ++ m) = joined l ++ separator.toString ++ joined m :=
  String.intercalate_append_of_ne_nil hl hm

lemma spaceText_cons (s : String) (l : List String) :
    spaceText (s :: l) = s ++ separator.toString ++ spaceText l := by
  rw [spaceText, List.map_cons, String.join_cons]
  rfl

/-- What stands in a namespace has the segments of the namespace before its own. -/
lemma spaceText_append_joined (space : List String) (h : l ≠ []) :
    spaceText space ++ joined l = joined (space ++ l) := by
  induction space with
  | nil => exact String.empty_append
  | cons x rest ih =>
      rw [spaceText_cons, List.cons_append,
        joined_cons x (List.append_ne_nil_of_right_ne_nil _ h), ← ih, String.append_assoc]

lemma segments_joined (h : ∀ s ∈ l, IsSegment s) : segments (joined l) = l := by
  induction l with
  | nil => rfl
  | cons s rest ih =>
      obtain ⟨hs, hrest⟩ := List.forall_mem_cons.mp h
      by_cases hnil : rest = []
      · rw [hnil, joined_singleton, segments_of_notMem hs.separator_notMem hs.ne_empty]
      · rw [joined_cons s hnil, segments_append, ih hrest,
          segments_of_notMem hs.separator_notMem hs.ne_empty, List.singleton_append]

/-- So rows of segments differ in their texts. -/
lemma joined_injective {m : List String} (hl : ∀ s ∈ l, IsSegment s) (hm : ∀ s ∈ m, IsSegment s)
    (h : joined l = joined m) : l = m := by
  rw [← segments_joined hl, h, segments_joined hm]

lemma segments_spaceText (h : ∀ s ∈ l, IsSegment s) : segments (spaceText l) = l := by
  induction l with
  | nil => rfl
  | cons s rest ih =>
      obtain ⟨hs, hrest⟩ := List.forall_mem_cons.mp h
      rw [spaceText_cons, segments_append, ih hrest,
        segments_of_notMem hs.separator_notMem hs.ne_empty, List.singleton_append]

/-- A character of joined segments is the separator or stands in one of them. -/
lemma notMem_joined {c : Char} (hseparator : c ≠ separator) (h : ∀ s ∈ l, c ∉ s.toList) :
    c ∉ (joined l).toList := by
  induction l with
  | nil => simp [joined]
  | cons s rest ih =>
      obtain ⟨hs, hrest⟩ := List.forall_mem_cons.mp h
      by_cases hnil : rest = []
      · rwa [hnil, joined_singleton]
      · rw [joined_cons s hnil, toList_append_separator]
        simp [hs, hseparator, ih hrest]

lemma lastSegment_joined (hl : l ≠ []) (h : ∀ s ∈ l, IsSegment s) :
    lastSegment (joined l) = l.getLast hl := by
  induction l with
  | nil => contradiction
  | cons s rest ih =>
      obtain ⟨hs, hrest⟩ := List.forall_mem_cons.mp h
      by_cases hnil : rest = []
      · subst hnil
        rw [joined_singleton, lastSegment_of_notMem hs.separator_notMem, List.getLast_singleton]
      · rw [joined_cons s hnil, lastSegment_append, ih hnil hrest, List.getLast_cons hnil]

/-! ### What is cut off the ends -/

section

variable {p : Char → Bool}

/-- Nothing is cut off a text that does not begin with it. -/
lemma trimStart_eq_self (h : ∀ c, s.toList.head? = some c → p c = false) :
    trimStart p s = s := by
  rw [← String.toList_inj, toList_trimStart]
  cases hs : s.toList with
  | nil => rfl
  | cons c rest =>
      have hc : ¬ p c = true := by
        rw [h c (by rw [hs, List.head?_cons])]
        exact Bool.false_ne_true
      rw [List.dropWhile_cons_of_neg hc]

/-- Nor one that does not end with it. -/
lemma trimEnd_eq_self (h : ∀ c, s.toList.getLast? = some c → p c = false) : trimEnd p s = s := by
  rw [← String.toList_inj, toList_trimEnd, List.rdropWhile_eq_self_iff]
  intro hne
  rw [h _ (List.getLast?_eq_some_getLast hne)]
  exact Bool.false_ne_true

lemma trim_eq_self (hstart : ∀ c, s.toList.head? = some c → isBlank c = false)
    (hend : ∀ c, s.toList.getLast? = some c → isBlank c = false) : trim s = s := by
  rw [trim, trimBoth, trimStart_eq_self hstart, trimEnd_eq_self hend]

lemma mem_of_mem_trim {c : Char} (h : c ∈ (trim s).toList) : c ∈ s.toList := by
  rw [trim, toList_trimBoth] at h
  exact (List.dropWhile_sublist _).mem ((List.rdropWhile_prefix _ _).mem h)

/-- No blank is left at the end. -/
lemma getLast?_trim {c : Char} (h : (trim s).toList.getLast? = some c) : isBlank c = false := by
  rw [trim, toList_trimBoth] at h
  obtain ⟨hne, hlast⟩ := List.mem_getLast?_eq_getLast h
  rw [hlast, ← Bool.not_eq_true]
  exact List.rdropWhile_last_not _ _ hne

end

/-! ### Separators at the ends -/

lemma IsSegment.head?_ne (h : IsSegment s) : s.toList.head? ≠ some separator := by
  intro hhead
  exact h.separator_notMem (List.mem_of_mem_head? hhead)

/-- Behind a last segment that is not empty there is no separator. -/
lemma getLast?_ne_of_lastSegment (h : lastSegment s ≠ "") :
    s.toList.getLast? ≠ some separator := by
  intro hlast
  obtain ⟨init, hinit⟩ := List.getLast?_eq_some_iff.mp hlast
  apply h
  rw [← String.toList_inj, toList_lastSegment, hinit]
  exact rtakeWhile_append_cons init []

lemma dropLeading_eq_self (h : s.toList.head? ≠ some separator) : dropLeading s = s :=
  trimStart_eq_self (isSeparator_eq_false_of_ne h)

lemma afterSeparator?_eq_none_iff :
    afterSeparator? s = none ↔ s.toList.head? ≠ some separator := by
  rw [afterSeparator?]
  cases s.toList <;> simp [isSeparator]

lemma afterSeparator?_eq_none (h : s.toList.head? ≠ some separator) : afterSeparator? s = none :=
  afterSeparator?_eq_none_iff.mpr h

/-- One separator at the start of a text is cut off. -/
lemma afterSeparator?_eq_some_iff {full : String} :
    afterSeparator? s = some full ↔ s = separator.toString ++ full := by
  have htoList : (separator.toString ++ full).toList = separator :: full.toList :=
    String.toList_append
  rw [afterSeparator?, ← String.toList_inj, htoList]
  cases s.toList with
  | nil => simp
  | cons c rest =>
      dsimp only
      rw [Option.ite_none_right_eq_some, Option.some_inj, isSeparator_iff, ← String.toList_inj,
        String.toList_ofList, List.cons.injEq]

/-- A name is cut at its first separator. -/
lemma splitFirst_append {first : String} (h : separator ∉ first.toList) (rest : String) :
    splitFirst (first ++ separator.toString ++ rest) = some (first, rest) := by
  have hfirst := not_isSeparator_of_notMem h
  have hseparator : (! isSeparator separator) = false := by decide
  rw [splitFirst, toList_append_separator, List.dropWhile_append_of_pos hfirst,
    List.takeWhile_append_of_pos hfirst, List.dropWhile_cons, List.takeWhile_cons, hseparator]
  simp

/-- There is a first separator if there is one at all. -/
lemma exists_splitFirst (h : separator ∈ s.toList) : ∃ parts, splitFirst s = some parts := by
  rw [splitFirst]
  split
  · rename_i hnil
    have hnone := List.dropWhile_eq_nil_iff.mp hnil separator h
    exact absurd hnone (by decide)
  · exact ⟨_, rfl⟩

end Text

open Text

/-! ### Qualified names -/

/-- A name of one or more segments. -/
structure QualifiedName where
  first : String
  rest : List String
  isSegment : ∀ s ∈ first :: rest, IsSegment s

namespace QualifiedName

/-- The name of some segments. -/
def ofSegments : (l : List String) → l ≠ [] → (∀ s ∈ l, IsSegment s) → QualifiedName
  | first :: rest, _, h => ⟨first, rest, h⟩

variable (n : QualifiedName)

/-- All segments of a name. -/
def segments : List String := n.first :: n.rest

/-- The segments with single separators between them. -/
def text : String := joined n.segments

/-- The last segment. -/
def last : String := n.segments.getLast (List.cons_ne_nil _ _)

lemma segments_ne_nil : n.segments ≠ [] := List.cons_ne_nil _ _

@[simp] lemma segments_ofSegments {l : List String} (hl : l ≠ []) (h : ∀ s ∈ l, IsSegment s) :
    (ofSegments l hl h).segments = l := by
  cases l with
  | nil => contradiction
  | cons first rest => rfl

lemma text_ofSegments {l : List String} (hl : l ≠ []) (h : ∀ s ∈ l, IsSegment s) :
    (ofSegments l hl h).text = joined l := by
  rw [text, segments_ofSegments]

lemma text_of_rest_eq_nil (h : n.rest = []) : n.text = n.first := by
  rw [text, segments, h, joined_singleton]

lemma text_of_rest_ne_nil (h : n.rest ≠ []) :
    n.text = n.first ++ separator.toString ++ joined n.rest :=
  joined_cons n.first h

@[simp] lemma segments_text : Text.segments n.text = n.segments := segments_joined n.isSegment

lemma lastSegment_text : lastSegment n.text = n.last := lastSegment_joined _ n.isSegment

lemma isSegment_first : IsSegment n.first := n.isSegment _ List.mem_cons_self

lemma isSegment_last : IsSegment n.last := n.isSegment _ (List.getLast_mem _)

lemma lastSegment_text_ne_empty : lastSegment n.text ≠ "" :=
  n.lastSegment_text ▸ n.isSegment_last.ne_empty

/-- A name does not begin with a separator. -/
lemma head?_text_ne : n.text.toList.head? ≠ some separator := by
  by_cases h : n.rest = []
  · rw [n.text_of_rest_eq_nil h]
    exact n.isSegment_first.head?_ne
  · have hfirst : n.first.toList ≠ [] := by simpa using n.isSegment_first.ne_empty
    rw [n.text_of_rest_ne_nil h, toList_append_separator, List.head?_append_of_ne_nil _ hfirst]
    exact n.isSegment_first.head?_ne

lemma dropLeading_text : dropLeading n.text = n.text := dropLeading_eq_self n.head?_text_ne

/-- Nor does it end in one. -/
lemma getLast?_text_ne : n.text.toList.getLast? ≠ some separator :=
  getLast?_ne_of_lastSegment n.lastSegment_text_ne_empty

/-- A name of several segments is cut after the first one. -/
lemma splitFirst_text (h : n.rest ≠ []) : splitFirst n.text = some (n.first, joined n.rest) := by
  rw [n.text_of_rest_ne_nil h]
  exact splitFirst_append n.isSegment_first.separator_notMem _

end QualifiedName

end PhpIndex
