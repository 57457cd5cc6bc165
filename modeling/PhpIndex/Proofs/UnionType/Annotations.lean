import PhpIndex.Proofs.Text.Names
import PhpIndex.Proofs.UnionType.Names

/-!
Annotations and their types.

* `annotationPieces`, `UnionType.ofAnnotation_eq`, `mem_names_ofPieces`: the pieces between the bars
  of an annotation, each of which adds to the type what it makes alone;
* `Spelling`, `Holds`: a name with what may stand before it, and the pieces that hold it;
  `mem_names_ofPiece`: what these add;
* `IsAnnotation`: annotations whose pieces hold names or nothing;
* `IsCanonical`, `UnionType.ofAnnotation_text`: names that can be written into an annotation, and
  the reading of a type of such names from its text; `UnionType.Annotated`: types of annotations;
* `Respelled`: pieces that hold the same name in two spellings;
* `UnionType.AnnotationsCanonical`, `UnionType.annotationsCanonical`: **the text of a type is the
  one form of its annotations**.
-/

namespace PhpIndex

open Text

/-! ### The pieces of an annotation -/

/-- The character between the pieces of an annotation. -/
def bar : Char := '|'

/-- The pieces of an annotation, between its bars. -/
def annotationPieces (text : String) : List String := (text.toList.splitOn bar).map String.ofList

/-- No piece holds a bar. -/
lemma bar_notMem_of_mem_pieces {text piece : String} (h : piece ∈ annotationPieces text) :
    bar ∉ piece.toList := by
  have hall (cs : List Char) : ∀ part ∈ cs.splitOn bar, bar ∉ part := by
    induction cs with
    | nil => simp
    | cons c rest ih =>
        rw [List.splitOn_cons_eq_if_modifyHead]
        split
        · simpa using ih
        next hc =>
          cases hrest : rest.splitOn bar with
          | nil => simp
          | cons part parts =>
              rw [hrest, List.forall_mem_cons] at ih
              have hne : bar ≠ c := fun heq => hc (by simp [heq])
              simpa [hne] using ih
  obtain ⟨part, hpart, rfl⟩ := List.mem_map.mp h
  rw [String.toList_ofList]
  exact hall _ part hpart

/-- Texts without bars are found again between them. -/
lemma annotationPieces_intercalate {l : List String} (hl : l ≠ []) (h : ∀ s ∈ l, bar ∉ s.toList) :
    annotationPieces (String.intercalate "|" l) = l := by
  have hbar : "|".toList = [bar] := rfl
  rw [annotationPieces, String.toList_intercalate, hbar,
    List.splitOn_intercalate bar (by simpa using h) (by simpa using hl), List.map_map]
  simp

namespace UnionType

variable {u : UnionType} {n : String}

/-- The type that a piece makes alone. -/
def ofPiece (piece : String) : UnionType := unknown.addPiece piece.toList

/-- A piece adds what it makes alone. -/
lemma mem_names_addPiece {piece : String} :
    n ∈ (u.addPiece piece.toList).names ↔ n ∈ u.names ∨ n ∈ (ofPiece piece).names := by
  rw [ofPiece, addPiece, addPiece]
  split <;> simp [mem_names_add, notMem_names_unknown, or_assoc]

/-- The type that pieces make together. -/
def ofPieces (pieces : List String) : UnionType := (pieces.map String.toList).foldl addPiece unknown

lemma ofAnnotation_eq (text : String) : ofAnnotation text = ofPieces (annotationPieces text) := by
  have hpieces : (annotationPieces text).map String.toList = text.toList.splitOn bar := by
    rw [annotationPieces, List.map_map]
    simp
  rw [ofPieces, hpieces]
  rfl

lemma mem_names_ofPieces {pieces : List String} :
    n ∈ (ofPieces pieces).names ↔ ∃ piece ∈ pieces, n ∈ (ofPiece piece).names := by
  have hfold (u : UnionType) : n ∈ ((pieces.map String.toList).foldl addPiece u).names ↔
      n ∈ u.names ∨ ∃ piece ∈ pieces, n ∈ (ofPiece piece).names := by
    induction pieces generalizing u with
    | nil => simp
    | cons piece rest ih =>
        rw [List.map_cons, List.foldl_cons, ih, mem_names_addPiece, List.exists_mem_cons_iff,
          or_assoc]
  rw [ofPieces, hfold]
  exact or_iff_right notMem_names_unknown

/-- So neither their order matters nor how often each of them is there. -/
lemma ofPieces_congr {pieces pieces' : List String}
    (h : ∀ piece, piece ∈ pieces ↔ piece ∈ pieces') : ofPieces pieces = ofPieces pieces' :=
  ext_names fun n => by simp only [mem_names_ofPieces, h]

end UnionType

/-! ### Spellings of a name -/

/-- A name as it may stand in an annotation, without the blanks around it. -/
structure IsBody (s : String) : Prop where
  ne_empty : s ≠ ""
  head : ∀ c ∈ s.toList.head?, c ≠ '?' ∧ c ≠ separator ∧ isBlank c = false

instance (s : String) : Decidable (IsBody s) :=
  decidable_of_iff
    (s ≠ "" ∧ (s.toList.head?.all fun c => c ≠ '?' ∧ c ≠ separator ∧ isBlank c = false) = true)
    ⟨fun h => ⟨h.1, by simpa [Option.all_eq_true] using h.2⟩,
      fun h => ⟨h.1, by simpa [Option.all_eq_true] using h.2⟩⟩

/-- A name with what stands before it: any number of separators, and a question mark before these
if it is nullable. -/
structure Spelling where
  nullable : Bool
  leading : Nat
  body : String
  isBody : IsBody body

namespace Spelling

variable (w : Spelling)

/-- The name behind its separators. -/
def unmarked : List Char := List.replicate w.leading separator ++ w.body.toList

/-- The name with all that stands before it. -/
def chars : List Char := if w.nullable then '?' :: w.unmarked else w.unmarked

end Spelling

/-- What a piece of an annotation holds besides blanks: a spelling of a name, or nothing. -/
def Holds (piece : String) : Option Spelling → Prop
  | none => trim piece = ""
  | some w => (trim piece).toList = w.chars

/-- An annotation whose pieces hold names or nothing. -/
def IsAnnotation (text : String) : Prop := ∀ piece ∈ annotationPieces text, ∃ held, Holds piece held

namespace Spelling

variable {w : Spelling}

lemma body_toList_ne_nil : w.body.toList ≠ [] := by simpa using w.isBody.ne_empty

lemma unmarked_ne_nil : w.unmarked ≠ [] := List.append_ne_nil_of_right_ne_nil _ body_toList_ne_nil

lemma getLast?_unmarked : w.unmarked.getLast? = w.body.toList.getLast? := by
  rw [unmarked, List.getLast?_append_of_ne_nil _ body_toList_ne_nil]

lemma getLast?_chars : w.chars.getLast? = w.body.toList.getLast? := by
  rw [chars]
  split
  · rw [List.getLast?_cons_of_ne_nil unmarked_ne_nil, getLast?_unmarked]
  · exact getLast?_unmarked

lemma head?_unmarked {c : Char} (h : w.unmarked.head? = some c) :
    c ≠ '?' ∧ isBlank c = false := by
  rw [unmarked] at h
  cases hleading : w.leading with
  | zero =>
      rw [hleading] at h
      obtain ⟨hmark, -, hblank⟩ := w.isBody.head c h
      exact ⟨hmark, hblank⟩
  | succ k =>
      rw [hleading] at h
      obtain rfl : separator = c := by simpa [List.replicate_succ] using h
      decide

/-- A name is stored without the separators before it. -/
lemma canonicalTypeName?_unmarked
    (hlast : ∀ c, w.body.toList.getLast? = some c → isBlank c = false) :
    canonicalTypeName? (String.ofList w.unmarked) = some (storedName w.body) := by
  have htrim : trim (String.ofList w.unmarked) = String.ofList w.unmarked := by
    refine trim_eq_self ?_ ?_
    · simpa using fun c hc => (head?_unmarked (w := w) hc).2
    · simpa [getLast?_unmarked] using hlast
  have hbare : dropLeading (String.ofList w.unmarked) = w.body := by
    have hleading : ∀ c ∈ List.replicate w.leading separator, isSeparator c = true := by
      simp [isSeparator_iff]
    have hbody : ∀ c ∈ w.body.toList.head?, isSeparator c = false := fun c hc => by
      rw [← Bool.not_eq_true, isSeparator_iff]
      exact (w.isBody.head c hc).2.1
    rw [dropLeading, trimStart, String.toList_ofList, unmarked,
      dropWhile_append_stop hleading hbody, String.ofList_toList]
  rw [canonicalTypeName?, htrim, hbare]
  exact if_neg w.isBody.ne_empty

end Spelling

section

variable {piece : String} {w : Spelling}

lemma Holds.toList_trim (h : Holds piece (some w)) : (trim piece).toList = w.chars := h

/-- What a piece holds has no blank at its end. -/
lemma Holds.isBlank_last (h : Holds piece (some w)) {c : Char}
    (hc : w.body.toList.getLast? = some c) : isBlank c = false := by
  rw [← Spelling.getLast?_chars, ← h.toList_trim] at hc
  exact getLast?_trim hc

/-- And it stands in the piece. -/
lemma Holds.mem_of_mem_body (h : Holds piece (some w)) {c : Char} (hc : c ∈ w.body.toList) :
    c ∈ piece.toList := by
  have hunmarked : c ∈ w.unmarked := List.mem_append_right _ hc
  refine mem_of_mem_trim ?_
  rw [h.toList_trim, Spelling.chars]
  by_cases hnullable : w.nullable = true
  · rw [if_pos hnullable]
    exact List.mem_cons_of_mem _ hunmarked
  · rwa [if_neg hnullable]

end

namespace UnionType

variable {u : UnionType} {n piece : String}

/-- A question mark is read as a name of its own. -/
lemma ofPiece_of_mark {rest : List Char} (h : (trim piece).toList = '?' :: rest) :
    ofPiece piece = (unknown.add (String.ofList rest)).add "null" := by
  rw [ofPiece, addPiece, String.ofList_toList, h]
  rfl

lemma ofPiece_of_no_mark {cs : List Char} (h : (trim piece).toList = cs) (hne : cs ≠ [])
    (hmark : ∀ c, cs.head? = some c → c ≠ '?') :
    ofPiece piece = unknown.add (String.ofList cs) := by
  rw [ofPiece, addPiece, String.ofList_toList, h]
  split
  next => exact absurd rfl hne
  next => exact absurd rfl (hmark _ rfl)
  next => rfl

/-- A piece makes the names that it holds. -/
lemma mem_names_ofPiece {w : Spelling} (h : Holds piece (some w)) :
    n ∈ (ofPiece piece).names ↔ n = storedName w.body ∨ w.nullable = true ∧ n = "null" := by
  have hchars := h.toList_trim
  have hstored := Spelling.canonicalTypeName?_unmarked fun c hc => h.isBlank_last hc
  by_cases hnullable : w.nullable = true
  · rw [Spelling.chars, if_pos hnullable] at hchars
    rw [ofPiece_of_mark hchars]
    simp [mem_names_add, notMem_names_unknown, hstored, canonicalTypeName?_null, hnullable,
      eq_comm]
  · rw [Spelling.chars, if_neg hnullable] at hchars
    rw [ofPiece_of_no_mark hchars Spelling.unmarked_ne_nil fun c hc =>
      (Spelling.head?_unmarked hc).1]
    simp [mem_names_add, notMem_names_unknown, hstored, hnullable, eq_comm]

lemma notMem_names_ofPiece (h : Holds piece none) : n ∉ (ofPiece piece).names := by
  have hnothing : trim piece = "" := h
  rw [ofPiece, addPiece, String.ofList_toList, hnothing]
  exact notMem_names_unknown

end UnionType

/-! ### Texts of types -/

/-- A name that is stored as it is written, and that can stand between the bars of an annotation. -/
structure IsCanonical (n : String) : Prop extends IsBody n, IsStored n where
  last : ∀ c ∈ n.toList.getLast?, isBlank c = false
  bar_notMem : bar ∉ n.toList

instance (n : String) : Decidable (IsCanonical n) :=
  decidable_of_iff
    (IsBody n ∧ IsStored n ∧ n.toList.getLast?.all (! isBlank ·) = true ∧ bar ∉ n.toList)
    ⟨fun ⟨hbody, hstored, hlast, hbar⟩ => ⟨hbody, hstored, forall_mem_eq_false_iff.mpr hlast,
        hbar⟩,
      fun h => ⟨h.toIsBody, h.toIsStored, forall_mem_eq_false_iff.mp h.last,
        h.bar_notMem⟩⟩

/-- The stored form of a name of an annotation can be written into one. -/
lemma isCanonical_storedName {s : String} (hbody : IsBody s)
    (hlast : ∀ c ∈ s.toList.getLast?, isBlank c = false) (hbar : bar ∉ s.toList) :
    IsCanonical (storedName s) := by
  have hbuiltin : ∀ type ∈ builtinTypeNames, IsCanonical type := by decide
  by_cases h : ∃ type, SpellsBuiltin s type
  · obtain ⟨type, htype⟩ := h
    rw [storedName_of_spellsBuiltin htype]
    exact hbuiltin type htype.mem_builtinTypeNames
  · have hstored := isStored_storedName s
    rw [storedName_eq_self (not_exists.mp h)] at hstored ⊢
    exact ⟨hbody, hstored, hlast, hbar⟩

namespace IsCanonical

variable {n : String} (h : IsCanonical n)

include h

/-- It holds itself. -/
lemma holds : Holds n (some ⟨false, 0, n, h.toIsBody⟩) := by
  have htrim : trim n = n := trim_eq_self (fun c hc => (h.head c hc).2.2) h.last
  rw [Holds, htrim]
  simp [Spelling.chars, Spelling.unmarked]

/-- So it makes itself alone. -/
lemma mem_names_ofPiece {m : String} : m ∈ (UnionType.ofPiece n).names ↔ m = n := by
  rw [UnionType.mem_names_ofPiece h.holds]
  simp [h.toIsStored.storedName_eq]

end IsCanonical

namespace UnionType

/-- The types that annotations write. -/
def Annotated (u : UnionType) : Prop := ∃ text, IsAnnotation text ∧ ofAnnotation text = u

/-- Their names can be written into annotations. -/
lemma Annotated.isCanonical {u : UnionType} (h : u.Annotated) {n : String} (hn : n ∈ u.names) :
    IsCanonical n := by
  obtain ⟨text, htext, rfl⟩ := h
  rw [ofAnnotation_eq] at hn
  obtain ⟨piece, hpiece, hmem⟩ := mem_names_ofPieces.mp hn
  obtain ⟨held, hheld⟩ := htext piece hpiece
  cases held with
  | none => exact absurd hmem (notMem_names_ofPiece hheld)
  | some w =>
      obtain rfl | ⟨-, rfl⟩ := (mem_names_ofPiece hheld).mp hmem
      · refine isCanonical_storedName w.isBody (fun c hc => hheld.isBlank_last hc) ?_
        exact fun hbar => bar_notMem_of_mem_pieces hpiece (hheld.mem_of_mem_body hbar)
      · decide

/-- Pieces that are such names make the type of these. -/
lemma mem_names_ofPieces_of_isCanonical {l : List String} (h : ∀ s ∈ l, IsCanonical s)
    {n : String} : n ∈ (ofPieces l).names ↔ n ∈ l := by
  rw [mem_names_ofPieces]
  constructor
  · rintro ⟨piece, hpiece, hn⟩
    rwa [(h piece hpiece).mem_names_ofPiece.mp hn]
  · exact fun hn => ⟨n, hn, (h n hn).mem_names_ofPiece.mpr rfl⟩

/-- A type of such names is read from its text. -/
theorem ofAnnotation_text {u : UnionType} (h : ∀ n ∈ u.names, IsCanonical n) :
    ofAnnotation u.text = u := by
  have hcanonical : ∀ n ∈ u.toList, IsCanonical n := fun n hn => h n (mem_toList.mp hn)
  have hread : ofPieces (annotationPieces u.text) = ofPieces u.toList := by
    by_cases hnil : u.toList = []
    · have hnothing : Holds "" none := rfl
      rw [text, hnil]
      refine ext_names fun n => ?_
      have hempty : n ∉ (ofPieces [""]).names := by
        rw [mem_names_ofPieces]
        simpa using notMem_names_ofPiece hnothing
      exact iff_of_false hempty notMem_names_unknown
    · rw [text, annotationPieces_intercalate hnil fun s hs => (hcanonical s hs).bar_notMem]
  rw [ofAnnotation_eq, hread]
  refine ext_names fun n => ?_
  rw [mem_names_ofPieces_of_isCanonical hcanonical]
  exact mem_toList

lemma Annotated.read_text {u : UnionType} (h : u.Annotated) : ofAnnotation u.text = u :=
  ofAnnotation_text fun _ hn => h.isCanonical hn

end UnionType

/-! ### Spellings of an annotation -/

/-- Two pieces that hold nothing, or the same name as it is or by two spellings of a builtin type,
behind any numbers of separators. -/
inductive Respelled (piece piece' : String) : Prop
  | nothing (h : Holds piece none) (h' : Holds piece' none)
  | name {w w' : Spelling} (h : Holds piece (some w)) (h' : Holds piece' (some w'))
      (nullable : w.nullable = w'.nullable)
      (same : w.body = w'.body ∨ ∃ type, SpellsBuiltin w.body type ∧ SpellsBuiltin w'.body type)

namespace UnionType

/-- They make the same type. -/
lemma ofPiece_of_respelled {piece piece' : String} (h : Respelled piece piece') :
    ofPiece piece = ofPiece piece' := by
  refine ext_names fun n => ?_
  cases h with
  | nothing h h' => exact iff_of_false (notMem_names_ofPiece h) (notMem_names_ofPiece h')
  | @name w w' h h' hnullable same =>
      have hstored : storedName w.body = storedName w'.body := by
        obtain heq | ⟨type, hw, hw'⟩ := same
        · rw [heq]
        · rw [storedName_of_spellsBuiltin hw, storedName_of_spellsBuiltin hw']
      rw [mem_names_ofPiece h, mem_names_ofPiece h', hstored, hnullable]

lemma ofPieces_of_respelled {pieces pieces' : List String}
    (h : List.Forall₂ Respelled pieces pieces') : ofPieces pieces = ofPieces pieces' := by
  refine ext_names fun n => ?_
  rw [mem_names_ofPieces, mem_names_ofPieces]
  induction h with
  | nil => simp
  | cons hpiece _ ih =>
      rw [List.exists_mem_cons_iff, List.exists_mem_cons_iff, ofPiece_of_respelled hpiece, ih]

/-- The types of annotations have one form. -/
structure AnnotationsCanonical : Prop where
  /-- The type of an annotation is read from its text. -/
  read_back : ∀ u, Annotated u → ofAnnotation u.text = u
  /-- So it is known by its text. -/
  eq_iff : ∀ u v, Annotated u → Annotated v → (u = v ↔ u.text = v.text)
  /-- The order of the pieces does not matter, nor how often each of them is there. -/
  rearranged : ∀ text text',
    (∀ piece, piece ∈ annotationPieces text ↔ piece ∈ annotationPieces text') →
      ofAnnotation text = ofAnnotation text'
  /-- Nor do the spellings of builtin types and the separators before names. -/
  respelled : ∀ text text',
    List.Forall₂ Respelled (annotationPieces text) (annotationPieces text') →
      ofAnnotation text = ofAnnotation text'
  /-- In types that can be made builtin types have their names in lower case and no others. -/
  stored : ∀ u, Built u → ∀ n ∈ u.names, IsStored n
  /-- So one of these is `null` if it is this up to the case of letters. -/
  isNull_iff : ∀ u, Built u → (u.isNull = true ↔ u.isEquivalentTo (ofName "null") = true)

/-- **The text of the type of an annotation is the one form of it.** -/
theorem annotationsCanonical : AnnotationsCanonical where
  read_back _ h := h.read_text
  eq_iff u v hu hv := by
    refine ⟨congrArg text, fun htext => ?_⟩
    calc u = ofAnnotation u.text := hu.read_text.symm
      _ = ofAnnotation v.text := by rw [htext]
      _ = v := hv.read_text
  rearranged text text' h := by
    rw [ofAnnotation_eq, ofAnnotation_eq]
    exact ofPieces_congr h
  respelled text text' h := by
    rw [ofAnnotation_eq, ofAnnotation_eq]
    exact ofPieces_of_respelled h
  stored _ h := h.stored
  isNull_iff _ h := h.stored.isNull_iff

example : ofAnnotation " ?\\Integer | real||FLOAT" = ofNames ["float", "int", "null"] := by
  decide +kernel

end UnionType

end PhpIndex
