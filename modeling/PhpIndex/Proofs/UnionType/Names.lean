import Mathlib.Tactic.Common
import PhpIndex.UnionType

/-!
The names that types are made of.

* `UnionType.mem_toList`, `mem_names_ofName`, `isUnknown_iff`, `isNull_iff`, `hasName_iff`,
  `isEquivalentTo_iff`: types as the sets of their names;
* `UnionType.SameNames`: types with the same names up to the case of ASCII letters;
* `typeSynonyms`, `SpellsBuiltin`: the other names of builtin types, and all spellings of them;
* `storedName`: the form in which a name is stored; `IsStored`: the names so stored;
* `UnionType.Built`: the types that can be made; `Built.stored`: **their names are stored ones**,
  so that of the spellings of a builtin type only one is in them.
-/

namespace PhpIndex

open Text

/-! ### Types as sets of names -/

namespace UnionType

variable {u v : UnionType}

@[simp] lemma mem_toList {n : String} : n ∈ u.toList ↔ n ∈ u.names := Std.ExtTreeSet.mem_toList

lemma notMem_names_unknown {n : String} : n ∉ unknown.names := by simp [unknown]

/-- The type of a name has its stored form and no other. -/
lemma mem_names_ofName {name n : String} :
    n ∈ (ofName name).names ↔ canonicalTypeName? name = some n := by
  rw [ofName, mem_names_add]
  exact or_iff_right notMem_names_unknown

lemma canonicalTypeName?_null : canonicalTypeName? "null" = some "null" := by decide

lemma isUnknown_iff : u.isUnknown = true ↔ ∀ n, n ∉ u.names := by
  rw [isUnknown, Std.ExtTreeSet.isEmpty_iff, Std.ExtTreeSet.eq_empty_iff_forall_not_mem]

/-- A type is exactly `null` if this is its only name. -/
lemma isNull_iff : u.isNull = true ↔ ∀ n, n ∈ u.names ↔ n = "null" := by
  rw [isNull, Bool.and_eq_true, beq_iff_eq, Std.ExtTreeSet.contains_iff_mem]
  constructor
  · rintro ⟨hsize, hmem⟩ n
    rw [← Std.ExtTreeSet.length_toList] at hsize
    obtain ⟨m, hm⟩ := List.length_eq_one_iff.mp hsize
    have hnames : ∀ n, n ∈ u.names ↔ n = m := fun n => by
      rw [← Std.ExtTreeSet.mem_toList, hm, List.mem_singleton]
    rw [hnames, ← (hnames _).mp hmem]
  · intro h
    have hsame : u.names = (∅ : Std.ExtTreeSet String).insert "null" :=
      Std.ExtTreeSet.ext_mem fun n => by
        rw [h, Std.ExtTreeSet.mem_insert, Std.LawfulEqCmp.compare_eq_iff_eq]
        simp [eq_comm]
    rw [hsame]
    exact ⟨by simp [Std.ExtTreeSet.size_insert], by simp⟩

/-- A type has a name up to the case of ASCII letters. -/
lemma hasName_iff {name : String} :
    u.hasName name = true ↔ ∃ n ∈ u.names, asciiLower n = asciiLower name := by
  simp [hasName, eqIgnoreAsciiCase_iff]

lemma mem_folded_iff {n : String} : n ∈ u.folded ↔ ∃ m ∈ u.names, asciiLower m = n := by
  simp [folded]

/-- Types with the same names up to the case of ASCII letters. -/
structure SameNames (u v : UnionType) : Prop where
  left : ∀ n ∈ u.names, ∃ m ∈ v.names, asciiLower m = asciiLower n
  right : ∀ m ∈ v.names, ∃ n ∈ u.names, asciiLower n = asciiLower m

lemma isEquivalentTo_iff : u.isEquivalentTo v = true ↔ u.SameNames v := by
  rw [isEquivalentTo, decide_eq_true_eq]
  constructor
  · intro h
    refine ⟨fun n hn => ?_, fun m hm => ?_⟩
    · rw [← mem_folded_iff, ← h, mem_folded_iff]
      exact ⟨n, hn, rfl⟩
    · rw [← mem_folded_iff, h, mem_folded_iff]
      exact ⟨m, hm, rfl⟩
  · rintro ⟨hleft, hright⟩
    refine Std.ExtTreeSet.ext_mem fun n => ?_
    rw [mem_folded_iff, mem_folded_iff]
    constructor
    · rintro ⟨m, hm, rfl⟩
      exact hleft m hm
    · rintro ⟨m, hm, rfl⟩
      exact hright m hm

end UnionType

/-! ### The names of builtin types -/

/-- Other names of builtin types that are not reserved, each with the name of the type. -/
def typeSynonyms : List (String × String) :=
  [("integer", "int"), ("boolean", "bool"), ("double", "float"), ("real", "float")]

lemma mem_words_of_mem_typeSynonyms {word type : String} (h : (word, type) ∈ typeSynonyms) :
    word ∈ typeSynonyms.map Prod.fst :=
  List.mem_map_of_mem (f := Prod.fst) h

lemma exists_mem_of_mem_words {word : String} (h : word ∈ typeSynonyms.map Prod.fst) :
    ∃ type, (word, type) ∈ typeSynonyms := by
  obtain ⟨⟨word, type⟩, hentry, rfl⟩ := List.mem_map.mp h
  exact ⟨type, hentry⟩

/-- The word spells the name of a builtin type: its own name or a synonym, in upper or lower
case. -/
inductive SpellsBuiltin (word : String) : String → Prop
  | own {type : String} (builtin : type ∈ builtinTypeNames) (same : asciiLower word = type) :
      SpellsBuiltin word type
  | synonym {type : String} (h : (asciiLower word, type) ∈ typeSynonyms) : SpellsBuiltin word type

/-- The words of the tables are apart. -/
lemma builtinTypeName?_eq_some_iff {word type : String} :
    builtinTypeName? word = some type ↔
      (type ∈ builtinTypeNames ∧ word = type) ∨ (word, type) ∈ typeSynonyms := by
  have hapart : ∀ entry ∈ typeSynonyms, entry.1 ∉ builtinTypeNames := by decide
  have hsynonyms : ∀ entry ∈ typeSynonyms, builtinTypeName? entry.1 = some entry.2 := by decide
  constructor
  · rw [builtinTypeName?]
    split_ifs with hinteger hboolean hfloat hbuiltin
    · rintro ⟨⟩
      exact .inr (by simp [typeSynonyms, hinteger])
    · rintro ⟨⟩
      exact .inr (by simp [typeSynonyms, hboolean])
    · rintro ⟨⟩
      exact .inr (by simpa [typeSynonyms] using hfloat)
    · rintro ⟨⟩
      exact .inl ⟨hbuiltin, rfl⟩
    · rintro ⟨⟩
  · rintro (⟨hbuiltin, rfl⟩ | hsynonym)
    · have hnot (entry) (h : entry ∈ typeSynonyms) : word ≠ entry.1 := by
        rintro rfl
        exact hapart entry h hbuiltin
      simp only [typeSynonyms, List.forall_mem_cons] at hnot
      simp [builtinTypeName?, hnot, hbuiltin]
    · exact hsynonyms _ hsynonym

/-- None of them holds a separator. -/
lemma separator_notMem_of_builtinTypeName? {word type : String}
    (h : builtinTypeName? word = some type) :
    separator ∉ word.toList ∧ separator ∉ type.toList := by
  have hnames : ∀ name ∈ builtinTypeNames, separator ∉ name.toList := by decide
  have hsynonyms : ∀ entry ∈ typeSynonyms,
      separator ∉ entry.1.toList ∧ separator ∉ entry.2.toList := by decide
  obtain ⟨hbuiltin, rfl⟩ | hsynonym := builtinTypeName?_eq_some_iff.mp h
  · exact ⟨hnames _ hbuiltin, hnames _ hbuiltin⟩
  · exact hsynonyms _ hsynonym

lemma spellsBuiltin_iff {word type : String} :
    SpellsBuiltin word type ↔ builtinTypeName? (asciiLower word) = some type := by
  rw [builtinTypeName?_eq_some_iff]
  constructor
  · rintro (⟨hbuiltin, hsame⟩ | hsynonym)
    · exact .inl ⟨hbuiltin, hsame⟩
    · exact .inr hsynonym
  · rintro (⟨hbuiltin, hsame⟩ | hsynonym)
    · exact .own hbuiltin hsame
    · exact .synonym hsynonym

lemma SpellsBuiltin.mem_builtinTypeNames {word type : String} (h : SpellsBuiltin word type) :
    type ∈ builtinTypeNames := by
  have htypes : ∀ entry ∈ typeSynonyms, entry.2 ∈ builtinTypeNames := by decide
  cases h with
  | own builtin => exact builtin
  | synonym h => exact htypes _ h

/-! ### Stored names -/

/-- The form in which a name is stored that is not empty and has no blanks or separators around
it. -/
def storedName (word : String) : String := (builtinTypeName? (asciiLower word)).getD word

variable {word n : String}

lemma storedName_of_spellsBuiltin {type : String} (h : SpellsBuiltin word type) :
    storedName word = type := by
  rw [storedName, spellsBuiltin_iff.mp h, Option.getD_some]

lemma storedName_eq_self (h : ∀ type, ¬ SpellsBuiltin word type) : storedName word = word := by
  have hnone : builtinTypeName? (asciiLower word) = none :=
    Option.eq_none_iff_forall_ne_some.mpr fun type htype => h type (spellsBuiltin_iff.mpr htype)
  rw [storedName, hnone, Option.getD_none]

lemma exists_storedName_of_canonicalTypeName? {name : String}
    (h : canonicalTypeName? name = some n) : ∃ word, n = storedName word := by
  rw [canonicalTypeName?] at h
  obtain ⟨-, hstored⟩ := Option.ite_none_left_eq_some.mp h
  exact ⟨_, (Option.some.inj hstored).symm⟩

/-- The names that can be stored: of the spellings of a builtin type only its name in lower case. -/
structure IsStored (n : String) : Prop where
  lower : asciiLower n ∈ builtinTypeNames → asciiLower n = n
  no_synonym : asciiLower n ∉ typeSynonyms.map Prod.fst

instance (n : String) : Decidable (IsStored n) :=
  decidable_of_iff ((asciiLower n ∈ builtinTypeNames → asciiLower n = n) ∧
    asciiLower n ∉ typeSynonyms.map Prod.fst) ⟨fun h => ⟨h.1, h.2⟩, fun h => ⟨h.1, h.2⟩⟩

lemma isStored_storedName (word : String) : IsStored (storedName word) := by
  have hbuiltin : ∀ type ∈ builtinTypeNames, IsStored type := by decide
  by_cases h : ∃ type, SpellsBuiltin word type
  · obtain ⟨type, htype⟩ := h
    rw [storedName_of_spellsBuiltin htype]
    exact hbuiltin type htype.mem_builtinTypeNames
  · have hnot := not_exists.mp h
    rw [storedName_eq_self hnot]
    refine ⟨fun hmem => absurd (.own hmem rfl) (hnot _), fun hmem => ?_⟩
    obtain ⟨type, hsynonym⟩ := exists_mem_of_mem_words hmem
    exact hnot type (.synonym hsynonym)

/-- A name that is stored is stored as it is. -/
lemma IsStored.storedName_eq (h : IsStored n) : storedName n = n := by
  by_cases hspells : ∃ type, SpellsBuiltin n type
  · obtain ⟨type, htype⟩ := hspells
    rw [storedName_of_spellsBuiltin htype]
    cases htype with
    | own builtin same =>
        subst same
        exact h.lower builtin
    | synonym hsynonym => exact absurd (mem_words_of_mem_typeSynonyms hsynonym) h.no_synonym
  · exact storedName_eq_self (not_exists.mp hspells)

/-! ### The types that can be made -/

namespace UnionType

/-- The types that can be made. -/
inductive Built : UnionType → Prop
  | unknown : Built unknown
  | ofName (name : String) : Built (ofName name)
  | ofNames (names : List String) : Built (ofNames names)
  | ofAnnotation (text : String) : Built <| ofAnnotation text
  | add {u : UnionType} (h : Built u) (name : String) : Built (u.add name)
  | merge {u v : UnionType} (hu : Built u) (hv : Built v) : Built (u.merge v)

/-- A type all of whose names can be stored. -/
def Stored (u : UnionType) : Prop := ∀ n ∈ u.names, IsStored n

lemma stored_unknown : Stored unknown := fun _ hn => absurd hn notMem_names_unknown

variable {u v : UnionType}

lemma Stored.add (h : u.Stored) (name : String) : (u.add name).Stored := by
  intro n hn
  obtain hold | hnew := mem_names_add.mp hn
  · exact h n hold
  · obtain ⟨word, rfl⟩ := exists_storedName_of_canonicalTypeName? hnew
    exact isStored_storedName word

lemma Stored.addPiece (h : u.Stored) (cs : List Char) : (u.addPiece cs).Stored := by
  rw [UnionType.addPiece]
  split
  · exact h
  · exact (h.add _).add _
  · exact h.add _

/-- **The names of a type that can be made are stored ones.** -/
theorem Built.stored (h : u.Built) : u.Stored := by
  induction h with
  | unknown => exact stored_unknown
  | ofName name => exact stored_unknown.add name
  | ofNames names => exact List.foldlRecOn names _ stored_unknown fun _ h name _ => h.add name
  | ofAnnotation text =>
      exact List.foldlRecOn _ _ stored_unknown fun _ h piece _ => h.addPiece piece
  | add _ name ih => exact ih.add name
  | merge _ _ ihu ihv => exact fun n hn => (mem_names_merge.mp hn).elim (ihu n) (ihv n)

/-- So the type `null` is told by its only name. -/
theorem Stored.isNull_iff (h : u.Stored) :
    u.isNull = true ↔ u.isEquivalentTo (.ofName "null") = true := by
  have hnull (n : String) : n ∈ (UnionType.ofName "null").names ↔ n = "null" := by
    rw [mem_names_ofName, canonicalTypeName?_null, Option.some_inj, eq_comm]
  have hlower {n : String} (hn : n ∈ u.names) : asciiLower n = asciiLower "null" ↔ n = "null" := by
    refine ⟨fun heq => ?_, fun heq => heq ▸ rfl⟩
    have hbuiltin : asciiLower n = "null" := heq
    rw [← (h n hn).lower (by rw [hbuiltin]; decide), hbuiltin]
  rw [UnionType.isNull_iff, isEquivalentTo_iff]
  constructor
  · intro hnames
    refine ⟨fun n hn => ⟨"null", (hnull _).mpr rfl, ?_⟩, fun m hm => ⟨"null", ?_, ?_⟩⟩
    · rw [(hnames n).mp hn]
    · exact (hnames _).mpr rfl
    · rw [(hnull m).mp hm]
  · intro hsame
    have honly : ∀ n ∈ u.names, n = "null" := fun n hn => by
      obtain ⟨m, hm, heq⟩ := hsame.left n hn
      rw [(hnull m).mp hm] at heq
      exact (hlower hn).mp heq.symm
    obtain ⟨n, hn, -⟩ := hsame.right "null" ((hnull _).mpr rfl)
    refine fun m => ⟨honly m, ?_⟩
    rintro rfl
    rwa [← honly n hn]

end UnionType

end PhpIndex
