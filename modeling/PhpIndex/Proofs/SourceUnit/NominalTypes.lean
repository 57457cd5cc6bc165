import PhpIndex.Proofs.SourceUnit.ClassTypes
import PhpIndex.Proofs.Walk.ClassReferences
import PhpIndex.Proofs.Walk.DocTypes
import PhpIndex.Text.WordChar

/-!
The names of classes in their types.

* `IsClassName`: words that are not reserved;
* `StoredAs`, `canonicalTypeName?_of_isClassName`: the name that the type of a class is made of;
* `ClassLike.Nominal`: a class whose type has its name and no other but `callable`, unless its name
  is a synonym, in whose place stands the builtin type;
* `SourceUnit.ClassesNominal`, `SourceUnit.classesNominal`: **the classes of a unit are like this**,
  and without `callable` the types of two of them are equivalent if their names are the same;
* `SourceUnit.integerClass_hasName_eq_false`: the exception cannot be left out.
-/

namespace PhpIndex

open Text

/-! ### Words -/

namespace Text

/-- No character of a word is white space. -/
lemma isBlank_of_isWordChar {c : Char} (h : isWordChar c = true) : isBlank c = false := by
  by_contra hblank
  obtain ⟨r, hr, hlow, hhigh⟩ := CodePointSet.exists_of_contains h
  obtain ⟨r', hr', hlow', hhigh'⟩ :=
    CodePointSet.exists_of_contains ((Bool.not_eq_false _).mp hblank)
  have hapart : ∀ r' ∈ whiteSpace.ranges, ∀ r ∈ wordChars.ranges, r.2 < r'.1 ∨ r'.2 < r.1 := by
    decide +kernel
  have := hapart r' hr' r hr
  omega

lemma isSeparator_of_isWordChar {c : Char} (h : isWordChar c = true) : isSeparator c = false := by
  rw [isSeparator, beq_eq_false_iff_ne]
  rintro rfl
  exact absurd h (by decide +kernel)

end Text

/-! ### The names of classes -/

/-- Names that a class may have: words that are not reserved. -/
structure IsClassName (name : String) : Prop where
  ne_empty : name ≠ ""
  word : ∀ c ∈ name.toList, isWordChar c = true
  not_reserved : asciiLower name ∉ selfReferences ++ primitiveTypeNames

/-- Names that are not reserved are not those of the types. -/
lemma asciiLower_ne_of_mem_typeSynonyms {word type name : String}
    (h : (word, type) ∈ typeSynonyms)
    (hname : asciiLower name ∉ selfReferences ++ primitiveTypeNames) :
    asciiLower type ≠ asciiLower name := by
  have hreserved : ∀ entry ∈ typeSynonyms,
      asciiLower entry.2 ∈ selfReferences ++ primitiveTypeNames := by decide
  intro heq
  exact hname (heq ▸ hreserved (word, type) h)

/-- The name that the type of a class is made of, which is its own unless this is a synonym. The
case of `resource` is not kept. -/
inductive StoredAs (name : String) : String → Prop
  | synonym {stored : String} (h : (asciiLower name, stored) ∈ typeSynonyms) : StoredAs name stored
  | own (h : asciiLower name ∉ typeSynonyms.map Prod.fst) {stored : String}
      (same : asciiLower stored = asciiLower name)
      (exact : asciiLower name ≠ "resource" → stored = name) : StoredAs name stored

/-- Of the names of builtin types only the synonyms and one more are not reserved. -/
lemma storedAs_storedName {name : String}
    (h : asciiLower name ∉ selfReferences ++ primitiveTypeNames) :
    StoredAs name (storedName name) := by
  have hbuiltin : ∀ type ∈ builtinTypeNames,
      type ∈ selfReferences ++ primitiveTypeNames ∨ type = "resource" := by decide
  have hresource : "resource" ∉ typeSynonyms.map Prod.fst := by decide
  by_cases hspells : ∃ type, SpellsBuiltin name type
  · obtain ⟨type, htype⟩ := hspells
    rw [storedName_of_spellsBuiltin htype]
    cases htype with
    | own builtin same =>
        obtain rfl : type = "resource" := (hbuiltin type builtin).resolve_left (same ▸ h)
        refine .own (same ▸ hresource) ?_ fun hne => absurd same hne
        rw [same]
        decide
    | synonym hsynonym => exact .synonym hsynonym
  · have hnot := not_exists.mp hspells
    rw [storedName_eq_self hnot]
    refine .own (fun hmem => ?_) rfl fun _ => rfl
    obtain ⟨type, hsynonym⟩ := exists_mem_of_mem_words hmem
    exact hnot type (.synonym hsynonym)

/-- The type of a class has one name. -/
lemma canonicalTypeName?_of_isClassName {name : String} (h : IsClassName name) :
    ∃ stored, canonicalTypeName? name = some stored ∧ StoredAs name stored := by
  have htrim : trim name = name :=
    trim_eq_self (fun c hc => isBlank_of_isWordChar (h.word c (List.mem_of_head? hc)))
      fun c hc => isBlank_of_isWordChar (h.word c (List.mem_of_getLast? hc))
  have hleading : dropLeading name = name :=
    trimStart_eq_self fun c hc => isSeparator_of_isWordChar (h.word c (List.mem_of_head? hc))
  rw [canonicalTypeName?, htrim, hleading]
  exact ⟨storedName name, if_neg h.ne_empty, storedAs_storedName h.not_reserved⟩

namespace StoredAs

variable {name stored : String} (h : StoredAs name stored)

include h

/-- A name is stored under itself, up to the case of letters, if it is no synonym. -/
lemma asciiLower_eq_iff :
    asciiLower stored = asciiLower name ↔ asciiLower name ∉ typeSynonyms.map Prod.fst := by
  have hother : ∀ entry ∈ typeSynonyms, asciiLower entry.2 ≠ entry.1 := by decide
  cases h with
  | synonym h =>
      exact iff_of_false (hother _ h) (not_not_intro (mem_words_of_mem_typeSynonyms h))
  | own hnot same => exact iff_of_true same hnot

/-- Names that are not reserved are not stored as `callable`. -/
lemma ne_callable (hname : asciiLower name ∉ selfReferences ++ primitiveTypeNames) :
    stored ≠ "callable" := by
  have hother : ∀ entry ∈ typeSynonyms, entry.2 ≠ "callable" := by decide
  have hcallable : asciiLower "callable" ∈ selfReferences ++ primitiveTypeNames := by decide
  cases h with
  | synonym h => exact hother _ h
  | own _ same =>
      rintro rfl
      exact hname (same ▸ hcallable)

end StoredAs

/-- The two synonyms of one builtin type. -/
def floatSynonyms : List String := ["double", "real"]

/-- Two names are stored under one name, up to the case of letters, if they are the same name or
synonyms of one type. -/
lemma StoredAs.asciiLower_eq_asciiLower_iff {name name' stored stored' : String}
    (h : StoredAs name stored) (h' : StoredAs name' stored')
    (hname : asciiLower name ∉ selfReferences ++ primitiveTypeNames)
    (hname' : asciiLower name' ∉ selfReferences ++ primitiveTypeNames) :
    asciiLower stored = asciiLower stored' ↔ asciiLower name = asciiLower name' ∨
      asciiLower name ∈ floatSynonyms ∧ asciiLower name' ∈ floatSynonyms := by
  have hfloat : ∀ word ∈ floatSynonyms, word ∈ typeSynonyms.map Prod.fst := by decide
  have hboth : ∀ entry ∈ typeSynonyms, ∀ entry' ∈ typeSynonyms,
      asciiLower entry.2 = asciiLower entry'.2 ↔
        entry.1 = entry'.1 ∨ entry.1 ∈ floatSynonyms ∧ entry'.1 ∈ floatSynonyms := by decide
  cases h with
  | synonym h =>
      have hword := mem_words_of_mem_typeSynonyms h
      cases h' with
      | synonym h' => exact hboth (_, stored) h (_, stored') h'
      | own hnot same =>
          rw [same]
          refine iff_of_false (asciiLower_ne_of_mem_typeSynonyms h hname') ?_
          rintro (heq | ⟨-, hmem⟩)
          · exact hnot (heq ▸ hword)
          · exact hnot (hfloat _ hmem)
  | own hnot same =>
      cases h' with
      | synonym h' =>
          have hword := mem_words_of_mem_typeSynonyms h'
          rw [same]
          refine iff_of_false (asciiLower_ne_of_mem_typeSynonyms h' hname).symm ?_
          rintro (heq | ⟨hmem, -⟩)
          · exact hnot (heq ▸ hword)
          · exact hnot (hfloat _ hmem)
      | own _ same' =>
          rw [same, same']
          exact (or_iff_left fun hmem => hnot (hfloat _ hmem.1)).symm

/-! ### Types without one of their names -/

namespace UnionType

variable {u : UnionType} {name n : String}

/-- The type without one of its names. -/
def erase (u : UnionType) (name : String) : UnionType := ⟨u.names.erase name⟩

lemma mem_names_erase : n ∈ (u.erase name).names ↔ n ∈ u.names ∧ n ≠ name := by
  rw [erase, Std.ExtTreeSet.mem_erase, ne_eq, Std.LawfulEqCmp.compare_eq_iff_eq, and_comm,
    eq_comm (a := name)]

/-- Types of one name are equivalent if the names are the same up to the case of letters. -/
lemma isEquivalentTo_iff_of_singletons {v : UnionType} {m : String}
    (hu : ∀ k, k ∈ u.names ↔ k = n) (hv : ∀ k, k ∈ v.names ↔ k = m) :
    u.isEquivalentTo v = true ↔ asciiLower n = asciiLower m := by
  rw [isEquivalentTo_iff]
  constructor
  · intro h
    obtain ⟨k, hk, heq⟩ := h.left n ((hu n).mpr rfl)
    rw [← heq, (hv k).mp hk]
  · intro h
    refine ⟨fun k hk => ⟨m, (hv m).mpr rfl, ?_⟩, fun k hk => ⟨n, (hu n).mpr rfl, ?_⟩⟩
    · rw [(hu k).mp hk, h]
    · rw [(hv k).mp hk, h]

end UnionType

/-! ### The types of classes -/

/-- A class whose type has its name and no other but `callable`. In the place of a name that is a
synonym stands that of the builtin type. -/
structure ClassLike.Nominal (d : ClassLike) : Prop where
  hasName_iff : d.type.hasName d.name = true ↔ asciiLower d.name ∉ typeSynonyms.map Prod.fst
  own : asciiLower d.name ∉ typeSynonyms.map Prod.fst → ∀ n ∈ d.type.names,
    asciiLower n = asciiLower d.name ∧ (asciiLower d.name ≠ "resource" → n = d.name) ∨
      n = "callable"
  synonym : ∀ type, (asciiLower d.name, type) ∈ typeSynonyms →
    type ∈ d.type.names ∧ ∀ n ∈ d.type.names, n = type ∨ n = "callable"

namespace ClassLike.NamesItself

variable {d : ClassLike} {callable : Prop} (h : d.NamesItself callable)

include h

/-- The names of its type. -/
lemma mem_names_iff {stored n : String} (hstored : canonicalTypeName? d.name = some stored) :
    n ∈ d.type.names ↔ n = stored ∨ callable ∧ n = "callable" := by
  have hcallable : canonicalTypeName? "callable" = some "callable" := by decide +kernel
  by_cases hc : callable
  · rw [h.marked hc, UnionType.mem_names_add, UnionType.mem_names_ofName, hstored, hcallable]
    simp [hc, eq_comm]
  · rw [h.unmarked hc, UnionType.mem_names_ofName, hstored]
    simp [hc, eq_comm]

/-- A class that names itself has its name in its type, or that of a builtin type. -/
lemma nominal (hname : IsClassName d.name) : d.Nominal := by
  obtain ⟨stored, hstored, hkind⟩ := canonicalTypeName?_of_isClassName hname
  have hnames {n : String} := h.mem_names_iff (n := n) hstored
  have hcallable : asciiLower "callable" ∈ selfReferences ++ primitiveTypeNames := by decide
  have hunique : ∀ entry ∈ typeSynonyms, ∀ entry' ∈ typeSynonyms,
      entry.1 = entry'.1 → entry.2 = entry'.2 := by decide
  refine ⟨?_, fun hnot n hn => ?_, fun type htype => ?_⟩
  · rw [UnionType.hasName_iff, ← hkind.asciiLower_eq_iff]
    constructor
    · rintro ⟨n, hn, heq⟩
      obtain rfl | ⟨-, rfl⟩ := hnames.mp hn
      · exact heq
      · exact absurd (heq ▸ hcallable) hname.not_reserved
    · exact fun heq => ⟨stored, hnames.mpr (.inl rfl), heq⟩
  · cases hkind with
    | synonym h => exact absurd (mem_words_of_mem_typeSynonyms h) hnot
    | own _ same exact =>
        obtain rfl | ⟨-, rfl⟩ := hnames.mp hn
        · exact .inl ⟨same, exact⟩
        · exact .inr rfl
  · cases hkind with
    | synonym h =>
        obtain rfl : stored = type := hunique _ h _ htype rfl
        exact ⟨hnames.mpr (.inl rfl), fun n hn => (hnames.mp hn).imp_right And.right⟩
    | own hnot => exact absurd (mem_words_of_mem_typeSynonyms htype) hnot

/-- Without `callable` its type has one name. -/
lemma mem_names_erase_iff (hname : IsClassName d.name) {stored n : String}
    (hstored : canonicalTypeName? d.name = some stored) (hkind : StoredAs d.name stored) :
    n ∈ (d.type.erase "callable").names ↔ n = stored := by
  have hne := hkind.ne_callable hname.not_reserved
  rw [UnionType.mem_names_erase, h.mem_names_iff hstored]
  constructor
  · rintro ⟨rfl | ⟨-, rfl⟩, hn⟩
    · rfl
    · exact absurd rfl hn
  · rintro rfl
    exact ⟨.inl rfl, hne⟩

end ClassLike.NamesItself

/-! ### Units -/

namespace SourceUnit

section

variable (options : Options) (files : SourceFiles) (u : SourceUnit) (r : Registry)

/-- A class that a unit registers, as it is in the end. -/
def RegistersClass (d : ClassLike) : Prop :=
  ∃ m ∈ u.moments options files r, ∃ c, m.newClass? options = some c ∧
    (u.index options files r).2.class? c.fqsen = some d

variable {options files u r} in
/-- It names itself. -/
lemma RegistersClass.exists_namesItself {d : ClassLike} (h : u.RegistersClass options files r d) :
    ∃ callable, d.NamesItself callable := by
  obtain ⟨m, hm, c, hc, hd⟩ := h
  exact ⟨_, u.namesItself_index hm hc hd⟩

variable {options files r} in
/-- Each class node with a name registers a class. -/
lemma exists_registersClass {m : Moment Findings} (hm : m ∈ u.moments options files r)
    (hkind : m.node.kind = .classDecl) {name : String}
    (hname : declaredClassName? m.node = some name) :
    ∃ d, u.RegistersClass options files r d ∧ d.name = name := by
  have hnew : ∃ c, m.newClass? options = some c := by
    rw [Moment.newClass?, if_pos hkind, Scope.newClass?, hname]
    exact ⟨_, rfl⟩
  obtain ⟨c, hc⟩ := hnew
  obtain ⟨-, d, hd, -⟩ := u.class?_index hm hc
  refine ⟨d, ⟨m, hm, c, hc, hd⟩, ?_⟩
  exact Option.some.inj ((u.name_index hm hc hd).2.symm.trans hname)

/-- The classes of a unit with their names in their types. -/
structure ClassesNominal : Prop where
  /-- Each class node registers a class of its name. -/
  registered : ∀ m ∈ u.moments options files r, m.node.kind = .classDecl →
    ∀ name, declaredClassName? m.node = some name →
      ∃ d, u.RegistersClass options files r d ∧ d.name = name
  /-- Its type has its name and no other but `callable`, or that of a builtin type instead. -/
  nominal : ∀ d, u.RegistersClass options files r d → IsClassName d.name → d.Nominal
  /-- Without `callable` the types of two classes, of one unit or of two, are equivalent if their
  names are the same or synonyms of one type. -/
  equivalent_iff : ∀ (options' : Options) (files' : SourceFiles) (v : SourceUnit) (q : Registry)
    (d e : ClassLike), u.RegistersClass options files r d → v.RegistersClass options' files' q e →
      IsClassName d.name → IsClassName e.name →
      ((d.type.erase "callable").isEquivalentTo (e.type.erase "callable") = true ↔
        asciiLower d.name = asciiLower e.name ∨
          asciiLower d.name ∈ floatSynonyms ∧ asciiLower e.name ∈ floatSynonyms)

/-- **A class whose name is no synonym of a builtin type has its own name in its type**, and no
other but `callable`, so that two such classes have equivalent types only if their names are the
same. -/
theorem classesNominal : u.ClassesNominal options files r where
  registered _ hm hkind _ hname := u.exists_registersClass hm hkind hname
  nominal d hd hname := by
    obtain ⟨callable, h⟩ := hd.exists_namesItself
    exact h.nominal hname
  equivalent_iff options' files' v q d e hd he hname hname' := by
    obtain ⟨callable, h⟩ := hd.exists_namesItself
    obtain ⟨callable', h'⟩ := he.exists_namesItself
    obtain ⟨stored, hstored, hkind⟩ := canonicalTypeName?_of_isClassName hname
    obtain ⟨stored', hstored', hkind'⟩ := canonicalTypeName?_of_isClassName hname'
    rw [UnionType.isEquivalentTo_iff_of_singletons
      (fun _ => h.mem_names_erase_iff hname hstored hkind)
      (fun _ => h'.mem_names_erase_iff hname' hstored' hkind')]
    exact hkind.asciiLower_eq_asciiLower_iff hkind' hname.not_reserved hname'.not_reserved

end

/-- A unit with a class whose name is a synonym of a builtin type. -/
def integerClass : SourceUnit where
  path := "integer.php"
  root := .statements [.classOf "Integer" none [] []]

/-- The name of the class is not in its type. -/
theorem integerClass_hasName_eq_false :
    ∃ d, integerClass.RegistersClass {} {} .empty d ∧ d.name = "Integer" ∧ IsClassName d.name ∧
      d.type.hasName d.name = false ∧ "int" ∈ d.type.names := by
  have hvisited : (integerClass.moments {} {} .empty).any (fun m =>
      m.node.kind = .classDecl ∧ declaredClassName? m.node = some "Integer") = true := by
    decide +kernel
  obtain ⟨m, hm, hnode⟩ := List.any_eq_true.mp hvisited
  obtain ⟨hkind, hdeclared⟩ := of_decide_eq_true hnode
  obtain ⟨d, hd, hname⟩ := exists_registersClass integerClass hm hkind hdeclared
  have hclass : IsClassName d.name := by
    rw [hname]
    have hword : "Integer".toList.all isWordChar = true := by decide +kernel
    exact ⟨by decide, List.all_eq_true.mp hword, by decide⟩
  obtain ⟨callable, h⟩ := hd.exists_namesItself
  have hnominal := h.nominal hclass
  refine ⟨d, hd, hname, hclass, ?_, (hnominal.synonym "int" (by rw [hname]; decide)).1⟩
  rw [← Bool.not_eq_true, hnominal.hasName_iff, hname]
  decide

end SourceUnit

end PhpIndex
