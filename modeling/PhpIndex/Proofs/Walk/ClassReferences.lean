import PhpIndex.Proofs.Scope.Resolution
import PhpIndex.Proofs.UnionType.Names
import PhpIndex.Proofs.Walk.Effects
import PhpIndex.Tree.Build

/-!
The class that an alias stands for, wherever it is written.

* `primitiveTypeNames`, `primitiveSynonyms`: the words that name a type in a signature and no class;
  `isReservedTypeName_iff`: there are no others;
* `Scope.namedType`: the type that a name in a signature stands for;
  `QualifiedName.mem_ofName_iff`: the type of a class in a namespace has its full name and no other;
* `Scope.ImportsClass`: an alias of such a class;
* `class?_visit`, `function?_visit`: what a node declares is registered;
* `Scope.MeansClass`: a name that means one class as the parent of a class, as the class of a new
  object and as the type that a function returns;
* `Scope.meansClass_of_importsClass`: **an alias means its class in each of these places**, unless
  it is a reserved word or begins with the mark of a type that may be null;
  `Scope.importsClass_not_meansClass`: neither exception can be left out.
-/

namespace PhpIndex

open Text

/-! ### Reserved words -/

/-- The names of types that are no classes. -/
def primitiveTypeNames : List String :=
  ["int", "float", "bool", "string", "array", "callable", "iterable", "object", "mixed", "null",
    "true", "false", "void", "never"]

/-- Other names of some of these types. -/
def primitiveSynonyms : List String := ["boolean", "integer", "double"]

/-- The names that are reserved in signatures are these. -/
lemma isReservedTypeName_iff {word : String} :
    isReservedTypeName word = true ↔ asciiLower word ∈ primitiveTypeNames ++ primitiveSynonyms := by
  have hlower : reservedTypeNames.map asciiLower = reservedTypeNames := by decide
  have hsame : reservedTypeNames.Perm (primitiveTypeNames ++ primitiveSynonyms) := by decide
  rw [isReservedTypeName, isAmongIgnoringCase_iff hlower, hsame.mem_iff]

/-- A name of several segments is that of no builtin type. -/
lemma builtinTypeName?_eq_none {word : String} (h : separator ∈ word.toList) :
    builtinTypeName? word = none :=
  Option.eq_none_iff_forall_ne_some.mpr fun _ hbuiltin =>
    (separator_notMem_of_builtinTypeName? hbuiltin).1 h

/-! ### The types of names -/

/-- The type that a name in a signature stands for. -/
def Scope.namedType (s : Scope) (bare : String) (form : NameKind) : UnionType :=
  .ofName <|
    if isReservedTypeName bare || isSelfReference bare then bare else s.resolve bare form .classLike

/-- A text without the mark of a type that may be null is taken whole. -/
lemma trimStart_mark_eq_self {written : String} (h : written.toList.head? ≠ some '?') :
    trimStart (· == '?') written = written := by
  refine trimStart_eq_self fun c hc => ?_
  rw [beq_eq_false_iff_ne]
  rintro rfl
  exact h hc

/-- So a node that writes it names the type that it stands for. -/
lemma Node.Writes.typeOfSignature?_eq {s : Scope} {node : Node} {written : String} {form : NameKind}
    (h : node.Writes written form) (hmark : written.toList.head? ≠ some '?') :
    s.typeOfSignature? node = some (s.namedType written form) := by
  rw [Scope.typeOfSignature?, if_pos h.kind_eq, h.text_eq, Option.map_some,
    trimStart_mark_eq_self hmark, if_pos rfl, h.form_eq]
  rfl

namespace QualifiedName

variable {name : QualifiedName}

/-- The full name of a class in a namespace is the only name of its type. -/
lemma mem_ofName_iff (hrest : name.rest ≠ []) (htrim : trim name.text = name.text) {n : String} :
    n ∈ (UnionType.ofName name.text).names ↔ n = name.text := by
  have hseparator : separator ∈ name.text.toList := by
    rw [name.text_of_rest_ne_nil hrest, toList_append_separator]
    simp
  have hcanonical : canonicalTypeName? name.text = some name.text := by
    rw [canonicalTypeName?, htrim, dropLeading_text]
    simp only [if_neg text_ne_empty, builtinTypeName?_eq_none (separator_mem_asciiLower hseparator),
      Option.getD_none]
  rw [UnionType.mem_names_ofName, hcanonical, Option.some_inj, eq_comm]

end QualifiedName

/-! ### Aliases of classes -/

/-- A single word that is an alias of a class in a namespace, whose full name has no blanks around
it. -/
structure Scope.ImportsClass (s : Scope) (written : String) (target : QualifiedName) : Prop where
  isSegment : IsSegment written
  get?_eq : s.imports.get? .classLike written = some target.text
  rest_ne_nil : target.rest ≠ []
  trim_eq : trim target.text = target.text

/-- A name that means one class wherever a class may be written. -/
structure Scope.MeansClass (s : Scope) (written : String) (target : QualifiedName) : Prop where
  /-- As the parent of a class that is declared. -/
  parent : ∀ (options : Options) (files : SourceFiles) (f : Findings) (node written' : Node)
    (name : String), node.kind = .classDecl → declaredClassName? node = some name →
      node.childNode? 1 = some written' → written'.Writes written .unmarked →
      ∃ k c, s.newIdentity f.registry name .classLike = .ok k ∧ f.registry.class? k = none ∧
        (visit options files node s f).2.registry.class? k = some c ∧
        c.parent? = some target.toClass
  /-- As the class of a new object. -/
  created : ∀ node written' : Node, node.kind = .newObject → node.childNode? 0 = some written' →
    written'.Writes written .unmarked →
      ∀ n, n ∈ (s.typeOf (.node node)).names ↔ n = target.text
  /-- As the type that the signature of a function gives. -/
  returned : ∀ (options : Options) (files : SourceFiles) (f : Findings) (node written' : Node)
    (name : String), node.kind = .functionDecl → node.childName? 0 = some name →
      node.childNode? Node.returnSlot = some written' → written'.Writes written .unmarked →
      ∃ k g type, s.newIdentity f.registry name .function = .ok k ∧ f.registry.function? k = none ∧
        (visit options files node s f).2.registry.function? k = some g ∧
        g.returnType = some type ∧ ∀ n, n ∈ type.names ↔ n = target.text

section

variable {s : Scope} {node : Node} {name : String}

/-! ### What a node declares -/

/-- The class that a node declares is registered under a new identity. -/
lemma class?_visit (options : Options) (files : SourceFiles) (f : Findings)
    (hkind : node.kind = .classDecl) (hname : declaredClassName? node = some name) :
    ∃ k, s.newIdentity f.registry name .classLike = .ok k ∧ f.registry.class? k = none ∧
      (visit options files node s f).2.registry.class? k =
        some (s.classFrom options node k name) := by
  have hnew : s.newClass? options f.registry node =
      some (s.classFrom options node (f.registry.freeClass (.ofClass s.space name)) name) := by
    rw [Scope.newClass?, hname, Option.map_some]
  have hfree := (Scope.newClass?_spec hnew).1.free
  have hadd := Registry.addClass_eq_ok_iff.mpr ⟨hfree, rfl⟩
  obtain ⟨f', hf', hregistry, -⟩ := Findings.addClass_of_ok hadd
  refine ⟨_, rfl, Registry.class?_eq_none_iff.mpr hfree, ?_⟩
  rw [visit, hkind]
  simp only [declareClass_eq, hnew, hf']
  refine (congrArg (Registry.class? · _) hregistry).trans ?_
  exact (Registry.class?_of_addClass hadd _).trans (if_pos rfl)

/-- So is a function. -/
lemma function?_visit (options : Options) (files : SourceFiles) (f : Findings)
    (hkind : node.kind = .functionDecl) (hname : node.childName? 0 = some name) :
    ∃ k, s.newIdentity f.registry name .function = .ok k ∧ f.registry.function? k = none ∧
      (visit options files node s f).2.registry.function? k =
        some (s.functionFrom options node k name) := by
  have hnew : s.newFunction? options f.registry node =
      some (s.functionFrom options node (f.registry.freeFunction (.ofFunction s.space name))
        name) := by
    rw [Scope.newFunction?, hname, Option.map_some]
  obtain ⟨hleast, howner⟩ := Scope.newFunction?_spec hnew
  have hadd := Registry.addFunction_eq_ok_iff.mpr ⟨hleast.free, by simp [howner], rfl⟩
  obtain ⟨f', hf', hregistry, -⟩ := Findings.addFunction_of_ok hadd
  refine ⟨_, rfl, Registry.function?_eq_none_iff.mpr hleast.free, ?_⟩
  rw [visit, hkind]
  simp only [declareFunction_eq, hnew, hf']
  refine (congrArg (Registry.function? · _) hregistry).trans ?_
  exact (Registry.function?_of_addFunction hadd _).trans (if_pos rfl)

/-- The type that a signature names goes before that of a doc comment. -/
lemma Scope.returnType_functionFrom (options : Options) (k : Fqsen) {written : Node}
    (hslot : node.childNode? Node.returnSlot = some written) {type : UnionType}
    (htype : s.typeOfSignature? written = some type) :
    (s.functionFrom options node k name).returnType = some type := by
  have hslot' : node.childNode? 3 = some written := hslot
  simp only [functionFrom, hslot', Option.bind_some, htype, Option.some_or]

/-! ### Aliases in each place -/

namespace Scope.ImportsClass

variable {written : String} {target : QualifiedName} (h : s.ImportsClass written target)
variable (hself : isSelfReference written = false)

include h hself

/-- An alias is resolved to the full name that it stands for. -/
lemma resolve_eq : s.resolve written .unmarked .classLike = target.text := by
  rw [resolve_unmarked h.isSegment.separator_notMem hself, h.get?_eq, Option.getD_some]

lemma resolveNode?_eq (hnode : node.Writes written .unmarked) :
    s.resolveNode? node .classLike = some target.text := by
  rw [hnode.resolveNode?_eq h.isSegment.ne_empty, h.resolve_eq hself]

/-- So it refers to the class of this name. -/
lemma resolveClass?_eq (hnode : node.Writes written .unmarked) :
    s.resolveClass? node = some target.toClass := by
  have htarget : ¬ isSelfReference target.text = true := by
    rw [QualifiedName.isSelfReference_text]
    exact fun hsingle => h.rest_ne_nil hsingle.1
  rw [QualifiedName.resolveClass?_eq (h.resolveNode?_eq hself hnode), if_neg htarget]

/-- A signature that writes it names the type of this class. -/
lemma typeOfSignature?_eq (hreserved : isReservedTypeName written = false)
    (hmark : written.toList.head? ≠ some '?') (hnode : node.Writes written .unmarked) :
    s.typeOfSignature? node = some (.ofName target.text) := by
  rw [hnode.typeOfSignature?_eq hmark, namedType, hreserved, hself, h.resolve_eq hself]
  rfl

end Scope.ImportsClass

/-- **An alias means its class wherever it is written**, unless it is a word that is reserved or
begins with the mark of a type that may be null. -/
theorem Scope.meansClass_of_importsClass {written : String} {target : QualifiedName}
    (h : s.ImportsClass written target)
    (hword : asciiLower written ∉ selfReferences ++ primitiveTypeNames ++ primitiveSynonyms)
    (hmark : written.toList.head? ≠ some '?') : s.MeansClass written target := by
  rw [List.append_assoc, List.mem_append, not_or, ← isSelfReference_iff, ← isReservedTypeName_iff,
    Bool.not_eq_true, Bool.not_eq_true] at hword
  obtain ⟨hself, hreserved⟩ := hword
  have htype : ∀ n, n ∈ (UnionType.ofName target.text).names ↔ n = target.text :=
    fun _ => QualifiedName.mem_ofName_iff h.rest_ne_nil h.trim_eq
  refine ⟨?_, ?_, ?_⟩
  · intro options files f node written' name hkind hname hslot hwrites
    obtain ⟨k, hk, hfree, hc⟩ := class?_visit options files f hkind hname
    refine ⟨k, _, hk, hfree, hc, ?_⟩
    simp only [classFrom, hslot, Option.bind_some, h.resolveClass?_eq hself hwrites]
  · intro node written' hkind hslot hwrites n
    rw [typeOf, typeOfNode, hkind]
    simp only [hslot, Option.bind_some, h.resolveNode?_eq hself hwrites, Option.map_some,
      Option.getD_some]
    exact htype n
  · intro options files f node written' name hkind hname hslot hwrites
    obtain ⟨k, hk, hfree, hg⟩ := function?_visit options files f hkind hname
    have hsignature := h.typeOfSignature?_eq hself hreserved hmark hwrites
    exact ⟨k, _, _, hk, hfree, hg, returnType_functionFrom options k hslot hsignature, htype⟩

/-! ### Aliases that mean something else -/

/-- A name that means a class makes the type of this class in a signature. -/
lemma Scope.MeansClass.mem_typeOfSignature? {written : String} {target : QualifiedName}
    (h : s.MeansClass written target) (hnode : node.Writes written .unmarked) {type : UnionType}
    (htype : s.typeOfSignature? node = some type) {n : String} :
    n ∈ type.names ↔ n = target.text := by
  -- any function with this signature tells what its type is
  obtain ⟨decl, hkind, hname, hslot⟩ : ∃ decl : Node, decl.kind = .functionDecl ∧
      decl.childName? 0 = some "f" ∧ decl.childNode? Node.returnSlot = some node :=
    ⟨{ kind := .functionDecl, children := [.str "f", .empty, .empty, .node node] }, rfl, rfl, rfl⟩
  obtain ⟨k, hk, -, hg⟩ := function?_visit {} {} {} hkind hname
  obtain ⟨k', g, type', hk', -, hg', htype', hnames⟩ :=
    h.returned {} {} {} decl node "f" hkind hname hslot hnode
  obtain rfl := Except.ok.inj (hk.symm.trans hk')
  obtain rfl := Option.some.inj (hg.symm.trans hg')
  rw [returnType_functionFrom {} k hslot htype] at htype'
  obtain rfl := Option.some.inj htype'
  exact hnames n

/-- A signature with a mark before its type has a type that may be null. -/
lemma Scope.exists_null_mem_typeOfSignature? {written : String} {form : NameKind}
    (hnode : node.Writes written form) (hmark : written.toList.head? = some '?') :
    ∃ type, s.typeOfSignature? node = some type ∧ "null" ∈ type.names := by
  have hbare : trimStart (· == '?') written ≠ written := by
    intro heq
    have hhead := List.head?_dropWhile_not (· == '?') written.toList
    rw [trimStart] at heq
    have htoList := congrArg String.toList heq
    rw [String.toList_ofList] at htoList
    rw [htoList, hmark] at hhead
    exact absurd hhead (by decide)
  rw [typeOfSignature?, if_pos hnode.kind_eq, hnode.text_eq, Option.map_some]
  simp only [if_neg hbare]
  exact ⟨_, rfl, UnionType.mem_names_add.mpr (.inr (by decide +kernel))⟩

end

/-- A scope into which a class is imported under some name. -/
def aliasScope (name target : String) : Scope :=
  (Scope.ofFile "user.php").withAliases [⟨.classLike, name, target⟩]

/-- Neither exception can be left out: a synonym of a primitive type makes this type in a signature,
and the mark before a name adds another type. -/
theorem Scope.importsClass_not_meansClass :
    ((aliasScope "integer" "Lib\\Integer").ImportsClass "integer" ⟨"Lib", ["Integer"], by decide⟩ ∧
      asciiLower "integer" ∉ selfReferences ++ primitiveTypeNames ∧
      ¬ (aliasScope "integer" "Lib\\Integer").MeansClass "integer"
        ⟨"Lib", ["Integer"], by decide⟩) ∧
    ((aliasScope "?User" "Lib\\User").ImportsClass "?User" ⟨"Lib", ["User"], by decide⟩ ∧
      asciiLower "?User" ∉ selfReferences ++ primitiveTypeNames ∧
      ¬ (aliasScope "?User" "Lib\\User").MeansClass "?User" ⟨"Lib", ["User"], by decide⟩) := by
  refine ⟨⟨⟨by decide, by decide +kernel, by decide, by decide +kernel⟩, by decide, ?_⟩,
    ⟨⟨by decide, by decide +kernel, by decide, by decide +kernel⟩, by decide, ?_⟩⟩
  · intro h
    have hnode : (Node.nameOf "integer").Writes "integer" .unmarked := ⟨rfl, rfl, rfl⟩
    have htype : (aliasScope "integer" "Lib\\Integer").typeOfSignature? (.nameOf "integer") =
        some (.ofName "integer") := by
      decide +kernel
    have hint : "int" ∈ (UnionType.ofName "integer").names :=
      UnionType.mem_names_add.mpr (.inr (by decide +kernel))
    exact absurd ((h.mem_typeOfSignature? hnode htype).mp hint) (by decide +kernel)
  · intro h
    have hnode : (Node.nameOf "?User").Writes "?User" .unmarked := ⟨rfl, rfl, rfl⟩
    obtain ⟨type, htype, hnull⟩ := exists_null_mem_typeOfSignature? hnode (by rfl)
    exact absurd ((h.mem_typeOfSignature? hnode htype).mp hnull) (by decide +kernel)

/-- The case of letters does not matter to an alias. -/
theorem Scope.meansClass_of_importsClass_database :
    (importingScope.ImportsClass "DB" ⟨"Lib", ["Database"], by decide⟩ ∧
      asciiLower "DB" ∉ selfReferences ++ primitiveTypeNames ++ primitiveSynonyms ∧
      "DB".toList.head? ≠ some '?') ∧
      importingScope.MeansClass "DB" ⟨"Lib", ["Database"], by decide⟩ := by
  have h : importingScope.ImportsClass "DB" ⟨"Lib", ["Database"], by decide⟩ :=
    ⟨by decide, by decide +kernel, by decide, by decide +kernel⟩
  exact ⟨⟨h, by decide, by decide⟩, meansClass_of_importsClass h (by decide) (by decide)⟩

end PhpIndex
