import PhpIndex.Proofs.Walk.ClassReferences

/-!
Return types that may be null, which are written with a mark before the type.

* `Node.nameOf_writes_full`, `nameOf_writes_relative`, `nameOf_writes_plain`,
  `nameOf_writes_marked`: what a name node holds of a name as it is written. The mark hides how the
  name behind it begins;
* `Scope.namedType_full`: a full name stands for the same type with its separator and without;
* `Scope.Returns`: the type that is recorded of a function for its return type as it is written;
* `Scope.AddsNull`: a return type to which the mark adds `null`;
  `Scope.addsNull_of_beginsName`: most are;
* `Scope.misreadName`: what a name from the current namespace is read as behind the mark;
  `Scope.not_addsNull_of_spells`: this is another class;
* `Scope.NullableReturns`, `Scope.nullableReturns`: **the mark adds `null` to every type** but those
  that are written from the current namespace, which it turns into the types of other classes:
  `Scope.not_addsNull_relative`.
-/

namespace PhpIndex

open Text

/-- The mark before a type that may be null. -/
def nullMark : String := "?"

lemma toList_nullMark_append (written : String) :
    (nullMark ++ written).toList = '?' :: written.toList :=
  String.toList_append

/-- The word before the names that are written from the current namespace. -/
def namespaceWord : String := "namespace\\"

/-! ### Names as they are written -/

namespace Node

variable {written : String}

/-- A node of a name with the flag word for its form. -/
lemma writes_name (stored : String) (form : NameKind) :
    Writes { kind := .name, flags := form.toWord, children := [.str stored] } stored form :=
  ⟨rfl, rfl, NameKind.ofWord_toWord form⟩

/-- A full name is stored without the separator at its start. -/
lemma nameOf_writes_full (stored : String) :
    (nameOf (separator.toString ++ stored)).Writes stored .fullyQualified := by
  rw [nameOf, afterSeparator?_eq_some_iff.mpr rfl]
  exact writes_name stored .fullyQualified

/-- A name from the current namespace is stored without the word for it. -/
lemma nameOf_writes_relative (stored : String) :
    (nameOf (namespaceWord ++ stored)).Writes stored .relative := by
  have htoList : (namespaceWord ++ stored).toList = namespaceWord.toList ++ stored.toList :=
    String.toList_append
  have hafter : afterSeparator? (namespaceWord ++ stored) = none :=
    afterSeparator?_eq_none (by rw [htoList]; exact nofun)
  have hword : afterWord? "namespace\\".toList (namespaceWord ++ stored).toList =
      some stored.toList := afterWord?_eq_some_iff.mpr htoList
  rw [nameOf, hafter, hword]
  dsimp only
  rw [String.ofList_toList]
  exact writes_name stored .relative

/-- All other names are stored as they are written. -/
lemma nameOf_writes_plain (hseparator : afterSeparator? written = none)
    (hword : afterWord? namespaceWord.toList written.toList = none) :
    (nameOf written).Writes written .unmarked := by
  have hword' : afterWord? "namespace\\".toList written.toList = none := hword
  rw [nameOf, hseparator, hword']
  exact writes_name written .unmarked

/-- Whatever is behind the mark, the name is stored with both. -/
lemma nameOf_writes_marked (written : String) :
    (nameOf (nullMark ++ written)).Writes (nullMark ++ written) .unmarked := by
  have htoList := toList_nullMark_append written
  refine nameOf_writes_plain (afterSeparator?_eq_none ?_) ?_
  · rw [htoList]
    exact nofun
  · rw [htoList]
    rfl

end Node

/-! ### The types that they stand for -/

namespace Scope

variable {s : Scope}

/-- No type that is reserved has a separator in its name. -/
lemma separator_notMem_of_isReservedTypeName {word : String} (h : isReservedTypeName word = true) :
    separator ∉ word.toList :=
  separator_notMem_of_isAmong (by decide) h

/-- A name with a separator in it is that of a class. -/
lemma namedType_of_separator {bare : String} (h : separator ∈ bare.toList) (form : NameKind) :
    s.namedType bare form = .ofName (s.resolve bare form .classLike) := by
  have hreserved : ¬ isReservedTypeName bare = true :=
    fun hreserved => separator_notMem_of_isReservedTypeName hreserved h
  have hself : ¬ isSelfReference bare = true :=
    fun hself => separator_notMem_of_isSelfReference hself h
  rw [namedType, if_neg]
  rw [Bool.or_eq_true, not_or]
  exact ⟨hreserved, hself⟩

/-- A full name stands for the same type with its separator and without. -/
lemma namedType_full {bare : String} (h : bare.toList.head? ≠ some separator) :
    s.namedType (separator.toString ++ bare) .unmarked = s.namedType bare .fullyQualified := by
  have hmem : separator ∈ (separator.toString ++ bare).toList := by
    rw [String.toList_append]
    exact List.mem_cons_self
  have hleft : s.namedType (separator.toString ++ bare) .unmarked = .ofName bare := by
    rw [namedType_of_separator hmem, resolve, afterSeparator?_eq_some_iff.mpr rfl]
  have hresolve : s.resolve bare .fullyQualified .classLike = bare := by
    rw [resolve, afterSeparator?_eq_none h]
  rw [hleft, namedType, hresolve, ite_self]

end Scope

namespace Node.Writes

variable {s : Scope} {node : Node} {written : String} {form : NameKind}

lemma typeOfSignature?_marked (h : node.Writes (nullMark ++ written) form)
    (hmark : written.toList.head? ≠ some '?') :
    s.typeOfSignature? node = some ((s.namedType written form).add "null") := by
  have hbare : trimStart (· == '?') (nullMark ++ written) = written := by
    rw [trimStart, toList_nullMark_append]
    exact trimStart_mark_eq_self hmark
  have hne : written ≠ nullMark ++ written := by
    rw [ne_eq, ← String.toList_inj, toList_nullMark_append]
    exact (List.cons_ne_self _ _).symm
  rw [Scope.typeOfSignature?, if_pos h.kind_eq, h.text_eq, Option.map_some, hbare, if_neg hne,
    h.form_eq]
  rfl

end Node.Writes

/-! ### Functions with return types -/

namespace Node

variable {decl : Node} {i : Nat}

/-- A return type stands in its own place and in no other. -/
lemma childNode?_returning_slot (decl : Node) (written : String) :
    (decl.returning written).childNode? returnSlot = some (nameOf written) := by
  have hlength : returnSlot <
      (decl.children ++
        List.replicate (returnSlot + 1 - decl.children.length) Child.empty).length := by
    rw [List.length_append, List.length_replicate]
    omega
  simp only [childNode?, child?, returning]
  rw [List.getElem?_set_self hlength]
  rfl

/-- What is in another slot stays there, and slots that are added are empty. -/
lemma bind_child?_returning {α : Type} {read : Child → Option α} (hread : read .empty = none)
    (written : String) (hi : i ≠ returnSlot) :
    ((decl.returning written).child? i).bind read = (decl.child? i).bind read := by
  simp only [child?, returning]
  rw [List.getElem?_set_ne hi.symm]
  by_cases hlength : i < decl.children.length
  · rw [List.getElem?_append_left hlength]
  · rw [List.getElem?_append_right (not_lt.mp hlength), List.getElem?_replicate,
      List.getElem?_eq_none (not_lt.mp hlength)]
    split
    · exact hread
    · rfl

lemma childNode?_returning (written : String) (hi : i ≠ returnSlot) :
    (decl.returning written).childNode? i = decl.childNode? i :=
  bind_child?_returning rfl written hi

lemma childName?_returning (written : String) (hi : i ≠ returnSlot) :
    (decl.returning written).childName? i = decl.childName? i :=
  congrArg (Option.filter _) (bind_child?_returning rfl written hi)

end Node

namespace Scope

variable {s : Scope} {decl : Node} {written : String} {type : UnionType}

/-- With a return type a function is described as without, but for its type. -/
lemma functionFrom_returning (h : s.typeOfSignature? (.nameOf written) = some type)
    (options : Options) (k : Fqsen) (name : String) :
    s.functionFrom options (decl.returning written) k name =
      { s.functionFrom options decl k name with returnType := some type } := by
  have hslot : (decl.returning written).childNode? 3 = some (.nameOf written) :=
    decl.childNode?_returning_slot written
  have hparams : (decl.returning written).childNode? 1 = decl.childNode? 1 :=
    Node.childNode?_returning written (by decide)
  simp only [functionFrom, hslot, hparams, Option.bind_some, h, Option.some_or]
  rfl

/-- A type that is recorded of every function that is declared with it. For the rest the function is
described as without it. -/
def Returns (s : Scope) (written : String) (type : UnionType) : Prop :=
  ∀ (options : Options) (files : SourceFiles) (f : Findings) (decl : Node) (name : String),
    decl.kind = .functionDecl → decl.childName? 0 = some name →
    ∃ k, s.newIdentity f.registry name .function = .ok k ∧ f.registry.function? k = none ∧
      (visit options files (decl.returning written) s f).2.registry.function? k =
        some { s.functionFrom options decl k name with returnType := some type }

/-- The type that a signature names is recorded. -/
lemma returns_of_typeOfSignature? (h : s.typeOfSignature? (.nameOf written) = some type) :
    s.Returns written type := by
  intro options files f decl name hkind hname
  have hkind' : (decl.returning written).kind = .functionDecl := hkind
  have hname' : (decl.returning written).childName? 0 = some name := by
    rw [Node.childName?_returning written (by decide), hname]
  obtain ⟨k, hk, hfree, hg⟩ := function?_visit options files f hkind' hname'
  exact ⟨k, hk, hfree, by rw [hg, functionFrom_returning h]⟩

/-- Only one type is recorded. -/
lemma Returns.eq {type' : UnionType} (h : s.Returns written type) (h' : s.Returns written type') :
    type = type' := by
  let decl := Node.functionOf "f" [] []
  obtain ⟨k, hk, -, hg⟩ := h {} {} {} decl "f" rfl rfl
  obtain ⟨k', hk', -, hg'⟩ := h' {} {} {} decl "f" rfl rfl
  obtain rfl := Except.ok.inj (hk.symm.trans hk')
  exact Option.some.inj (congrArg FunctionLike.returnType (Option.some.inj (hg.symm.trans hg')))

/-! ### The mark before a type -/

/-- A type to which the mark adds `null`. -/
def AddsNull (s : Scope) (written : String) : Prop :=
  ∃ type, s.Returns written type ∧ s.Returns (nullMark ++ written) (type.add "null")

/-- Whether the mark adds `null` depends on the types that are recorded with it and without. -/
lemma Returns.addsNull_iff {marked : UnionType} (h : s.Returns written type)
    (hmarked : s.Returns (nullMark ++ written) marked) :
    s.AddsNull written ↔ marked = type.add "null" := by
  constructor
  · rintro ⟨type', h', hmarked'⟩
    obtain rfl := h.eq h'
    exact hmarked.eq hmarked'
  · rintro rfl
    exact ⟨type, h, hmarked⟩

end Scope

/-- A text that begins with a name, without the separator that a full name may have before it. -/
structure BeginsName (written : String) : Prop where
  head?_ne : written.toList.head? ≠ some '?'
  of_separator : ∀ full, afterSeparator? written = some full →
    full.toList.head? ≠ some '?' ∧ full.toList.head? ≠ some separator

namespace Scope

variable {s : Scope} {written : String}

/-- The class that a name from the current namespace turns into behind the mark: the word for the
namespace is taken for a segment. -/
def misreadName (s : Scope) (stored : String) : String :=
  match s.imports.get? .classLike "namespace" with
  | some target => target ++ separator.toString ++ stored
  | none => s.qualify (namespaceWord ++ stored)

/-- Behind the mark the word for the namespace is the first segment of a name. -/
lemma namedType_misread (s : Scope) (stored : String) :
    s.namedType (namespaceWord ++ stored) .unmarked = .ofName (s.misreadName stored) := by
  have hseparator : separator ∉ "namespace".toList := by decide
  have htext : namespaceWord ++ stored = "namespace" ++ separator.toString ++ stored := rfl
  have hmem : separator ∈ (namespaceWord ++ stored).toList := by
    rw [htext, toList_append_separator]
    simp
  have hself : ¬ isSelfReference (namespaceWord ++ stored) = true :=
    fun hself => separator_notMem_of_isSelfReference hself hmem
  have hafter : afterSeparator? (namespaceWord ++ stored) = none := by
    refine afterSeparator?_eq_none ?_
    rw [htext, toList_append_separator]
    exact nofun
  have hsplit : splitFirst (namespaceWord ++ stored) = some ("namespace", stored) := by
    rw [htext, splitFirst_append hseparator]
  rw [namedType_of_separator hmem, resolve, hafter]
  simp only [hself, hsplit, misreadName]
  rfl

/-- The mark adds `null` to a type that is not written from the current namespace. -/
lemma addsNull_of_beginsName (hbegins : BeginsName written)
    (hword : afterWord? namespaceWord.toList written.toList = none) : s.AddsNull written := by
  have hmarked := (Node.nameOf_writes_marked written).typeOfSignature?_marked (s := s)
    hbegins.head?_ne
  cases hafter : afterSeparator? written with
  | none =>
      have hplain := (Node.nameOf_writes_plain hafter hword).typeOfSignature?_eq (s := s)
        hbegins.head?_ne
      exact ⟨_, returns_of_typeOfSignature? hplain, returns_of_typeOfSignature? hmarked⟩
  | some full =>
      obtain ⟨hmark, hseparator⟩ := hbegins.of_separator full hafter
      obtain rfl := afterSeparator?_eq_some_iff.mp hafter
      have hplain := (Node.nameOf_writes_full full).typeOfSignature?_eq (s := s) hmark
      rw [← namedType_full hseparator] at hplain
      exact ⟨_, returns_of_typeOfSignature? hplain, returns_of_typeOfSignature? hmarked⟩

variable (s) in
/-- The types of a name from the current namespace, without the mark and with it. -/
lemma returns_relative {stored : String} (hstored : stored.toList.head? ≠ some '?') :
    s.Returns (namespaceWord ++ stored) (s.namedType stored .relative) ∧
      s.Returns (nullMark ++ (namespaceWord ++ stored))
        ((UnionType.ofName (s.misreadName stored)).add "null") := by
  have hword : (namespaceWord ++ stored).toList.head? ≠ some '?' := by
    rw [String.toList_append]
    exact nofun
  have hplain := (Node.nameOf_writes_relative stored).typeOfSignature?_eq (s := s) hstored
  have hmarked := (Node.nameOf_writes_marked (namespaceWord ++ stored)).typeOfSignature?_marked
    (s := s) hword
  rw [namedType_misread] at hmarked
  exact ⟨returns_of_typeOfSignature? hplain, returns_of_typeOfSignature? hmarked⟩

end Scope

/-! ### The class behind the mark -/

lemma length_trimStart_le (p : Char → Bool) (text : String) :
    (trimStart p text).toList.length ≤ text.toList.length := by
  rw [toList_trimStart]
  exact List.length_dropWhile_le p _

lemma length_trimEnd_le (p : Char → Bool) (text : String) :
    (trimEnd p text).toList.length ≤ text.toList.length := by
  rw [toList_trimEnd]
  exact (List.rdropWhile_prefix p _).length_le

/-- A name with a separator is stored as it is written, without what is cut off at its ends. -/
lemma length_le_of_canonicalTypeName? {word stored : String}
    (h : canonicalTypeName? word = some stored) (hseparator : separator ∈ stored.toList) :
    stored.toList.length ≤ word.toList.length := by
  simp only [canonicalTypeName?, Option.ite_none_left_eq_some, Option.some_inj] at h
  obtain ⟨-, rfl⟩ := h
  cases hbuiltin : builtinTypeName? (asciiLower (dropLeading (trim word))) with
  | some type =>
      rw [hbuiltin, Option.getD_some] at hseparator
      exact absurd hseparator (separator_notMem_of_builtinTypeName? hbuiltin).2
  | none =>
      rw [Option.getD_none]
      exact (length_trimStart_le _ _).trans
        ((length_trimEnd_le _ _).trans (length_trimStart_le _ _))

namespace Scope

variable {s : Scope}

/-- Without an alias the class behind the mark is in the namespace with the segment more. -/
lemma exists_misreadName {space : List String} {aliases : List Alias} (hs : s.Spells space aliases)
    (hfree : s.imports.get? .classLike "namespace" = none) (name : QualifiedName) :
    ∃ found : QualifiedName, found.rest ≠ [] ∧ s.misreadName name.text = found.text := by
  have hsegment : ∀ x ∈ "namespace" :: name.segments, IsSegment x :=
    List.forall_mem_cons.mpr ⟨by decide, name.isSegment⟩
  obtain ⟨found, hsegments, htext⟩ := hs.exists_qualified ⟨"namespace", name.segments, hsegment⟩
  have hname : QualifiedName.text ⟨"namespace", name.segments, hsegment⟩ =
      namespaceWord ++ name.text :=
    QualifiedName.text_of_rest_ne_nil _ name.segments_ne_nil
  refine ⟨found, fun hrest => ?_, ?_⟩
  · have hlength := congrArg List.length hsegments
    simp [QualifiedName.segments, hrest] at hlength
    omega
  · rw [misreadName, hfree, ← hname]
    exact htext

/-- The type of a name from the current namespace without the mark. -/
lemma exists_namedType_relative (s : Scope) (name : QualifiedName) :
    ∃ bare, s.namedType name.text .relative = .ofName bare ∧
      bare.toList.length ≤ s.space.toList.length + name.text.toList.length := by
  have hresolve : s.resolve name.text .relative .classLike = s.space ++ name.text := by
    rw [resolve, afterSeparator?_eq_none name.head?_text_ne]
    rfl
  rw [namedType, hresolve]
  refine ⟨_, rfl, ?_⟩
  split
  · omega
  · rw [String.toList_append, List.length_append]

/-- It is none of those that the name is of without the mark, which are shorter. -/
lemma not_addsNull_of_spells {space : List String} {aliases : List Alias}
    (hs : s.Spells space aliases) (hfree : s.imports.get? .classLike "namespace" = none)
    {name : QualifiedName} (hmark : name.text.toList.head? ≠ some '?')
    (htrim : trim (s.misreadName name.text) = s.misreadName name.text) :
    ¬ s.AddsNull (namespaceWord ++ name.text) := by
  obtain ⟨hplain, hmarked⟩ := s.returns_relative hmark
  obtain ⟨found, hrest, hfound⟩ := exists_misreadName hs hfree name
  rw [hplain.addsNull_iff hmarked]
  intro htypes
  have hseparator : separator ∈ found.text.toList := by
    rw [found.text_of_rest_ne_nil hrest, toList_append_separator]
    simp
  have hmem : found.text ∈ ((s.namedType name.text .relative).add "null").names := by
    rw [← htypes, UnionType.mem_names_add, hfound,
      QualifiedName.mem_ofName_iff hrest (hfound ▸ htrim)]
    exact .inl rfl
  obtain hname | hnull := UnionType.mem_names_add.mp hmem
  · obtain ⟨bare, htype, hbare⟩ := s.exists_namedType_relative name
    rw [htype, UnionType.mem_names_ofName] at hname
    have hlength := length_le_of_canonicalTypeName? hname hseparator
    have hlonger : s.space.toList.length + name.text.toList.length < found.text.toList.length := by
      rw [← hfound, misreadName, hfree, qualify, String.toList_append, String.toList_append,
        List.length_append, List.length_append]
      have : 0 < namespaceWord.toList.length := by decide
      omega
    omega
  · rw [UnionType.canonicalTypeName?_null, Option.some_inj] at hnull
    rw [← hnull] at hseparator
    exact absurd hseparator (by decide)

/-! ### What the mark does -/

/-- What the mark before a return type does in a scope. -/
structure NullableReturns (s : Scope) : Prop where
  /-- It adds `null` to a builtin type, to a class by any of its names, and to what an alias stands
  for. -/
  adds_null : ∀ written, BeginsName written →
    afterWord? namespaceWord.toList written.toList = none → s.AddsNull written
  /-- But a name that is written from the current namespace is read as another one behind it. -/
  relative : ∀ stored, stored.toList.head? ≠ some '?' →
    s.Returns (namespaceWord ++ stored) (s.namedType stored .relative) ∧
      s.Returns (nullMark ++ (namespaceWord ++ stored))
        ((UnionType.ofName (s.misreadName stored)).add "null")
  /-- So `null` is added to it only if both have the same type but for `null`. -/
  relative_iff : ∀ stored, stored.toList.head? ≠ some '?' →
    (s.AddsNull (namespaceWord ++ stored) ↔
      (UnionType.ofName (s.misreadName stored)).add "null" =
        (s.namedType stored .relative).add "null")
  /-- They never have unless the word for the namespace is an alias. -/
  relative_ne : ∀ space aliases, s.Spells space aliases →
    s.imports.get? .classLike "namespace" = none → ∀ name : QualifiedName,
      name.text.toList.head? ≠ some '?' →
      trim (s.misreadName name.text) = s.misreadName name.text →
        ¬ s.AddsNull (namespaceWord ++ name.text)

/-- **The mark adds `null` to every type that it is written before** but for those that are written
from the current namespace. -/
theorem nullableReturns (s : Scope) : s.NullableReturns where
  adds_null _ hbegins hword := addsNull_of_beginsName hbegins hword
  relative _ hstored := s.returns_relative hstored
  relative_iff _ hstored := by
    obtain ⟨hplain, hmarked⟩ := s.returns_relative hstored
    exact hplain.addsNull_iff hmarked
  relative_ne _ _ hs hfree _ hmark htrim := not_addsNull_of_spells hs hfree hmark htrim

/-- The mark before a class of the current namespace makes the return type that of a class in a
namespace below, so that it does more than to add `null`. -/
theorem not_addsNull_relative :
    ¬ (∀ (s : Scope) (written : String), written ≠ "" → written.toList.head? ≠ some '?' →
        s.AddsNull written) ∧
      ((ofFile "user.php").moveTo "App").Returns "namespace\\User" (.ofName "App\\User") ∧
      ((ofFile "user.php").moveTo "App").Returns "?namespace\\User"
        ((UnionType.ofName "App\\namespace\\User").add "null") := by
  have hplain : ((ofFile "user.php").moveTo "App").Returns "namespace\\User"
      (.ofName "App\\User") :=
    returns_of_typeOfSignature? (by decide +kernel)
  have hmarked : ((ofFile "user.php").moveTo "App").Returns "?namespace\\User"
      ((UnionType.ofName "App\\namespace\\User").add "null") :=
    returns_of_typeOfSignature? (by decide +kernel)
  refine ⟨fun h => ?_, hplain, hmarked⟩
  have hadds := h ((ofFile "user.php").moveTo "App") "namespace\\User" (by decide) (by decide)
  have htypes := (hplain.addsNull_iff hmarked).mp hadds
  exact absurd htypes (by decide +kernel)

end Scope

end PhpIndex
