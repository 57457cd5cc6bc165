import PhpIndex.Proofs.Scope.References
import PhpIndex.Proofs.Text.Names

/-!
Names that are resolved segment by segment.

* `lastAlias?`: the alias that a name of some kind stands for, which is the last one imported;
* `Scope.Spells`: a scope whose namespace and aliases are made up of segments;
* `referredSegments`: the segments of what a name refers to;
* `QualifiedName.Found`: a name that is the answer to another, with the class that it names;
* `Scope.resolve_segments`: **a name is resolved segment by segment**, whatever its form and kind,
  and no separator is lost or doubled where two rows of segments meet.
-/

namespace PhpIndex

open Text

/-! ### Aliases -/

/-- The alias under which a name of some kind is found: of those that answer the last one. -/
def lastAlias? (aliases : List Alias) (kind : ImportKind) (name : String) : Option Alias :=
  (aliases.filter (·.answers kind name)).getLast?

/-- A scope whose namespace is made up of segments, as are the full names in force that its aliases
stand for. -/
structure Scope.Spells (s : Scope) (space : List String) (aliases : List Alias) : Prop where
  space_eq : s.space = spaceText space
  isSegment : ∀ x ∈ space, IsSegment x
  imports_eq : s.imports = Imports.none.insertAll aliases
  target_eq : ∀ kind name a, lastAlias? aliases kind name = some a →
    ∃ target : QualifiedName, dropLeading a.target = target.text

/-! ### The segments of what a name refers to -/

/-- The words that stand for a class where they are used. -/
def selfReferences : List String := ["self", "static", "parent"]

lemma isAmongIgnoringCase_iff {words : List String} (h : words.map asciiLower = words)
    {word : String} : isAmongIgnoringCase words word = true ↔ asciiLower word ∈ words := by
  conv_rhs => rw [← h, List.mem_map]
  simp only [isAmongIgnoringCase, List.any_eq_true, eqIgnoreAsciiCase_iff]

lemma isSelfReference_iff {word : String} :
    isSelfReference word = true ↔ asciiLower word ∈ selfReferences := by
  have hlower : selfReferences.map asciiLower = selfReferences := by decide
  exact isAmongIgnoringCase_iff hlower

section

variable (space : List String) (aliases : List Alias) (form : NameKind) (kind : ImportKind)

/-- The segments of what a name refers to in a namespace with some aliases. Only a single segment is
looked up among the aliases of its own kind; the first of several is an alias of classes. -/
def referredSegments (name : QualifiedName) : List String :=
  match form with
  | .fullyQualified => name.segments
  | .relative => space ++ name.segments
  | .unmarked =>
      if kind = .classLike ∧ name.rest = [] ∧ asciiLower name.first ∈ selfReferences then
        name.segments
      else
        match lastAlias? aliases (if name.rest = [] then kind else .classLike) name.first with
        | some a => segments a.target ++ name.rest
        | none => space ++ name.segments

end

/-- The identity of the class with a full name. -/
def QualifiedName.toClass (name : QualifiedName) : Fqsen where
  path := name.segments.dropLast
  element := .classLike name.last

/-- A name that is what another one refers to in a scope: it has no separator at its ends, and as a
name of classes it names the class of its last segment in the namespace of those before, unless it
stands for the class in which it is used. -/
structure QualifiedName.Found (found : QualifiedName) (s : Scope) (written : String)
    (form : NameKind) (kind : ImportKind) : Prop where
  resolve_eq : s.resolve written form kind = found.text
  head?_ne : found.text.toList.head? ≠ some separator
  getLast?_ne : found.text.toList.getLast? ≠ some separator
  resolveNode?_eq : ∀ node : Node, node.Writes written form →
    s.resolveNode? node kind = some found.text
  resolveClass?_none_iff : kind = .classLike → ∀ node : Node, node.Writes written form →
    (s.resolveClass? node = none ↔ found.rest = [] ∧ asciiLower found.first ∈ selfReferences)
  resolveClass?_some : kind = .classLike → ∀ node : Node, node.Writes written form →
    ∀ k, s.resolveClass? node = some k →
      k = { path := found.segments.dropLast, element := .classLike found.last, alternate := 0 }

section

variable {s : Scope} {space : List String} {aliases : List Alias} {form : NameKind}
variable {kind : ImportKind}

/-! ### The name that is found -/

namespace QualifiedName

variable {name : QualifiedName}

/-- A word that stands for a class where it is used is a single segment. -/
lemma isSelfReference_text :
    isSelfReference name.text = true ↔
      name.rest = [] ∧ asciiLower name.first ∈ selfReferences := by
  by_cases hrest : name.rest = []
  · simp only [name.text_of_rest_eq_nil hrest, isSelfReference_iff, hrest, true_and]
  · simp only [hrest, false_and, iff_false]
    intro hself
    apply separator_notMem_of_isSelfReference hself
    rw [name.text_of_rest_ne_nil hrest, toList_append_separator]
    simp

lemma text_ne_empty : name.text ≠ "" := by
  intro hempty
  have hsegments := name.segments_text
  rw [hempty] at hsegments
  exact name.segments_ne_nil hsegments.symm

/-- The class of a name that a node is resolved to. -/
lemma resolveClass?_eq {node : Node} (h : s.resolveNode? node .classLike = some name.text) :
    s.resolveClass? node =
      if isSelfReference name.text = true then none else some name.toClass := by
  rw [Scope.resolveClass?, h, Option.bind_some,
    Fqsen.ofClassName?_eq name.lastSegment_text_ne_empty, name.segments_text,
    name.lastSegment_text]
  rfl

/-- What a name is resolved to says which class a node refers to that writes it. -/
lemma found_of_resolve_eq {found : QualifiedName}
    (h : s.resolve name.text form kind = found.text) : found.Found s name.text form kind := by
  have hnode : ∀ node : Node, node.Writes name.text form →
      s.resolveNode? node kind = some found.text := by
    intro node hwrites
    rw [hwrites.resolveNode?_eq text_ne_empty, h]
  refine ⟨h, found.head?_text_ne, found.getLast?_text_ne, hnode, ?_, ?_⟩
  · rintro rfl node hwrites
    rw [resolveClass?_eq (hnode node hwrites), ← isSelfReference_text]
    split <;> simp [*]
  · rintro rfl node hwrites k hk
    rw [resolveClass?_eq (hnode node hwrites)] at hk
    split at hk <;> cases hk
    rfl

end QualifiedName

/-! ### Names in a scope -/

namespace Scope.Spells

/-- A name in the namespace of the scope has the segments of the namespace before its own. -/
lemma qualify_text (hs : s.Spells space aliases) (name : QualifiedName) :
    s.qualify name.text = joined (space ++ name.segments) := by
  rw [Scope.qualify, hs.space_eq]
  exact spaceText_append_joined space name.segments_ne_nil

/-- An alias stands for the full name that was imported under it last. -/
lemma get?_eq (hs : s.Spells space aliases) (kind : ImportKind) (name : String) :
    s.imports.get? kind name = (lastAlias? aliases kind name).map (dropLeading ·.target) := by
  rw [hs.imports_eq, Imports.get?_insertAll, Imports.get?_none, Option.or_none]
  rfl

/-- A name without an alias is one in the namespace of the scope. -/
lemma exists_qualified (hs : s.Spells space aliases) (name : QualifiedName) :
    ∃ found : QualifiedName, found.segments = space ++ name.segments ∧
      s.qualify name.text = found.text := by
  have hne : space ++ name.segments ≠ [] :=
    List.append_ne_nil_of_right_ne_nil _ name.segments_ne_nil
  refine ⟨.ofSegments (space ++ name.segments) hne ?_, QualifiedName.segments_ofSegments _ _, ?_⟩
  · exact List.forall_mem_append.mpr ⟨hs.isSegment, name.isSegment⟩
  · rw [QualifiedName.text_ofSegments, hs.qualify_text name]

/-- A name whose first segment is an alias is one below the full name of the alias. -/
lemma exists_below (hs : s.Spells space aliases) {kind : ImportKind} {word : String} {a : Alias}
    (ha : lastAlias? aliases kind word = some a) {rest : List String}
    (hrest : ∀ x ∈ rest, IsSegment x) :
    ∃ found : QualifiedName, found.segments = segments a.target ++ rest ∧
      found.text = if rest = [] then dropLeading a.target
        else dropLeading a.target ++ separator.toString ++ joined rest := by
  obtain ⟨target, htarget⟩ := hs.target_eq kind word a ha
  have hsegments : segments a.target = target.segments := by
    rw [← segments_dropLeading, htarget, target.segments_text]
  have hne : target.segments ++ rest ≠ [] :=
    List.append_ne_nil_of_left_ne_nil target.segments_ne_nil _
  refine ⟨.ofSegments (target.segments ++ rest) hne ?_, ?_, ?_⟩
  · exact List.forall_mem_append.mpr ⟨target.isSegment, hrest⟩
  · rw [QualifiedName.segments_ofSegments, hsegments]
  · rw [QualifiedName.text_ofSegments, htarget]
    split
    · rename_i hnil
      rw [hnil, List.append_nil]
      rfl
    · rename_i hcons
      exact joined_append target.segments_ne_nil hcons

/-- A single segment is looked up among the aliases of its kind, unless it stands for a class where
it is used. -/
lemma resolve_single (hs : s.Spells space aliases) {name : QualifiedName} (hrest : name.rest = [])
    (hself : ¬ (kind = .classLike ∧ isSelfReference name.text = true)) :
    s.resolve name.text .unmarked kind =
      ((lastAlias? aliases kind name.first).map (dropLeading ·.target)).getD
        (s.qualify name.text) := by
  have htext := name.text_of_rest_eq_nil hrest
  have hfirst : separator ∉ name.text.toList := htext ▸ name.isSegment_first.separator_notMem
  rw [Scope.resolve, afterSeparator?_eq_none name.head?_text_ne]
  simp only [if_neg hself, splitFirst_of_notMem hfirst, hs.get?_eq]
  rw [htext]

/-- The first of several segments is looked up among the aliases of classes. -/
lemma resolve_several (hs : s.Spells space aliases) {name : QualifiedName} (hrest : name.rest ≠ []) :
    s.resolve name.text .unmarked kind =
      match lastAlias? aliases .classLike name.first with
      | some a => dropLeading a.target ++ separator.toString ++ joined name.rest
      | none => s.qualify name.text := by
  have hself : ¬ (kind = .classLike ∧ isSelfReference name.text = true) := by
    rw [QualifiedName.isSelfReference_text]
    exact fun h => hrest h.2.1
  rw [Scope.resolve, afterSeparator?_eq_none name.head?_text_ne]
  simp only [if_neg hself, name.splitFirst_text hrest, hs.get?_eq]
  cases lastAlias? aliases .classLike name.first <;> rfl

/-- A name without a mark is the alias of its first segment, or else in the namespace. -/
lemma exists_unmarked (hs : s.Spells space aliases) (name : QualifiedName) :
    ∃ found : QualifiedName,
      found.segments = referredSegments space aliases .unmarked kind name ∧
        s.resolve name.text .unmarked kind = found.text := by
  simp only [referredSegments]
  by_cases hself : kind = .classLike ∧ isSelfReference name.text = true
  · -- the word stands for a class where it is used
    rw [if_pos (by rwa [QualifiedName.isSelfReference_text] at hself)]
    refine ⟨name, rfl, ?_⟩
    rw [Scope.resolve, afterSeparator?_eq_none name.head?_text_ne]
    simp only [if_pos hself]
  · rw [if_neg (by rwa [QualifiedName.isSelfReference_text] at hself)]
    by_cases hrest : name.rest = []
    · rw [if_pos hrest, hs.resolve_single hrest hself]
      cases ha : lastAlias? aliases kind name.first with
      | none => exact hs.exists_qualified name
      | some a =>
          obtain ⟨found, hsegments, htext⟩ := hs.exists_below ha
            (fun x hx => name.isSegment x (List.mem_cons_of_mem _ hx))
          rw [if_pos hrest] at htext
          exact ⟨found, hsegments, htext.symm⟩
    · rw [if_neg hrest, hs.resolve_several hrest]
      cases ha : lastAlias? aliases .classLike name.first with
      | none => exact hs.exists_qualified name
      | some a =>
          obtain ⟨found, hsegments, htext⟩ := hs.exists_below ha
            (fun x hx => name.isSegment x (List.mem_cons_of_mem _ hx))
          rw [if_neg hrest] at htext
          exact ⟨found, hsegments, htext.symm⟩

end Scope.Spells

/-- **A name is resolved segment by segment**: there is always a name that it refers to, it has
the segments that form, kind and scope say, and it is the class of a node that writes the name. -/
theorem Scope.resolve_segments (hs : s.Spells space aliases) (name : QualifiedName)
    (form : NameKind) (kind : ImportKind) :
    ∃ found : QualifiedName, found.segments = referredSegments space aliases form kind name ∧
      found.Found s name.text form kind := by
  have hseparator := afterSeparator?_eq_none name.head?_text_ne
  cases form with
  | fullyQualified =>
      refine ⟨name, rfl, QualifiedName.found_of_resolve_eq ?_⟩
      rw [Scope.resolve, hseparator]
  | relative =>
      obtain ⟨found, hsegments, htext⟩ := hs.exists_qualified name
      refine ⟨found, hsegments, QualifiedName.found_of_resolve_eq ?_⟩
      rw [Scope.resolve, hseparator, ← htext]
  | unmarked =>
      obtain ⟨found, hsegments, htext⟩ := hs.exists_unmarked name
      exact ⟨found, hsegments, QualifiedName.found_of_resolve_eq htext⟩

end

/-- The scope of a namespace into which a class is imported under another name. -/
def importingScope : Scope :=
  ((Scope.ofFile "user.php").enterNamespace "\\App\\Models").withAliases
    [⟨.classLike, "Db", "\\Lib\\Database"⟩]

lemma spells_importingScope :
    importingScope.Spells ["App", "Models"] [⟨.classLike, "Db", "\\Lib\\Database"⟩] := by
  refine ⟨by rfl, by decide, rfl, ?_⟩
  intro kind name a ha
  have hmem := List.mem_of_mem_filter (List.mem_of_getLast? ha)
  rw [List.mem_singleton.mp hmem]
  exact ⟨⟨"Lib", ["Database"], by decide⟩, by rfl⟩

/-- The alias stands for the first segment of a name, whatever the case of its letters. -/
theorem Scope.resolve_segments_importingScope :
    importingScope.Spells ["App", "Models"] [⟨.classLike, "Db", "\\Lib\\Database"⟩] ∧
      ∃ found : QualifiedName, found.segments = ["Lib", "Database", "Query"] ∧
        found.Found importingScope "db\\Query" .unmarked .classLike := by
  obtain ⟨found, hsegments, hfound⟩ :=
    resolve_segments spells_importingScope ⟨"db", ["Query"], by decide⟩ .unmarked .classLike
  have htext : QualifiedName.text ⟨"db", ["Query"], by decide⟩ = "db\\Query" := by rfl
  exact ⟨spells_importingScope, found, hsegments.trans (by decide +kernel), htext ▸ hfound⟩

end PhpIndex
