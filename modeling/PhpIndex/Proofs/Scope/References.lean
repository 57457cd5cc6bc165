import PhpIndex.Proofs.Scope.Aliases
import PhpIndex.Proofs.Text.Names
import PhpIndex.Scope.Naming

/-!
The class that a name refers to.

* `Names`: a text that names a class in a namespace, which is kept where separators are added or
  cut off; `Names.imported`: so is what an import makes of it;
* `Scope.resolveClass?_of_names`: such a text refers to the first declaration of the class;
* `Node.Writes`: a name node with a text and a form; `Node.ImportsAs`: an import of a full name;
* `ReferredTo`: a class to which each way of writing its name refers: by its own name in its
  namespace, by its full name anywhere, and by an alias wherever this was imported last;
* `Scope.referredTo_newIdentity`: **a declaration and all references to it meet** in one identity.
-/

namespace PhpIndex

open Text

/-! ### Texts that name a class -/

/-- A text that names a class in a namespace: its segments are those of the namespace and then the
name, which no separator follows. -/
structure Names (space name text : String) : Prop where
  segments_eq : segments text = segments space ++ [name]
  lastSegment_eq : lastSegment text = name

/-- The full name of a class: the namespace without the separators around it, a separator and the
name, which in the global namespace stands alone. -/
def fullName (space name : String) : String :=
  if dropOuter space = "" then name else dropOuter space ++ separator.toString ++ name

/-- The scope of a namespace begins names with it. -/
lemma namespaceForm_append (space name : String) :
    Scope.namespaceForm space ++ name = fullName space name := by
  simp only [Scope.namespaceForm, fullName]
  split
  · exact String.empty_append
  · rfl

section

variable {space name : String}

/-- A full name names its class. -/
lemma names_fullName (hne : name ≠ "") (hsep : separator ∉ name.toList) :
    Names space name (fullName space name) := by
  have hname := segments_of_notMem hsep hne
  have hlast := lastSegment_of_notMem hsep
  rw [fullName]
  by_cases hbare : dropOuter space = ""
  · have hnone : segments space = [] := by
      rw [← segments_dropOuter, hbare]
      rfl
    rw [if_pos hbare]
    exact ⟨by rw [hnone, hname, List.nil_append], hlast⟩
  · rw [if_neg hbare]
    exact ⟨by rw [segments_append, segments_dropOuter, hname], by rw [lastSegment_append, hlast]⟩

lemma fullName_ne_empty (hne : name ≠ "") (hsep : separator ∉ name.toList) :
    fullName space name ≠ "" := by
  intro hempty
  have hlast : lastSegment (fullName space name) = name := (names_fullName hne hsep).lastSegment_eq
  rw [hempty] at hlast
  exact hne hlast.symm

/-- So does the name in a scope of the namespace. -/
lemma names_qualify (hne : name ≠ "") (hsep : separator ∉ name.toList) {s : Scope}
    (hs : s.space = Scope.namespaceForm space) : Names space name (s.qualify name) := by
  rw [Scope.qualify, hs, namespaceForm_append]
  exact names_fullName hne hsep

namespace Names

variable {text : String}

lemma dropLeading (h : Names space name text) : Names space name (dropLeading text) :=
  ⟨by rw [segments_dropLeading, h.segments_eq], by rw [lastSegment_dropLeading, h.lastSegment_eq]⟩

/-- The separator at the start of a text may be left out. -/
lemma afterSeparator (h : Names space name text) {full : String}
    (hfull : afterSeparator? text = some full) : Names space name full := by
  have htext : text = "" ++ separator.toString ++ full := by
    rw [String.empty_append, afterSeparator?_eq_some_iff.mp hfull]
  obtain ⟨hsegments, hlast⟩ := h
  rw [htext, segments_append] at hsegments
  rw [htext, lastSegment_append] at hlast
  exact ⟨hsegments, hlast⟩

/-- What is imported names the class that it names as it is written, whole or cut in two at some
separator. -/
lemma imported {common : Option String} {target : String}
    (h : match common with
      | none => Names space name target
      | some first => Names space name (first ++ separator.toString ++ target)) :
    Names space name (importedName common target) := by
  cases common with
  | none => exact h.dropLeading
  | some first =>
      obtain ⟨hsegments, hlast⟩ := h
      rw [segments_append] at hsegments
      rw [lastSegment_append] at hlast
      refine ⟨?_, ?_⟩
      · rw [importedName, segments_append, segments_dropOuter, segments_dropLeading, hsegments]
      · rw [importedName, lastSegment_append, lastSegment_dropLeading, hlast]

end Names

/-! ### Names that stand for themselves -/

lemma separator_mem_asciiLower {text : String} (h : separator ∈ text.toList) :
    separator ∈ (asciiLower text).toList := by
  rw [asciiLower, String.toList_ofList]
  exact List.mem_map.mpr ⟨separator, h, by decide⟩

/-- If none of some words has a separator, no text has one that is among them. -/
lemma separator_notMem_of_isAmong {words : List String} {text : String}
    (hwords : ∀ word ∈ words, separator ∉ (asciiLower word).toList)
    (h : isAmongIgnoringCase words text = true) : separator ∉ text.toList := by
  intro hmem
  obtain ⟨word, hword, heq⟩ := List.any_eq_true.mp h
  have hlower := separator_mem_asciiLower hmem
  rw [← eqIgnoreAsciiCase_iff.mp heq] at hlower
  exact hwords word hword hlower

/-- The names that stand for a class where they are used have no separators. -/
lemma separator_notMem_of_isSelfReference {text : String} (h : isSelfReference text = true) :
    separator ∉ text.toList :=
  separator_notMem_of_isAmong (by decide) h

/-- So no text is among them that names another class. -/
lemma Names.isSelfReference_eq_false {text : String} (h : Names space name text)
    (hself : isSelfReference name = false) : isSelfReference text = false := by
  by_contra htext
  rw [Bool.not_eq_false] at htext
  have hlast := lastSegment_of_notMem (separator_notMem_of_isSelfReference htext)
  rw [h.lastSegment_eq] at hlast
  rw [hlast, htext] at hself
  cases hself

end

/-! ### What a node refers to -/

/-- A name node with a text in some form. -/
structure Node.Writes (node : Node) (written : String) (form : NameKind) : Prop where
  kind_eq : node.kind = .name
  text_eq : node.childText? 0 = some written
  form_eq : NameKind.ofWord node.flags = form

section

variable {space name : String} {s : Scope} {node : Node} {written : String} {form : NameKind}

/-- What a node writes is resolved. -/
lemma Node.Writes.resolveNode?_eq (h : node.Writes written form) (hwritten : written ≠ "")
    (s : Scope) (kind : ImportKind) :
    s.resolveNode? node kind = some (s.resolve written form kind) := by
  have hname : node.childName? 0 = some written := by
    rw [Node.childName?, h.text_eq]
    simp [Option.filter, hwritten]
  rw [Scope.resolveNode?, if_pos h.kind_eq, hname, h.form_eq, Option.map_some]

/-- A node that writes what is resolved to a name of a class refers to its first declaration. -/
lemma Scope.resolveClass?_of_names (hne : name ≠ "") (hself : isSelfReference name = false)
    (hnode : node.Writes written form) (hwritten : written ≠ "")
    (h : Names space name (s.resolve written form .classLike)) :
    s.resolveClass? node = some (.ofClass space name) := by
  have hlast : lastSegment (s.resolve written form .classLike) ≠ "" := by
    rwa [h.lastSegment_eq]
  rw [resolveClass?, hnode.resolveNode?_eq hwritten, Option.bind_some, h.isSelfReference_eq_false hself,
    if_neg Bool.false_ne_true, Fqsen.ofClassName?_eq hlast, h.segments_eq, h.lastSegment_eq,
    List.dropLast_concat]
  rfl

variable (hsep : separator ∉ written.toList)

include hsep

lemma afterSeparator?_of_notMem : afterSeparator? written = none :=
  afterSeparator?_eq_none fun hhead => hsep (List.mem_of_mem_head? hhead)

lemma splitFirst_of_notMem : splitFirst written = none := by
  rw [splitFirst, List.dropWhile_eq_nil_iff.mpr (not_isSeparator_of_notMem hsep)]

/-- A name of one segment is looked up among the aliases of classes, unless it stands for a class
where it is used. -/
lemma Scope.resolve_unmarked (hself : isSelfReference written = false) :
    s.resolve written .unmarked .classLike =
      (s.imports.get? .classLike written).getD (s.qualify written) := by
  rw [resolve, afterSeparator?_of_notMem hsep]
  simp only [hself, splitFirst_of_notMem hsep, Bool.false_eq_true, and_false, if_false]

end

/-! ### Declarations and references -/

/-- A declaration that imports a full name under an alias: as a whole, or cut in two at some
separator, of which the first part stands before a group. -/
inductive Node.ImportsAs (full : String) (a : Alias) : Node → Prop where
  | whole {decl element : Node} (hkind : decl.kind = .useDecl) (hmem : element ∈ decl.childNodes)
      (ha : element.alias? (ImportKind.ofWord? decl.flags) none = some a)
      (hfull : element.childName? 0 = some full) : ImportsAs full a decl
  | split {decl list element : Node} {first rest : String} (hkind : decl.kind = .groupUse)
      (hfirst : decl.childText? 0 = some first) (hlist : decl.childNode? 1 = some list)
      (hmem : element ∈ list.childNodes)
      (ha : element.alias? (ImportKind.ofWord? decl.flags) (some first) = some a)
      (hrest : element.childName? 0 = some rest)
      (hfull : first ++ separator.toString ++ rest = full) : ImportsAs full a decl

/-- The alias of an element stands for what the element imports. -/
lemma Node.target_alias? {kind : Option ImportKind} {common : Option String} {element : Node}
    {a : Alias} (ha : element.alias? kind common = some a) {target : String}
    (htarget : element.childName? 0 = some target) : a.target = importedName common target := by
  rw [alias?, htarget] at ha
  split at ha
  · split at ha
    · rename_i target' kind' htarget' hkind'
      cases htarget'
      cases ha
      rfl
    · cases ha
  · cases ha

/-- Under the alias of a full name stands a name of the class. -/
lemma Node.ImportsAs.names {space name full : String} {a : Alias} {decl : Node}
    (h : decl.ImportsAs full a) (hfull : Names space name full) : Names space name a.target := by
  cases h with
  | whole hkind hmem ha htarget =>
      rw [target_alias? ha htarget]
      exact Names.imported hfull
  | split hkind hfirst hlist hmem ha hrest heq =>
      rw [target_alias? ha hrest]
      rw [← heq] at hfull
      exact Names.imported hfull

/-- A class to which each way of writing its name refers. -/
structure ReferredTo (space name : String) (k : Fqsen) : Prop where
  /-- Its own name, in its namespace, unless there is an alias of this name. -/
  by_name : ∀ (s : Scope) (node : Node), s.space = Scope.namespaceForm space →
    s.imports.get? .classLike name = none → node.Writes name .unmarked →
      s.resolveClass? node = some k
  /-- The name from its namespace, where an alias does not matter. -/
  by_relative : ∀ (s : Scope) (node : Node), s.space = Scope.namespaceForm space →
    node.Writes name .relative → s.resolveClass? node = some k
  /-- The full name, anywhere. -/
  by_fullName : ∀ (s : Scope) (node : Node),
    node.Writes (fullName space name) .fullyQualified → s.resolveClass? node = some k
  /-- An alias, wherever it was the full name that was last imported under it. -/
  by_alias : ∀ (s : Scope) (node : Node) (t : Imports) (aliases : List Alias) (a : Alias)
    (decl : Node) (written : String), s.imports = t.insertAll aliases →
      (aliases.filter (·.answers .classLike written)).getLast? = some a →
      decl.ImportsAs (fullName space name) a → written ≠ "" → separator ∉ written.toList →
      isSelfReference written = false → node.Writes written .unmarked →
        s.resolveClass? node = some k

/-- The identity for a new declaration is the first one of the name, but for its alternate id. -/
lemma primary_freeClass (r : Registry) (space name : String) :
    (r.freeClass (.ofClass space name)).primary = .ofClass space name := rfl

/-- The form in which a namespace is kept has its segments. -/
lemma segments_namespaceForm (space : String) :
    segments (Scope.namespaceForm space) = segments space := by
  simp only [Scope.namespaceForm]
  split
  · rename_i hbare
    rw [← segments_dropOuter space, hbare]
  · have happend := segments_append (dropOuter space) ""
    rw [String.append_empty] at happend
    rw [happend, segments_dropOuter]
    exact List.append_nil _

/-- **A declaration and every way to refer to it meet**: the identity of a class that is declared in
a namespace, whatever is registered, is up to its alternate id the one to which its name refers. -/
theorem Scope.referredTo_newIdentity {space name : String} (hne : name ≠ "")
    (hsep : separator ∉ name.toList) (hself : isSelfReference name = false) {d : Scope}
    (hd : d.space = namespaceForm space) (r : Registry) :
    ∃ k, d.newIdentity r name .classLike = .ok k ∧ ReferredTo space name k.primary := by
  have hfull : Names space name (fullName space name) := names_fullName hne hsep
  refine ⟨_, rfl, ?_⟩
  have hprimary : (r.freeClass (.ofClass d.space name)).primary = .ofClass space name := by
    rw [primary_freeClass, hd, Fqsen.ofClass, Fqsen.ofNamespace, segments_namespaceForm]
    rfl
  rw [hprimary]
  refine ⟨?_, ?_, ?_, ?_⟩
  · intro s node hs halias hnode
    refine resolveClass?_of_names hne hself hnode hne ?_
    rw [resolve_unmarked hsep hself, halias]
    exact names_qualify hne hsep hs
  · intro s node hs hnode
    refine resolveClass?_of_names hne hself hnode hne ?_
    rw [resolve, afterSeparator?_of_notMem hsep]
    exact names_qualify hne hsep hs
  · intro s node hnode
    refine resolveClass?_of_names hne hself hnode (fullName_ne_empty hne hsep) ?_
    rw [resolve]
    split
    · exact hfull.afterSeparator ‹_›
    · exact hfull
  · intro s node t aliases a decl written himports hlast hdecl hwritten hsep' hself' hnode
    refine resolveClass?_of_names hne hself hnode hwritten ?_
    rw [resolve_unmarked hsep' hself', himports, Imports.get?_insertAll, hlast]
    exact (hdecl.names hfull).dropLeading

/-- A class in a namespace that is written with separators around it and side by side. -/
theorem Scope.referredTo_newIdentity_user :
    ("User" ≠ "" ∧ separator ∉ "User".toList ∧ isSelfReference "User" = false) ∧
      ∃ k, ((ofFile "user.php").moveTo "\\App\\\\Models\\").newIdentity .empty "User" .classLike =
        .ok k ∧ ReferredTo "\\App\\\\Models\\" "User" k.primary :=
  ⟨⟨by decide, by decide, by decide⟩,
    referredTo_newIdentity (by decide) (by decide) (by decide) (by rfl) .empty⟩

end PhpIndex
