import PhpIndex.Proofs.Scope.Aliases
import PhpIndex.Proofs.Text.Segments
import PhpIndex.Proofs.Walk.Response
import PhpIndex.Proofs.Walk.Sites
import PhpIndex.Tree.Build

/-!
Imports below a common name, and the same names imported in full.

* `Node.IsElement`: an element of an import; `Node.fullTarget`, `Node.spelledOut`: its full name
  below a common one, and the element with this name as its target;
* `Node.ImportsBelow`, `Node.ImportsInFull`: the two declarations of some elements;
* `Node.importedAs`: the alias that an element makes of a full name;
* `Scope.withElement_plain`, `Scope.withElement_below`: an element adds this alias, or fails for
  want of a kind; `Scope.withElements_eq_mapM`: elements do so together;
* `Scope.afterImport`, `walkAll_useDecl`, `walkAll_groupUse`: what follows a declaration;
* `groupUse_eq_expansion`: **a group import is what it is written out to be**, with the same aliases
  for what follows or with the same issue.
-/

namespace PhpIndex

open Text

/-! ### Elements and declarations -/

namespace Node

/-- An element of an import, with the name of its target and nothing below it. -/
structure IsElement (e : Node) : Prop where
  kind_eq : e.kind = .useElem
  named : ∃ target, e.childName? 0 = some target
  childNodes_eq : e.childNodes = []

/-- The full name of an element below a common name: separators around the common name and those
at the start of its own do not count. -/
def fullTarget (common : String) (e : Node) : String :=
  dropOuter common ++ separator.toString ++ dropLeading ((e.childName? 0).getD "")

/-- The element with its full name as its target. -/
def spelledOut (common : String) (e : Node) : Node :=
  { e with children := .str (e.fullTarget common) :: e.children.tail }

/-- A declaration that imports some elements below a common name. -/
structure ImportsBelow (group : Node) (common : String) (elements : List Node) : Prop where
  kind_eq : group.kind = .groupUse
  common_eq : group.childText? 0 = some common
  elements_eq : ∃ list, group.childNode? 1 = some list ∧ list.childNodes = elements

/-- A declaration that imports some elements by their full names. -/
structure ImportsInFull (plain : Node) (elements : List Node) : Prop where
  kind_eq : plain.kind = .useDecl
  elements_eq : plain.childNodes = elements

/-- The alias that an element makes of a full name in a declaration with some flags. The kind of the
element goes before that of the declaration, and its own alias before the last segment. -/
def importedAs (flags : Nat) (full : String) (e : Node) : Except Issue Alias :=
  match (ImportKind.ofWord? e.flags).or (ImportKind.ofWord? flags) with
  | none => .error (Kind.useElem.malformed "missing import kind")
  | some kind =>
      .ok { kind, name := (e.childText? 1).getD (lastSegment full), target := full }

variable {e : Node} (common : String)

/-- A target is in the first slot. -/
lemma children_of_childName? {target : String} (h : e.childName? 0 = some target) :
    ∃ rest, e.children = .str target :: rest := by
  obtain ⟨c, hc, htext⟩ := Option.bind_eq_some_iff.mp (Option.filter_eq_some_iff.mp h).1
  rw [child?] at hc
  cases hchildren : e.children with
  | nil => simp [hchildren] at hc
  | cons first rest =>
      obtain rfl : first = c := by simpa [hchildren] using hc
      cases first with
      | str t =>
          obtain rfl : t = target := by simpa [Child.text?] using htext
          exact ⟨rest, rfl⟩
      | _ => cases htext

lemma childName?_spelledOut : (e.spelledOut common).childName? 0 = some (e.fullTarget common) := by
  have hne : e.fullTarget common ≠ "" := by
    rw [fullTarget, ne_eq, ← String.toList_inj, toList_append_separator]
    simp
  simp [childName?, childText?, child?, spelledOut, Child.text?, Option.filter, hne]

/-- The alias is left as it is. -/
lemma childText?_spelledOut : (e.spelledOut common).childText? 1 = e.childText? 1 := by
  simp [childText?, child?, spelledOut]

lemma IsElement.spelledOut (h : e.IsElement) : (e.spelledOut common).IsElement := by
  obtain ⟨target, hname⟩ := h.named
  obtain ⟨rest, hchildren⟩ := children_of_childName? hname
  refine ⟨h.kind_eq, ⟨_, childName?_spelledOut common⟩, ?_⟩
  have hbelow : (e.spelledOut common).childNodes = e.childNodes := by
    simp only [childNodes, Node.spelledOut, hchildren, List.tail_cons]
    rw [List.filterMap_cons_none (by rfl), List.filterMap_cons_none (by rfl)]
  rw [hbelow, h.childNodes_eq]

/-- So the element makes the same alias of a name. -/
lemma importedAs_spelledOut (flags : Nat) (full : String) :
    (e.spelledOut common).importedAs flags full = e.importedAs flags full := by
  rw [importedAs, importedAs, childText?_spelledOut]
  rfl

end Node

/-! ### Elements in a scope -/

namespace Scope

variable (s : Scope) (flags : Nat) {e : Node}

/-- Separators at the start of a full name do not matter to its alias. -/
lemma withImport_dropLeading (kind : ImportKind) (name target : String) :
    s.withImport kind name (dropLeading target) = s.withImport kind name target := by
  have htarget : dropLeading (dropLeading target) = dropLeading target := by
    simp only [dropLeading, trimStart, String.toList_ofList, List.dropWhile_idempotent]
  simp only [withImport, Imports.insert, htarget]

/-- An element of a plain declaration adds its alias. -/
lemma withElement_plain (list : Kind) (h : e.IsElement) {target : String}
    (htarget : e.childName? 0 = some target) :
    s.withElement (ImportKind.ofWord? flags) none list e =
      (e.importedAs flags target).map fun a => s.withAliases [a] := by
  rw [withElement, if_pos h.kind_eq, htarget, Node.importedAs]
  cases (ImportKind.ofWord? e.flags).or (ImportKind.ofWord? flags) with
  | none => rfl
  | some kind =>
      simp only [importedName, lastSegment_dropLeading, withImport_dropLeading]
      rfl

/-- An element of a group does so with its full name. -/
lemma withElement_below (list : Kind) (common : String) (h : e.IsElement) :
    s.withElement (ImportKind.ofWord? flags) (some common) list e =
      (e.importedAs flags (e.fullTarget common)).map fun a => s.withAliases [a] := by
  obtain ⟨target, htarget⟩ := h.named
  have hfull : importedName (some common) target = e.fullTarget common := by
    rw [Node.fullTarget, htarget]
    rfl
  rw [withElement, if_pos h.kind_eq, htarget, Node.importedAs]
  cases (ImportKind.ofWord? e.flags).or (ImportKind.ofWord? flags) with
  | none => rfl
  | some kind =>
      simp only [hfull]
      rfl

/-- Elements add their aliases together, up to the first one that fails. -/
lemma withElements_eq_mapM {kind : Option ImportKind} {common : Option String} {list : Kind}
    {alias? : Node → Except Issue Alias} {elements : List Node}
    (h : ∀ e ∈ elements, ∀ s : Scope,
      s.withElement kind common list e = (alias? e).map fun a => s.withAliases [a]) :
    s.withElements kind common list elements = (elements.mapM alias?).map s.withAliases := by
  induction elements generalizing s with
  | nil => rfl
  | cons e rest ih =>
      obtain ⟨he, hrest⟩ := List.forall_mem_cons.mp h
      rw [withElements, List.foldlM_cons, he, List.mapM_cons]
      cases alias? e with
      | error issue => rfl
      | ok a =>
          refine (ih (s.withAliases [a]) hrest).trans ?_
          cases rest.mapM alias? <;> rfl

/-- What follows an import: the scope with its aliases, or the scope as it was with the issue that
made the import fail. -/
def afterImport (s : Scope) (node : Node) (f : Findings) :
    Except Issue (List Alias) → Scope × Findings
  | .ok aliases => (s.withAliases aliases, f)
  | .error issue => (s, f.note s node.line issue)

end Scope

/-! ### What follows an import -/

section

variable (options : Options) (files : SourceFiles) {s : Scope} (f : Findings)

/-- Slots without subtrees leave the scope as it is. -/
lemma walkAll_leaves {cs : List Child} (h : cs.filterMap Child.node? = []) :
    walkAll (visit options files) cs s f = (s, f) := by
  induction cs with
  | nil => rfl
  | cons c rest ih =>
      have hc : c.node? = none := List.filterMap_eq_nil_iff.mp h c List.mem_cons_self
      rw [walkAll_leaf _ hc]
      rw [List.filterMap_cons_none hc] at h
      exact ih h

/-- So do the elements of a declaration. -/
lemma walkAll_elements (hs : Scope.namespaceForm s.space = s.space) {cs : List Child}
    (h : ∀ e ∈ cs.filterMap Child.node?, e.IsElement) :
    walkAll (visit options files) cs s f = (s, f) := by
  induction cs with
  | nil => rfl
  | cons c rest ih =>
      cases hc : c.node? with
      | none =>
          rw [List.filterMap_cons_none hc] at h
          rw [walkAll_leaf _ hc, ih h]
      | some e =>
          obtain rfl := Child.eq_node_of_node? hc
          rw [List.filterMap_cons_some hc] at h
          obtain ⟨he, hrest⟩ := List.forall_mem_cons.mp h
          have hvisit : visit options files e s f = (.descend s, f) := by rw [visit, he.kind_eq]
          have hwalk : walk (visit options files) e s f = (s, f) := by
            rw [walk_eq, hvisit]
            exact walkAll_leaves options files f he.childNodes_eq
          -- the namespace is the same behind the element, so that no alias is dropped
          have hafter : s.after e.kind s = s := by
            rw [he.kind_eq]
            exact Scope.moveTo_of_eq hs
          rw [walkAll_node, hwalk, hafter]
          exact ih hrest

variable {common : String} {elements : List Node} {node : Node}

/-- What follows a declaration of full names. -/
lemma walkAll_useDecl (hs : Scope.namespaceForm s.space = s.space)
    (h : node.ImportsInFull elements) (he : ∀ e ∈ elements, e.IsElement) :
    walkAll (visit options files) [.node node] s f =
      s.afterImport node f
        (elements.mapM fun e => e.importedAs node.flags ((e.childName? 0).getD "")) := by
  have hafter : s.afterUse node =
      (elements.mapM fun e : Node => e.importedAs node.flags ((e.childName? 0).getD "")).map
        s.withAliases := by
    rw [Scope.afterUse, h.elements_eq]
    refine s.withElements_eq_mapM fun e hmem t => ?_
    obtain ⟨target, htarget⟩ := (he e hmem).named
    rw [t.withElement_plain _ _ (he e hmem) htarget, htarget, Option.getD_some]
  rw [walkAll_node, walkAll_nil, walk_eq, visit, h.kind_eq]
  simp only [enterOrSkip_map, hafter]
  cases elements.mapM fun (e : Node) => e.importedAs node.flags ((e.childName? 0).getD "") with
  | error issue => rfl
  | ok aliases =>
      have hbelow := walkAll_elements options files f (s := s.withAliases aliases) hs
        (h.elements_eq.symm ▸ he : ∀ e ∈ node.childNodes, e.IsElement)
      simp only [Except.map, hbelow]
      rfl

/-- What follows a group of names below a common one. -/
lemma walkAll_groupUse (h : node.ImportsBelow common elements)
    (he : ∀ e ∈ elements, e.IsElement) :
    walkAll (visit options files) [.node node] s f =
      s.afterImport node f
        (elements.mapM fun e => e.importedAs node.flags (e.fullTarget common)) := by
  obtain ⟨list, hlist, rfl⟩ := h.elements_eq
  have hafter : s.afterGroupUse node =
      (list.childNodes.mapM fun e : Node => e.importedAs node.flags (e.fullTarget common)).map
        s.withAliases := by
    rw [Scope.afterGroupUse, h.common_eq, hlist]
    exact s.withElements_eq_mapM fun e hmem t => t.withElement_below _ _ _ (he e hmem)
  rw [walkAll_node, walkAll_nil, walk_eq, visit, h.kind_eq]
  simp only [hafter]
  cases list.childNodes.mapM fun (e : Node) => e.importedAs node.flags (e.fullTarget common) <;> rfl

/-- **A group import is what it is written out to be**: the group and the declaration of the full
names leave the same aliases for what follows, or fail with the same issue and leave the scope as it
was. -/
theorem groupUse_eq_expansion (hs : Scope.namespaceForm s.space = s.space) {group plain : Node}
    (hgroup : group.ImportsBelow common elements)
    (hplain : plain.ImportsInFull (elements.map (Node.spelledOut common)))
    (hflags : plain.flags = group.flags) (he : ∀ e ∈ elements, e.IsElement) :
    ∃ imported : Except Issue (List Alias),
      imported =
          elements.mapM (fun e => e.importedAs group.flags (e.fullTarget common)) ∧
        walkAll (visit options files) [.node group] s f = s.afterImport group f imported ∧
        walkAll (visit options files) [.node plain] s f = s.afterImport plain f imported := by
  refine ⟨_, rfl, walkAll_groupUse options files f hgroup he, ?_⟩
  have hfull : ∀ e ∈ elements.map (Node.spelledOut common), e.IsElement := by
    intro e hmem
    obtain ⟨d, hd, rfl⟩ := List.mem_map.mp hmem
    exact (he d hd).spelledOut common
  rw [walkAll_useDecl options files f hs hplain hfull, List.mapM_map, hflags]
  simp only [Function.comp_def, Node.childName?_spelledOut, Option.getD_some,
    Node.importedAs_spelledOut]

end

/-- Two names, the first of which is that of a function. -/
def loggingNames : List Node.ImportElem :=
  [{ target := "\\log", kind? := some .function }, { target := "Db\\Conn", alias? := some "Db" }]

def loggingElements : List Node := loggingNames.map Node.ImportElem.toNode

/-- The names below a common one. -/
def loggingGroup : Node := .groupUseOf .classLike "\\Lib\\" loggingNames

/-- The same names in full. -/
def loggingInFull : Node :=
  .useOf .classLike
    [{ target := "Lib\\log", kind? := some .function },
      { target := "Lib\\Db\\Conn", alias? := some "Db" }]

/-- The kind of an element goes before that of the group, and its own alias before the last
segment. -/
theorem groupUse_eq_expansion_logging :
    (Scope.namespaceForm (Scope.ofFile "a.php").space = (Scope.ofFile "a.php").space ∧
      loggingGroup.ImportsBelow "\\Lib\\" loggingElements ∧
      loggingInFull.ImportsInFull (loggingElements.map (Node.spelledOut "\\Lib\\")) ∧
      loggingInFull.flags = loggingGroup.flags ∧ ∀ e ∈ loggingElements, e.IsElement) ∧
    ∃ imported : Except Issue (List Alias),
      imported = .ok [⟨.function, "log", "Lib\\log"⟩, ⟨.classLike, "Db", "Lib\\Db\\Conn"⟩] ∧
        walkAll (visit {} {}) [.node loggingGroup] (.ofFile "a.php") {} =
          (Scope.ofFile "a.php").afterImport loggingGroup {} imported ∧
        walkAll (visit {} {}) [.node loggingInFull] (.ofFile "a.php") {} =
          (Scope.ofFile "a.php").afterImport loggingInFull {} imported := by
  have hs : Scope.namespaceForm (Scope.ofFile "a.php").space = (Scope.ofFile "a.php").space := by
    rfl
  have hgroup : loggingGroup.ImportsBelow "\\Lib\\" loggingElements :=
    ⟨rfl, rfl, _, rfl, rfl⟩
  have hplain : loggingInFull.ImportsInFull (loggingElements.map (Node.spelledOut "\\Lib\\")) :=
    ⟨rfl, by rfl⟩
  have he : ∀ e ∈ loggingElements, e.IsElement := by
    intro e hmem
    obtain ⟨d, hd, rfl⟩ := List.mem_map.mp hmem
    obtain rfl | rfl : d = { target := "\\log", kind? := some .function } ∨
        d = { target := "Db\\Conn", alias? := some "Db" } := by simpa [loggingNames] using hd
    all_goals exact ⟨rfl, ⟨_, rfl⟩, rfl⟩
  obtain ⟨imported, himported, hboth⟩ :=
    groupUse_eq_expansion {} {} {} hs hgroup hplain rfl he
  exact ⟨⟨hs, hgroup, hplain, rfl, he⟩, imported, himported.trans (by rfl), hboth⟩

end PhpIndex
