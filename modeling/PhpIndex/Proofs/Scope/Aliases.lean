import Mathlib.Data.List.DropRight
import PhpIndex.Walk.Importing

/-!
The aliases that a declaration introduces.

* `Alias`: an alias of some kind, with the full name that it stands for; `Alias.answers`: whether a
  name is looked up under it;
* `Imports.insertAll`: imports with some more aliases, one after the other;
  `Imports.get?_insertAll`: the last of them that answers is the one that is found;
* `Node.alias?`: the alias of an element of a declaration;
* `Node.aliases?`: the aliases of a `use` declaration, and none unless all of its elements are well
  formed; `Node.introduced`: the same with nothing for a declaration that fails;
* `Scope.afterUse_toOption`, `Scope.afterGroupUse_toOption`: **a declaration adds its aliases or
  fails as a whole**, whatever the scope.
-/

namespace PhpIndex

open Text

/-! ### Aliases -/

/-- An alias that a declaration introduces. -/
structure Alias where
  kind : ImportKind
  name : String
  /-- The full name that it stands for. -/
  target : String
deriving DecidableEq

namespace Alias

/-- Whether a name of some kind is looked up under the alias: only in the names of constants the
case of letters matters. -/
def answers (a : Alias) (kind : ImportKind) (name : String) : Bool :=
  decide (a.kind = kind ∧ Imports.aliasKey kind a.name = Imports.aliasKey kind name)

end Alias

namespace Imports

/-- The imports with some more aliases, one after the other. -/
def insertAll (t : Imports) (aliases : List Alias) : Imports :=
  aliases.foldl (fun t a => t.insert a.kind a.name a.target) t

@[simp] lemma insertAll_nil (t : Imports) : t.insertAll [] = t := rfl

@[simp] lemma insertAll_cons (t : Imports) (a : Alias) (aliases : List Alias) :
    t.insertAll (a :: aliases) = (t.insert a.kind a.name a.target).insertAll aliases := rfl

lemma insertAll_append (t : Imports) (xs ys : List Alias) :
    t.insertAll (xs ++ ys) = (t.insertAll xs).insertAll ys :=
  List.foldl_append

variable (t : Imports) (kind : ImportKind) (name : String)

lemma get?_insert_alias (a : Alias) :
    (t.insert a.kind a.name a.target).get? kind name =
      if a.answers kind name then some (dropLeading a.target) else t.get? kind name := by
  rw [get?_insert, Alias.answers]
  by_cases hkind : a.kind = kind
  · simp [hkind]
  · simp [hkind]

/-- A later alias replaces an earlier one under which the same names are looked up. -/
theorem get?_insertAll (aliases : List Alias) :
    (t.insertAll aliases).get? kind name =
      ((aliases.filter (·.answers kind name)).getLast?.map (dropLeading ·.target)).or
        (t.get? kind name) := by
  induction aliases using List.reverseRecOn with
  | nil => rfl
  | append_singleton aliases a ih =>
      rw [insertAll_append, insertAll_cons, insertAll_nil, get?_insert_alias, List.filter_append,
        List.filter_singleton]
      cases a.answers kind name with
      | true => simp
      | false => simpa using ih

end Imports

/-! ### Elements and declarations -/

namespace Node

/-- The alias of an element of a declaration: its own kind goes before that of the declaration, and
without a name for the alias it is the last segment of the full name. An element without a target
or a kind is malformed, and so is any node that is no element. -/
def alias? (kind : Option ImportKind) (common : Option String) (element : Node) : Option Alias :=
  if element.kind = .useElem then
    match element.childName? 0, (ImportKind.ofWord? element.flags).or kind with
    | some target, some kind =>
        let full := importedName common target
        some { kind, name := (element.childText? 1).getD (lastSegment full), target := full }
    | _, _ => none
  else none

/-- The aliases of a declaration, all of whose elements must be well formed. Other nodes have
none. -/
def aliases? (node : Node) : Option (List Alias) :=
  match node.kind with
  | .useDecl => node.childNodes.mapM (alias? (ImportKind.ofWord? node.flags) none)
  | .groupUse =>
      match node.childText? 0, node.childNode? 1 with
      | some common, some list =>
          list.childNodes.mapM (alias? (ImportKind.ofWord? node.flags) (some common))
      | _, _ => none
  | _ => none

/-- The aliases that a node introduces; a declaration that is malformed introduces none. -/
def introduced (node : Node) : List Alias := node.aliases?.getD []

/-- Only declarations introduce aliases. -/
lemma introduced_eq_nil {node : Node} (huse : node.kind ≠ .useDecl)
    (hgroup : node.kind ≠ .groupUse) : node.introduced = [] := by
  rw [introduced, aliases?]
  split
  · contradiction
  · contradiction
  · rfl

/-- A `use` declaration that is well formed has no other nodes than elements. -/
lemma kind_of_mem_useDecl {node : Node} (hkind : node.kind = .useDecl)
    (h : node.aliases?.isSome = true) : ∀ m ∈ node.childNodes, m.kind = .useElem := by
  rw [aliases?, hkind] at h
  generalize node.childNodes = elements at h
  induction elements with
  | nil => simp
  | cons element rest ih =>
      dsimp only at h ih
      rw [List.mapM_cons] at h
      obtain ⟨aliases, h⟩ := Option.isSome_iff_exists.mp h
      obtain ⟨a, ha, h⟩ := Option.bind_eq_some_iff.mp h
      obtain ⟨more, hmore, -⟩ := Option.bind_eq_some_iff.mp h
      refine List.forall_mem_cons.mpr ⟨?_, ih (Option.isSome_iff_exists.mpr ⟨more, hmore⟩)⟩
      rw [alias?] at ha
      split at ha
      · assumption
      · cases ha

end Node

/-! ### Scopes after a declaration -/

namespace Scope

/-- The scope with some more aliases. -/
def withAliases (s : Scope) (aliases : List Alias) : Scope :=
  { s with imports := s.imports.insertAll aliases }

lemma withElement_toOption (kind : Option ImportKind) (common : Option String) (list : Kind)
    (s : Scope) (element : Node) :
    (s.withElement kind common list element).toOption =
      (element.alias? kind common).map fun a => s.withAliases [a] := by
  rw [withElement, Node.alias?]
  split
  · cases element.childName? 0 with
    | none => rfl
    | some target =>
        cases (ImportKind.ofWord? element.flags).or kind with
        | none => rfl
        | some kind => rfl
  · rfl

/-- Elements add their aliases together, and none of them if one is malformed. -/
theorem withElements_toOption (kind : Option ImportKind) (common : Option String) (list : Kind)
    (s : Scope) (elements : List Node) :
    (s.withElements kind common list elements).toOption =
      (elements.mapM (Node.alias? kind common)).map s.withAliases := by
  induction elements generalizing s with
  | nil => rfl
  | cons element rest ih =>
      have hone := s.withElement_toOption kind common list element
      rw [withElements, List.foldlM_cons, List.mapM_cons]
      cases ha : element.alias? kind common with
      | none =>
          rw [ha] at hone
          cases ht : s.withElement kind common list element with
          | error issue => rfl
          | ok t => rw [ht] at hone; cases hone
      | some a =>
          rw [ha] at hone
          cases ht : s.withElement kind common list element with
          | error issue => rw [ht] at hone; cases hone
          | ok t =>
              rw [ht] at hone
              have ht : t = s.withAliases [a] := Option.some.inj hone
              show (t.withElements kind common list rest).toOption = _
              rw [ih, ht]
              cases rest.mapM (Node.alias? kind common) <;> rfl

/-- **A `use` declaration adds its aliases or fails as a whole.** -/
theorem afterUse_toOption (s : Scope) {node : Node} (hkind : node.kind = .useDecl) :
    (s.afterUse node).toOption = node.aliases?.map s.withAliases := by
  rw [afterUse, withElements_toOption, Node.aliases?, hkind]

/-- So does one of a group. -/
theorem afterGroupUse_toOption (s : Scope) {node : Node} (hkind : node.kind = .groupUse) :
    (s.afterGroupUse node).toOption = node.aliases?.map s.withAliases := by
  rw [afterGroupUse, Node.aliases?, hkind]
  cases node.childText? 0 with
  | none => rfl
  | some common =>
      cases node.childNode? 1 with
      | none => rfl
      | some list => exact s.withElements_toOption _ _ _ _

end Scope

end PhpIndex
