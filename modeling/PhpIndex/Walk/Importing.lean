import PhpIndex.Scope.Naming
import PhpIndex.Walk.Findings

/-!
The aliases that a `use` declaration introduces.

* `importedName`: the full name of what is imported, below the common name of a group if it
  stands in one;
* `Scope.withElement`: the scope after one element of a declaration;
* `Scope.withElements`: the scope after all of them, with `withElements_append` saying that they
  take effect one after the other;
* `Scope.afterUse`, `Scope.afterGroupUse`: the scope after a declaration.
-/

namespace PhpIndex

open Text

/-- The full name of what an element imports. -/
def importedName (common : Option String) (target : String) : String :=
  match common with
  | none => dropLeading target
  | some name => dropOuter name ++ separator.toString ++ dropLeading target

namespace Scope

/-- The scope after one element. Its own kind goes before that of the declaration, and without
an alias the last segment of the name is the alias. -/
def withElement (kind : Option ImportKind) (common : Option String) (list : Kind) (s : Scope)
    (element : Node) : Except Issue Scope :=
  if element.kind = .useElem then
    match element.childName? 0, (ImportKind.ofWord? element.flags).or kind with
    | none, _ => .error (Kind.useElem.malformed "missing import target")
    | some _, none => .error (Kind.useElem.malformed "missing import kind")
    | some target, some kind =>
        let full := importedName common target
        .ok (s.withImport kind ((element.childText? 1).getD (lastSegment full)) full)
  else .error (list.malformed "expected use element")

/-- The scope after some elements, of which none may be malformed. -/
def withElements (kind : Option ImportKind) (common : Option String) (list : Kind) (s : Scope)
    (elements : List Node) : Except Issue Scope :=
  elements.foldlM (withElement kind common list) s

/-- Elements take effect one after the other. -/
theorem withElements_append (kind : Option ImportKind) (common : Option String) (list : Kind)
    (s : Scope) (xs ys : List Node) :
    s.withElements kind common list (xs ++ ys) =
      (s.withElements kind common list xs).bind fun t => t.withElements kind common list ys := by
  simp only [withElements, List.foldlM_append]
  rfl

/-- The scope after an import of names of one kind. -/
def afterUse (s : Scope) (node : Node) : Except Issue Scope :=
  s.withElements (ImportKind.ofWord? node.flags) none node.kind node.childNodes

/-- The scope after an import of names below a common one. -/
def afterGroupUse (s : Scope) (node : Node) : Except Issue Scope :=
  match node.childText? 0, node.childNode? 1 with
  | none, _ => .error (Kind.groupUse.malformed "missing prefix")
  | some _, none => .error (Kind.groupUse.malformed "missing element list")
  | some common, some list =>
      s.withElements (ImportKind.ofWord? node.flags) (some common) list.kind list.childNodes

end Scope

end PhpIndex
