import PhpIndex.Registry.Basic
import PhpIndex.Scope.Basic
import PhpIndex.Text.Ascii
import PhpIndex.Tree.Node

/-!
Names in a scope: what a name that is written refers to, and under which identity a declaration
is registered.

* `Scope.resolve`: the full name of a name as it is written;
* `Scope.resolveNode?`, `Scope.resolveClass?`: the same for a node, and the class that a node
  names;
* `isSelfReference`: the names `self`, `static` and `parent`, which stand for a class only where
  they are used;
* `DeclarationKind`, `Scope.newIdentity`: the identity for a new declaration, which no other
  declaration has.
-/

namespace PhpIndex

open Text

/-! ### What a name refers to -/

/-- Whether the name stands for a class in relation to the one it is used in. -/
def isSelfReference (name : String) : Bool :=
  isAmongIgnoringCase ["self", "static", "parent"] name

namespace Scope

/-- A name in the namespace of the scope. -/
def qualify (s : Scope) (name : String) : String := s.space ++ name

/-- The full name, without a separator at its start, of a name as it is written. An alias may
stand for the whole of a name or, if it is one of classes, for its first segment. -/
def resolve (s : Scope) (written : String) (form : NameKind) (kind : ImportKind) : String :=
  match afterSeparator? written with
  | some full => full
  | none =>
      match form with
      | .fullyQualified => written
      | .relative => s.qualify written
      | .unmarked =>
          if kind = .classLike ∧ isSelfReference written then written
          else match splitFirst written with
            | some (first, rest) =>
                match s.imports.get? .classLike first with
                | some target => target ++ separator.toString ++ rest
                | none => s.qualify written
            | none => (s.imports.get? kind written).getD (s.qualify written)

/-- The full name that a name node refers to; other nodes and empty names refer to none. -/
def resolveNode? (s : Scope) (node : Node) (kind : ImportKind) : Option String :=
  if node.kind = .name then
    (node.childName? 0).map fun written => s.resolve written (.ofWord node.flags) kind
  else none

/-- The class that a name node refers to; a reference to the class around it has no identity of
its own. -/
def resolveClass? (s : Scope) (node : Node) : Option Fqsen :=
  (s.resolveNode? node .classLike).bind fun name =>
    if isSelfReference name then none else Fqsen.ofClassName? name

end Scope

/-! ### Identities of declarations -/

/-- What is declared. -/
inductive DeclarationKind where
  /-- A class, interface or trait. -/
  | classLike
  /-- A method of the class around the place. -/
  | method
  /-- A function outside any class. -/
  | function
deriving DecidableEq

/-- The identity for a new declaration of a name: the first alternate that is not taken. Only a
method needs a class around it. -/
def Scope.newIdentity (s : Scope) (r : Registry) (name : String) :
    DeclarationKind → Except Issue Fqsen
  | .classLike => .ok (r.freeClass (.ofClass s.space name))
  | .function => .ok (r.freeFunction (.ofFunction s.space name))
  | .method =>
      match s.class? with
      | none => .error (.methodOutsideClass name)
      | some owner => .ok (r.freeFunction (owner.member name))

end PhpIndex
