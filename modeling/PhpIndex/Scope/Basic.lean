import PhpIndex.Fqsen
import PhpIndex.Location
import PhpIndex.Scope.Imports

/-!
The scope of a place in a source unit.

* `Scope`: the file, the namespace and its imports, and the class, function, branch and closure
  around the place;
* `Scope.ofFile`: the scope at the start of a file;
* `Scope.enterNamespace`, `enterClass`, `enterFunction`, `enterBranch`, `enterClosure`: the scope
  inside a construct;
* `Scope.moveTo`, `Scope.adoptNames`: the scope after a construct, of which the namespace alone
  or the namespace and its imports reach what follows.
-/

namespace PhpIndex

open Text

/-- The scope of a place in a source unit. -/
structure Scope where
  file : String := ""
  /-- The lines of the declaration around the place. -/
  range : LineRange := {}
  /-- The namespace with a separator at its end; empty for the global one. -/
  space : String := ""
  imports : Imports := {}
  /-- The class around the place. -/
  class? : Option Fqsen := none
  /-- The function or method around the place. -/
  function? : Option Fqsen := none
  /-- Whether a branch is around the place. -/
  isConditional : Bool := false
  /-- Whether the place belongs to a closure and not to the function around it. -/
  inClosure : Bool := false
deriving DecidableEq

namespace Scope

/-- The scope at the start of a file, in the global namespace. -/
def ofFile (file : String) : Scope := { file := file }

/-- The scope in another file. -/
def withFile (s : Scope) (file : String) : Scope := { s with file := file }

/-- The scope of a declaration that covers some lines. -/
def withRange (s : Scope) (range : LineRange) : Scope := { s with range := range }

/-- Lines of the file of the scope. -/
def locate (s : Scope) (range : LineRange) : Location := { file := s.file, range := range }

/-! ### Namespaces and imports -/

/-- The form in which a namespace is kept: without separators around it but with one at its end,
and empty for the global one. -/
def namespaceForm (space : String) : String :=
  let bare := dropOuter space
  if bare = "" then "" else bare ++ separator.toString

/-- The scope in a namespace. Imports belong to a namespace, so only the same one keeps them. -/
def moveTo (s : Scope) (space : String) : Scope :=
  let form := namespaceForm space
  { s with space := form, imports := if form = s.space then s.imports else .none }

/-- The scope where a namespace declaration begins. Imports belong to the declaration, so there
are none at first. -/
def enterNamespace (s : Scope) (space : String) : Scope :=
  { s with space := namespaceForm space, imports := .none }

/-- The scope with the namespace and the imports of another. -/
def adoptNames (s other : Scope) : Scope :=
  { s with space := other.space, imports := other.imports }

/-- The scope with one more alias. -/
def withImport (s : Scope) (kind : ImportKind) (name target : String) : Scope :=
  { s with imports := s.imports.insert kind name target }

/-! ### Declarations -/

/-- The scope inside a class. A function around the class does not reach into it. -/
def enterClass (s : Scope) (name : Fqsen) : Scope :=
  { s with class? := some name, function? := none, inClosure := false }

/-- The scope inside a function or method. -/
def enterFunction (s : Scope) (name : Fqsen) : Scope :=
  { s with function? := some name, inClosure := false }

/-- The scope with a mark that tells whether a branch is around it. -/
def withConditional (s : Scope) (isConditional : Bool) : Scope :=
  { s with isConditional := isConditional }

/-- The scope inside a branch. -/
def enterBranch (s : Scope) : Scope := s.withConditional true

/-- The scope inside a closure. -/
def enterClosure (s : Scope) : Scope := { s with inClosure := true }

/-- Moving within a namespace changes nothing. -/
theorem moveTo_of_eq {s : Scope} {space : String} (h : namespaceForm space = s.space) :
    s.moveTo space = s := by
  simp [moveTo, h]

end Scope

end PhpIndex
