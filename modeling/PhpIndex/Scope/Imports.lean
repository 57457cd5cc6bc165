import Std.Data.ExtTreeMap
import PhpIndex.Text.Lowercase
import PhpIndex.Text.Segments
import PhpIndex.Tree.Word

/-!
The aliases that `use` declarations introduce.

* `Imports`: a table of aliases for each kind of import, so that a class and a function of one
  name do not collide; equal tables make equal imports;
* `Imports.aliasKey`: the form an alias is compared in, where only constants keep their case;
* `Imports.insert`, `Imports.get?`: one more alias, and the target of an alias;
* `Imports.get?_insert`: a new alias replaces the one of its kind and key and no other.
-/

namespace PhpIndex

open Text

/-- The aliases in force, each with the full name that it stands for. -/
structure Imports where
  classes : Std.ExtTreeMap String String := ∅
  functions : Std.ExtTreeMap String String := ∅
  constants : Std.ExtTreeMap String String := ∅
deriving DecidableEq

namespace Imports

/-- No aliases. -/
def none : Imports := {}

/-- The aliases of one kind. -/
def table (t : Imports) : ImportKind → Std.ExtTreeMap String String
  | .classLike => t.classes
  | .function => t.functions
  | .constant => t.constants

/-- The form in which an alias is kept: the case of its letters matters only for constants. -/
def aliasKey : ImportKind → String → String
  | .classLike, name | .function, name => lowercase name
  | .constant, name => name

/-- The imports with one more alias, which takes the place of an earlier one. The target is kept
without separators at its start. -/
def insert (t : Imports) (kind : ImportKind) (name target : String) : Imports :=
  let key := aliasKey kind name
  let target := dropLeading target
  match kind with
  | .classLike => { t with classes := t.classes.insert key target }
  | .function => { t with functions := t.functions.insert key target }
  | .constant => { t with constants := t.constants.insert key target }

/-- The full name that an alias of a kind stands for. -/
def get? (t : Imports) (kind : ImportKind) (name : String) : Option String :=
  (t.table kind)[aliasKey kind name]?

/-- Whether there is an alias of the kind. -/
def contains (t : Imports) (kind : ImportKind) (name : String) : Bool := (t.get? kind name).isSome

/-- The number of aliases. -/
def size (t : Imports) : Nat := t.classes.size + t.functions.size + t.constants.size

/-- Whether there are no aliases. -/
def isEmpty (t : Imports) : Bool := t.size == 0

@[simp] theorem get?_none (kind : ImportKind) (name : String) : none.get? kind name = .none := by
  cases kind <;> simp [none, get?, table]

/-- A new alias replaces the one of its kind and key and no other. -/
theorem get?_insert (t : Imports) (k l : ImportKind) (name target query : String) :
    (t.insert k name target).get? l query =
      if k = l ∧ aliasKey k name = aliasKey l query then some (dropLeading target)
      else t.get? l query := by
  cases k <;> cases l <;>
    simp [insert, get?, table, Std.ExtTreeMap.getElem?_insert]

end Imports

end PhpIndex
