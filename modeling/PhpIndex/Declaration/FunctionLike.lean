import PhpIndex.DocBlock
import PhpIndex.Flags
import PhpIndex.Fqsen
import PhpIndex.Location

/-!
Functions and methods.

* `OptionalCount`: how many arguments a function takes beyond the required ones;
* `FunctionLike`: one record for functions and methods, told apart by their identities;
* `FunctionLike.acceptAny`: the function that reads its arguments itself.
-/

namespace PhpIndex

/-- How many arguments a function takes beyond the required ones. -/
inductive OptionalCount where
  | upTo (count : Nat)
  | unlimited
deriving DecidableEq

/-- A function or method. -/
structure FunctionLike where
  fqsen : Fqsen
  /-- The name as it is declared. -/
  name : String
  location : Location := {}
  doc : DocBlock := .empty
  /-- The type of its results, once the declaration or its doc comment gives one. -/
  returnType : Option UnionType := none
  modifiers : Modifiers := {}
  required : Nat := 0
  optional : OptionalCount := .upTo 0
  /-- Whether it is declared in a branch. -/
  isConditional : Bool := false
deriving DecidableEq

namespace FunctionLike

/-- The function that takes any number of arguments, as it reads them itself. -/
def acceptAny (f : FunctionLike) : FunctionLike := { f with optional := .unlimited }

/-- Whether it takes any number of arguments. -/
def acceptsAny (f : FunctionLike) : Bool := decide (f.optional = .unlimited)

/-- Whether it belongs to no class. -/
def isFunction (f : FunctionLike) : Bool := f.fqsen.className?.isNone

/-- Whether its doc comment advises against its use. -/
def isDeprecated (f : FunctionLike) : Bool := f.doc.isDeprecated

end FunctionLike

end PhpIndex
