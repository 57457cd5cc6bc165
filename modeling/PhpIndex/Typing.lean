import PhpIndex.Scope.Naming

/-!
Types of expressions and of signatures, as far as they can be read off the tree.

* `Scope.typeOf`: the type of a default value, which is unknown for all but simple expressions;
* `Scope.typeOfSignature?`: the type that a signature names.
-/

namespace PhpIndex

open Text

/-- The names of types that no import replaces. -/
def reservedTypeNames : List String :=
  ["array", "bool", "callable", "false", "float", "int", "iterable", "mixed", "null", "object",
    "string", "true", "void", "never", "boolean", "integer", "double"]

/-- Whether the name is that of a type and not of a class. -/
def isReservedTypeName (name : String) : Bool := isAmongIgnoringCase reservedTypeNames name

/-- The type of a constant, which is known for `null` and the truth values. -/
def constantType (name : String) : UnionType :=
  if eqIgnoreAsciiCase name "null" then .ofName "null"
  else if isAmongIgnoringCase ["true", "false"] name then .ofName "bool"
  else .unknown

namespace Scope

/-- The type of an expression. -/
def typeOfNode (s : Scope) (node : Node) : UnionType :=
  match node.kind with
  | .const => (((node.childNode? 0).bind (·.childText? 0)).map constantType).getD .unknown
  | .array => .ofName "array"
  | .encaps => .ofName "string"
  | .closure => .ofName "Closure"
  | .newObject =>
      (((node.childNode? 0).bind (s.resolveNode? · .classLike)).map UnionType.ofName).getD .unknown
  | _ => .unknown

/-- The type of a default value. -/
def typeOf (s : Scope) : Child → UnionType
  | .int _ => .ofName "int"
  | .float _ => .ofName "float"
  | .str _ => .ofName "string"
  | .empty => .unknown
  | .node n => s.typeOfNode n

/-- The type that a name in a signature names: a question mark before it adds `null`, and a name
that is not reserved is that of a class. Other nodes name no type. -/
def typeOfSignature? (s : Scope) (node : Node) : Option UnionType :=
  if node.kind = .name then
    (node.childText? 0).map fun written =>
      let bare := trimStart (· == '?') written
      let type := .ofName <|
        if isReservedTypeName bare || isSelfReference bare then bare
        else s.resolve bare (.ofWord node.flags) .classLike
      if bare = written then type else type.add "null"
  else none

end Scope

end PhpIndex
