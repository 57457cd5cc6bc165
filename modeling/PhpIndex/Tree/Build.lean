import PhpIndex.Flags
import PhpIndex.Text.Leading
import PhpIndex.Text.Segments
import PhpIndex.Tree.Node
import PhpIndex.Tree.Word

/-!
Well-formed nodes, with the children that each kind expects. Their lines are not known.

* `Node.nameOf`: a name as it is written, with the kind of name in its flag word;
* `Node.classOf`, `Node.methodOf`, `Node.functionOf`, `Node.closureOf`: declarations;
* `Node.useOf`, `Node.groupUseOf`: imports;
* `Node.returning`: a declaration with a return type;
* the expressions and statements that declarations may hold.
-/

namespace PhpIndex

namespace Node

/-! ### Statement lists and namespaces -/

/-- A node with subtrees as its children. -/
def ofNodes (kind : Kind) (nodes : List Node) : Node :=
  { kind := kind, children := nodes.map Child.node }

/-- A list of statements. -/
def statements (body : List Node) : Node := ofNodes .stmtList body

/-- The slot for the name of a namespace, which is empty for the global one. -/
def namespaceSlot (name : String) : Child := if name = "" then .empty else .str name

/-- A namespace declaration without braces. -/
def namespaceOf (name : String) : Node :=
  { kind := .namespaceDecl, children := [namespaceSlot name, .empty] }

/-- A namespace declaration with its statements in braces. -/
def namespaceBlock (name : String) (body : List Node) : Node :=
  { kind := .namespaceDecl, children := [namespaceSlot name, .node (statements body)] }

/-! ### Imports -/

/-- One name that is imported, with its alias and a kind of its own. -/
structure ImportElem where
  target : String
  alias? : Option String := none
  kind? : Option ImportKind := none

/-- The slot for a string that may be missing. -/
def textSlot : Option String → Child
  | none => .empty
  | some s => .str s

/-- The node of a name that is imported. -/
def ImportElem.toNode (e : ImportElem) : Node where
  kind := .useElem
  flags := (e.kind?.map ImportKind.toWord).getD 0
  children := [.str e.target, textSlot e.alias?]

/-- An import of names of one kind. -/
def useOf (kind : ImportKind) (elems : List ImportElem) : Node :=
  { ofNodes .useDecl (elems.map ImportElem.toNode) with flags := kind.toWord }

/-- An import of names below a common one. -/
def groupUseOf (kind : ImportKind) (common : String) (elems : List ImportElem) : Node where
  kind := .groupUse
  flags := kind.toWord
  children := [.str common, .node (ofNodes .useDecl (elems.map ImportElem.toNode))]

/-! ### Names -/

/-- A name as it is written. A separator at its start makes it fully qualified and the word
`namespace` before a separator makes it relative; neither is part of the stored name. -/
def nameOf (written : String) : Node :=
  let (kind, stored) : NameKind × String :=
    match Text.afterSeparator? written with
    | some rest => (.fullyQualified, rest)
    | none =>
        match Text.afterWord? "namespace\\".toList written.toList with
        | some rest => (.relative, String.ofList rest)
        | none => (.unmarked, written)
  { kind := .name, flags := kind.toWord, children := [.str stored] }

/-- A list of names. -/
def nameListOf (names : List String) : Node := ofNodes .nameList (names.map nameOf)

/-! ### Classes -/

/-- A class with the name of its parent, the names of its interfaces and its members. -/
def classOf (name : String) (parent : Option String) (interfaces : List String)
    (members : List Node) : Node where
  kind := .classDecl
  children := [.str name, .ofNode? (parent.map nameOf),
    if interfaces = [] then .empty else .node (nameListOf interfaces),
    .node (statements members)]

/-- An interface. -/
def interfaceOf (name : String) (members : List Node) : Node :=
  { classOf name none [] members with flags := ClassFlags.interface.toWord }

/-- A trait. -/
def traitOf (name : String) (members : List Node) : Node :=
  { classOf name none [] members with flags := ClassFlags.trait.toWord }

/-- A class without a name. -/
def anonymousClass (members : List Node) : Node where
  kind := .classDecl
  flags := ClassFlags.anonymous.toWord
  children := [.empty, .empty, .empty, .node (statements members)]

/-- The use of traits in a class. -/
def traitUseOf (names : List String) : Node :=
  { kind := .traitUse, children := [.node (nameListOf names), .empty] }

/-- A group of properties, with the word of their modifiers. -/
def propertyGroup (modifiers : Nat) (elems : List Node) : Node :=
  { ofNodes .propertyGroup elems with flags := modifiers }

/-- A property of a group, with its default value. -/
def propertyElem (name : String) (default : Child) : Node :=
  { kind := .propertyElem, children := [.str name, default] }

/-- A group of class constants. -/
def constantGroup (elems : List Node) : Node :=
  { ofNodes .constantGroup elems with flags := Modifiers.publicOnly.toWord }

/-- A class constant of a group, with its value. -/
def constantElem (name : String) (value : Child) : Node :=
  { kind := .constantElem, children := [.str name, value] }

/-! ### Functions -/

/-- A list of parameters. -/
def paramListOf (params : List Node) : Node := ofNodes .paramList params

/-- A parameter, with its default value. -/
def paramOf (name : String) (default : Option Child) : Node :=
  { kind := .param, children := [.empty, .str name, default.getD .empty] }

/-- A parameter that takes any number of arguments. -/
def variadicParam (name : String) : Node :=
  { paramOf name none with flags := ParameterFlags.variadic.toWord }

/-- A public method. -/
def methodOf (name : String) (params body : List Node) : Node where
  kind := .methodDecl
  flags := Modifiers.publicOnly.toWord
  children := [.str name, .node (paramListOf params), .node (statements body), .empty]

/-- A function outside any class. -/
def functionOf (name : String) (params body : List Node) : Node where
  kind := .functionDecl
  children := [.str name, .node (paramListOf params), .node (statements body), .empty]

/-- A function without a name. -/
def closureOf (params body : List Node) : Node where
  kind := .closure
  children := [.node (paramListOf params), .empty, .node (statements body), .empty]

/-- The place of the return type among the children of a method, function or closure. -/
def returnSlot : Nat := 3

/-- The declaration with a return type, where places before its own that are missing are filled
with empty slots. -/
def returning (decl : Node) (type : String) : Node :=
  let padded := decl.children ++ List.replicate (returnSlot + 1 - decl.children.length) .empty
  { decl with children := padded.set returnSlot (.node (nameOf type)) }

/-! ### Calls -/

/-- A list of arguments. -/
def argListOf (args : List Child) : Node := { kind := .argList, children := args }

/-- A call of what an expression gives. -/
def callExpr (callee : Node) (args : List Child) : Node :=
  { kind := .call, children := [.node callee, .node (argListOf args)] }

/-- A call of a function by its name. -/
def callOf (name : String) (args : List Child) : Node := callExpr (nameOf name) args

/-- A call of a method of a class. -/
def staticCall (className name : String) (args : List Child) : Node :=
  { kind := .staticCall, children := [.node (nameOf className), .str name, .node (argListOf args)] }

/-- A call of a method of an object. -/
def methodCall (object : Node) (name : String) (args : List Child) : Node :=
  { kind := .methodCall, children := [.node object, .str name, .node (argListOf args)] }

/-- A new object of a class. -/
def newOf (className : String) (args : List Child) : Node :=
  { kind := .newObject, children := [.node (nameOf className), .node (argListOf args)] }

/-! ### Variables, properties and constants -/

/-- A variable. -/
def varOf (name : String) : Node := { kind := .var, children := [.str name] }

/-- The variable whose name is the value of an expression. -/
def varVar (inner : Node) : Node := { kind := .var, children := [.node inner] }

/-- An element of an array. -/
def dimOf (base : Node) (index : Child) : Node :=
  { kind := .dim, children := [.node base, index] }

/-- A property of an object. -/
def propOf (object : Node) (property : Child) : Node :=
  { kind := .prop, children := [.node object, property] }

/-- A property of a class. -/
def staticProp (className : String) (property : Child) : Node :=
  { kind := .staticProp, children := [.node (nameOf className), property] }

/-- A constant by its name. -/
def constantOf (name : String) : Node := { kind := .const, children := [.node (nameOf name)] }

/-- A constant of a class. -/
def classConst (className name : String) : Node :=
  { kind := .classConst, children := [.node (nameOf className), .str name] }

/-! ### Other expressions and statements -/

/-- An array of values without keys. -/
def arrayOf (values : List Child) : Node :=
  ofNodes .array (values.map fun v => { kind := .arrayElem, children := [v, .empty] })

/-- An assignment. -/
def assign (target : Node) (value : Child) : Node :=
  { kind := .assign, children := [.node target, value] }

/-- A branch: a condition, which the last branch may lack, and its statements. -/
def branch (condition : Child) (body : List Node) : Node :=
  { kind := .ifElem, children := [condition, .node (statements body)] }

/-- A conditional statement with one branch and perhaps another. -/
def ifOf (condition : Child) (body : List Node) (otherwise : Option (List Node)) : Node :=
  ofNodes .ifStmt (branch condition body :: (otherwise.map (branch .empty)).toList)

/-- An output statement. -/
def echoOf (value : Child) : Node := { kind := .echo, children := [value] }

/-- A return statement. -/
def returnOf (value : Child) : Node := { kind := .returnStmt, children := [value] }

/-- The node inside `depth` nodes of a kind, each with one child. -/
def nest (kind : Kind) : Nat → Node → Node
  | 0, inner => inner
  | depth + 1, inner => { kind := kind, children := [.node (nest kind depth inner)] }

end Node

end PhpIndex
