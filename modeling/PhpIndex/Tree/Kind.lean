/-!
The kinds of syntax tree nodes.

* `Kind`: the closed list of kinds;
* `Kind.text`, `Kind.ofText?`: their names, and the kind of a name;
* `Kind.ofText?_text`: a kind is found by its name.
-/

namespace PhpIndex

/-- The kind of a syntax tree node. -/
inductive Kind where
  -- structure
  | stmtList | namespaceDecl | useDecl | groupUse | useElem
  -- declarations
  | classDecl | traitUse | traitAdaptations | methodDecl | functionDecl | closure
  | closureUses | paramList | param | propertyGroup | propertyElem | constantGroup
  | constantElem | constDecl
  -- names
  | name | nameList
  -- calls
  | call | staticCall | methodCall | argList | newObject
  -- expressions
  | var | dim | prop | staticProp | const | classConst | array | arrayElem | assign
  | binaryOp | unaryOp | conditional | encaps | magicConst
  -- control flow
  | ifStmt | ifElem | switchStmt | switchList | switchCase | whileStmt | doWhile
  | forStmt | foreach | tryStmt | catchClause | catchList | throwStmt | returnStmt | echo
  | print | globalStmt | staticStmt | unset
deriving DecidableEq

namespace Kind

/-- The name of a kind. -/
def text : Kind → String
  | stmtList => "StmtList"
  | namespaceDecl => "Namespace"
  | useDecl => "Use"
  | groupUse => "GroupUse"
  | useElem => "UseElem"
  | classDecl => "Class"
  | traitUse => "UseTrait"
  | traitAdaptations => "TraitAdaptations"
  | methodDecl => "Method"
  | functionDecl => "FuncDecl"
  | closure => "Closure"
  | closureUses => "ClosureUses"
  | paramList => "ParamList"
  | param => "Param"
  | propertyGroup => "PropDecl"
  | propertyElem => "PropElem"
  | constantGroup => "ClassConstDecl"
  | constantElem => "ConstElem"
  | constDecl => "ConstDecl"
  | name => "Name"
  | nameList => "NameList"
  | call => "Call"
  | staticCall => "StaticCall"
  | methodCall => "MethodCall"
  | argList => "ArgList"
  | newObject => "New"
  | var => "Var"
  | dim => "Dim"
  | prop => "Prop"
  | staticProp => "StaticProp"
  | const => "Const"
  | classConst => "ClassConstFetch"
  | array => "Array"
  | arrayElem => "ArrayElem"
  | assign => "Assign"
  | binaryOp => "BinaryOp"
  | unaryOp => "UnaryOp"
  | conditional => "Conditional"
  | encaps => "Encaps"
  | magicConst => "MagicConst"
  | ifStmt => "If"
  | ifElem => "IfElem"
  | switchStmt => "Switch"
  | switchList => "SwitchList"
  | switchCase => "SwitchCase"
  | whileStmt => "While"
  | doWhile => "DoWhile"
  | forStmt => "For"
  | foreach => "Foreach"
  | tryStmt => "Try"
  | catchClause => "Catch"
  | catchList => "CatchList"
  | throwStmt => "Throw"
  | returnStmt => "Return"
  | echo => "Echo"
  | print => "Print"
  | globalStmt => "Global"
  | staticStmt => "Static"
  | unset => "Unset"

/-- All kinds. -/
def all : List Kind :=
  [.stmtList, .namespaceDecl, .useDecl, .groupUse, .useElem, .classDecl, .traitUse,
    .traitAdaptations, .methodDecl, .functionDecl, .closure, .closureUses, .paramList,
    .param, .propertyGroup, .propertyElem, .constantGroup, .constantElem, .constDecl,
    .name, .nameList, .call, .staticCall, .methodCall, .argList, .newObject, .var, .dim,
    .prop, .staticProp, .const, .classConst, .array, .arrayElem, .assign, .binaryOp,
    .unaryOp, .conditional, .encaps, .magicConst, .ifStmt, .ifElem, .switchStmt,
    .switchList, .switchCase, .whileStmt, .doWhile, .forStmt, .foreach, .tryStmt,
    .catchClause, .catchList, .throwStmt, .returnStmt, .echo, .print, .globalStmt,
    .staticStmt, .unset]

/-- The kind with a name. -/
def ofText? (name : String) : Option Kind := all.find? (·.text == name)

theorem mem_all (k : Kind) : k ∈ all := by
  cases k <;> decide

theorem ofText?_text (k : Kind) : ofText? k.text = some k := by
  cases k <;> rfl

end Kind

end PhpIndex
