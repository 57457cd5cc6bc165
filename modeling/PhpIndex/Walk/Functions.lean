import PhpIndex.Typing
import PhpIndex.Walk.Classes

/-!
Functions outside classes, and the calls that tell something about the declarations around them.

* `ParameterForm`, `Node.parameterForms`: which parameters of a list need an argument;
* `declareFunction`: the findings and the scope inside a function, or why there is none;
* `Node.calleeName?`, `Node.calleeName?_eq_some_iff`: the name that a call is written with;
* `Node.readsArguments`: a call by which a function reads its arguments itself, so that it takes
  any number of them;
* `Node.callsParentConstructor`: a call of the constructor of the parent.
-/

namespace PhpIndex

open Text

/-! ### Parameters -/

/-- How a parameter takes arguments. -/
inductive ParameterForm where
  /-- It needs one. -/
  | required
  /-- It has a default value. -/
  | optional
  /-- It takes any number. -/
  | variadic
deriving DecidableEq

namespace Node

/-- The form of a parameter. -/
def parameterForm (param : Node) : ParameterForm :=
  if (ParameterFlags.ofWord param.flags).isVariadic then .variadic
  else if (param.child? 2).any (! ·.isEmpty) then .optional
  else .required

/-- The forms of the parameters in a list; other nodes in it count for nothing. -/
def parameterForms (list : Node) : List ParameterForm :=
  (list.childNodes.filter (·.kind = .param)).map parameterForm

end Node

/-- How many arguments are needed. -/
def requiredCount (forms : List ParameterForm) : Nat := forms.count .required

/-- How many arguments are taken beyond those that are needed. -/
def optionalCount (forms : List ParameterForm) : OptionalCount :=
  if .variadic ∈ forms then .unlimited else .upTo (forms.count .optional)

/-! ### Functions -/

/-- The function that a node describes. The type of the signature goes before that of the doc
comment. -/
def Scope.functionFrom (s : Scope) (options : Options) (node : Node) (identity : Fqsen)
    (name : String) : FunctionLike :=
  let forms := ((node.childNode? 1).map Node.parameterForms).getD []
  { s.methodFrom options node identity name with
    returnType := ((node.childNode? 3).bind s.typeOfSignature?).or
      (DocBlock.ofText? node.doc).returnType
    required := requiredCount forms
    optional := optionalCount forms }

/-- The declaration of a function. -/
def declareFunction (options : Options) (node : Node) (s : Scope) (f : Findings) :
    Except Issue (Scope × Findings) :=
  match node.childName? 0 with
  | none => .error (Kind.functionDecl.malformed "missing function name")
  | some name => do
      let identity ← s.newIdentity f.registry name .function
      let f' ← f.addFunction (s.functionFrom options node identity name)
      return ((s.enterFunction identity).withRange node.range, f')

/-! ### Calls -/

/-- The functions by which a function reads its arguments itself. -/
def argumentReaderNames : List String := ["func_get_args", "func_get_arg", "func_num_args"]

namespace Node

/-- The name in the first slot of a call, as it is written. -/
def calleeName? (call : Node) : Option String := (call.childOfKind? 0 .name).bind (·.childText? 0)

/-- What is called must be named by a node in the slot, with a text in its own first slot. -/
theorem calleeName?_eq_some_iff {call : Node} {name : String} :
    call.calleeName? = some name ↔ ∃ callee, call.child? 0 = some (.node callee) ∧
      callee.kind = .name ∧ callee.child? 0 = some (.str name) := by
  rw [calleeName?, Option.bind_eq_some_iff]
  simp only [childOfKind?_eq_some_iff, childText?_eq_some_iff, and_assoc]

/-- Whether a call reads the arguments of the function around it. -/
def readsArguments (call : Node) : Bool :=
  call.calleeName?.any fun name => isAmongIgnoringCase argumentReaderNames (dropLeading name)

/-- Whether a call of a class's method calls the constructor of the parent. -/
def callsParentConstructor (call : Node) : Bool :=
  call.calleeName?.any (eqIgnoreAsciiCase · "parent") &&
    (call.childText? 1).any (eqIgnoreAsciiCase · constructorName)

end Node

/-- The findings after a call that reads the arguments of the function around it. What a closure
reads are its own arguments. -/
def noteArgumentReader (s : Scope) (f : Findings) : Findings :=
  match s.function? with
  | none => f
  | some name => if s.inClosure then f else f.modifyFunction name FunctionLike.acceptAny

/-- The findings after a call of the constructor of the parent. -/
def noteParentConstructorCall (s : Scope) (f : Findings) : Findings :=
  match s.class? with
  | none => f
  | some name => f.modifyClass name ClassLike.noteParentCall

end PhpIndex
