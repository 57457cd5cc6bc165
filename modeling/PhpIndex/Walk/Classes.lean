import PhpIndex.Options
import PhpIndex.Scope.Naming
import PhpIndex.Walk.Findings

/-!
Classes, the traits they use and their methods.

* `declaredClassName?`: the name under which a class node is declared, a class without a name
  getting a common one;
* `Scope.classFrom`, `Scope.methodFrom`: the records that nodes describe;
* `declareClass`, `useTraits`, `declareMethod`: the findings and the scope inside a declaration,
  or why there is none;
* `ClassLike.withMethodNamed`: what the name of a method says about its class.
-/

namespace PhpIndex

open Text

/-- Whether declarations at the place are marked as conditional. -/
def Scope.marksConditional (s : Scope) (options : Options) : Bool :=
  options.recordsConditional && s.isConditional

/-! ### Classes -/

/-- The name of the classes that are declared without one. -/
def anonymousClassName : String := "class@anonymous"

/-- The name under which a class node is declared. It may lack a name if it is flagged as
anonymous or has an empty slot for the name. -/
def declaredClassName? (node : Node) : Option String :=
  (node.childName? 0).or <|
    if (ClassFlags.ofWord node.flags).isAnonymous || (node.child? 0).any Child.isEmpty then
      some anonymousClassName
    else none

/-- The class that a node describes. -/
def Scope.classFrom (s : Scope) (options : Options) (node : Node) (identity : Fqsen)
    (name : String) : ClassLike :=
  { ClassLike.ofName identity name (s.locate node.range) (.ofWord node.flags) with
    doc := .ofText? node.doc
    isConditional := s.marksConditional options
    parent? := (node.childNode? 1).bind s.resolveClass?
    interfaces := ((node.childNode? 2).map (·.childNodes.filterMap s.resolveClass?)).getD [] }

/-- The declaration of a class. -/
def declareClass (options : Options) (node : Node) (s : Scope) (f : Findings) :
    Except Issue (Scope × Findings) :=
  match declaredClassName? node with
  | none => .error (Kind.classDecl.malformed "missing class name")
  | some name => do
      let identity ← s.newIdentity f.registry name .classLike
      let f' ← f.addClass (s.classFrom options node identity name)
      return ((s.enterClass identity).withRange node.range, f')

/-! ### Traits -/

/-- The use of traits in a class. -/
def useTraits (node : Node) (s : Scope) (f : Findings) : Except Issue (Scope × Findings) :=
  match s.class?, node.childOfKind? 0 .nameList with
  | none, _ => .error (Kind.traitUse.malformed "trait use outside a class")
  | some _, none => .error (Kind.traitUse.malformed "missing trait list")
  | some owner, some names =>
      if f.registry.hasClass owner then
        let traits := names.childNodes.filterMap s.resolveClass?
        .ok (s, (f.modifyClass owner (traits.foldl ClassLike.addTrait ·)).count .traits)
      else .error (.refused (.unknownClass owner))

/-! ### Methods -/

/-- The name of constructors. -/
def constructorName : String := "__construct"

/-- The name of the method that is run when an object is called. -/
def invokeName : String := "__invoke"

/-- The class once a method of a name is declared in it: a constructor asks for a call of the
parent's, and a method for calls makes its objects callable. -/
def ClassLike.withMethodNamed (c : ClassLike) (name : String) : ClassLike :=
  if eqIgnoreAsciiCase name constructorName then c.requireParentCall
  else if eqIgnoreAsciiCase name invokeName then c.markCallable
  else c

/-- The method that a node describes. Its parameters are not counted. -/
def Scope.methodFrom (s : Scope) (options : Options) (node : Node) (identity : Fqsen)
    (name : String) : FunctionLike where
  fqsen := identity
  name := name
  location := s.locate node.range
  doc := .ofText? node.doc
  returnType := (DocBlock.ofText? node.doc).returnType
  modifiers := .ofWord node.flags
  isConditional := s.marksConditional options

/-- The declaration of a method. -/
def declareMethod (options : Options) (node : Node) (s : Scope) (f : Findings) :
    Except Issue (Scope × Findings) :=
  match node.childName? 0 with
  | none => .error (Kind.methodDecl.malformed "missing method name")
  | some name => do
      let identity ← s.newIdentity f.registry name .method
      match identity.owner? with
      | none => .error (.methodOutsideClass name)
      | some owner =>
          let f' ← f.addMethod (s.methodFrom options node identity name)
          return ((s.enterFunction identity).withRange node.range,
            f'.modifyClass owner (·.withMethodNamed name))

end PhpIndex
