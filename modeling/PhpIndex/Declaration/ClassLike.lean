import PhpIndex.Declaration.Member
import PhpIndex.DocBlock
import PhpIndex.Fqsen

/-!
Classes, interfaces and traits.

* `ClassLike`: one record for all three, told apart by its flags;
* `ConstructorState`: what is known of a call of the parent's constructor;
* `ClassLike.addTrait`, `addMethod`, `addProperty`, `addConstant`: the class with one more member,
  where a trait counts once and a property or constant takes the place of one of the same
  name;
* `ClassLike.requireParentCall`, `noteParentCall`: how the constructor state changes, with
  `requireParentCall_noteParentCall` saying that a call once seen is not forgotten;
* `ClassLike.markCallable`: the class whose objects can be called.
-/

namespace PhpIndex

/-- What is known of a call of the parent's constructor. -/
inductive ConstructorState where
  /-- No constructor is declared, so there is no call to be asked for. -/
  | notRequired
  /-- A constructor is declared and no call has been seen. -/
  | notCalled
  /-- A call has been seen. -/
  | called
deriving DecidableEq

/-- A class, interface or trait. -/
structure ClassLike where
  fqsen : Fqsen
  /-- The name as it is declared. -/
  name : String
  location : Location := {}
  doc : DocBlock := .empty
  /-- The type of its objects: its own name, and `callable` if they can be called. -/
  type : UnionType
  flags : ClassFlags := {}
  /-- Whether it is declared in a branch. -/
  isConditional : Bool := false
  parent? : Option Fqsen := none
  interfaces : List Fqsen := []
  traits : List Fqsen := []
  /-- The identities of its methods in the order of their declarations. -/
  methods : List Fqsen := []
  properties : List Property := []
  constants : List ClassConstant := []
  constructorState : ConstructorState := .notRequired
deriving DecidableEq

namespace ClassLike

/-- A class without members, whose type is its name. -/
def ofName (fqsen : Fqsen) (name : String) (location : Location) (flags : ClassFlags) :
    ClassLike :=
  { fqsen := fqsen, name := name, location := location, type := .ofName name, flags := flags }

/-! ### Members -/

/-- The class using a trait; one that it uses already counts once. -/
def addTrait (c : ClassLike) (name : Fqsen) : ClassLike :=
  if name ∈ c.traits then c else { c with traits := c.traits ++ [name] }

/-- The class with one more method. -/
def addMethod (c : ClassLike) (name : Fqsen) : ClassLike :=
  { c with methods := c.methods ++ [name] }

/-- Whether the class has the method. -/
def hasMethod (c : ClassLike) (name : Fqsen) : Bool := decide (name ∈ c.methods)

/-- The class with a property, in the place of one of the same name if it has one. -/
def addProperty (c : ClassLike) (p : Property) : ClassLike :=
  { c with properties := replaceOrAppend Property.name p c.properties }

/-- The property with a name. -/
def property? (c : ClassLike) (name : String) : Option Property :=
  c.properties.find? (·.name == name)

/-- The class with a constant, in the place of one of the same name if it has one. -/
def addConstant (c : ClassLike) (k : ClassConstant) : ClassLike :=
  { c with constants := replaceOrAppend ClassConstant.name k c.constants }

/-- The constant with a name. -/
def constant? (c : ClassLike) (name : String) : Option ClassConstant :=
  c.constants.find? (·.name == name)

/-! ### Constructors and calls -/

/-- The class once a constructor is declared in it, which asks for a call of the parent's unless
one has been seen. -/
def requireParentCall (c : ClassLike) : ClassLike :=
  match c.constructorState with
  | .notRequired => { c with constructorState := .notCalled }
  | .notCalled | .called => c

/-- The class once a call of the parent's constructor has been seen in it. -/
def noteParentCall (c : ClassLike) : ClassLike := { c with constructorState := .called }

/-- Whether no call of the parent's constructor is missing. -/
def isParentCallSettled (c : ClassLike) : Bool := decide (c.constructorState ≠ .notCalled)

/-- The class whose objects can be called. -/
def markCallable (c : ClassLike) : ClassLike := { c with type := c.type.add "callable" }

/-- Whether an interface is declared. -/
def isInterface (c : ClassLike) : Bool := c.flags.isInterface

/-- Whether a trait is declared. -/
def isTrait (c : ClassLike) : Bool := c.flags.isTrait

/-- A call that has been seen is not forgotten when a constructor follows. -/
theorem requireParentCall_noteParentCall (c : ClassLike) :
    c.noteParentCall.requireParentCall = c.noteParentCall := rfl

/-- A property or constant never occurs twice. -/
theorem property_names_addProperty (c : ClassLike) (p : Property) :
    (c.addProperty p).properties.map (·.name) =
      if p.name ∈ c.properties.map (·.name) then c.properties.map (·.name)
      else c.properties.map (·.name) ++ [p.name] :=
  keys_replaceOrAppend Property.name p c.properties

end ClassLike

end PhpIndex
