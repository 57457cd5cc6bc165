import PhpIndex.Options
import PhpIndex.Typing
import PhpIndex.Walk.Findings

/-!
The properties and constants of classes, which are declared in groups.

* `docTypeOf?`: the type that the doc comments of a group and of an element give a property;
* `declaredTypeOf?`: the type recorded as declared, where a default value of `null` adds `null`;
* `typeMismatch?`: the issue of a doc comment that disagrees with the default value;
* `constantName?`, `constantName?_eq_some_iff`: the name of a constant;
* `declareProperties`, `declareConstants`: the findings after a group. An element without a name
  is reported and does not keep the others from being declared.
-/

namespace PhpIndex

/-- The line of an element, or that of its group if the element's is not known. -/
def elementLine (element group : Node) : Nat :=
  if element.line = 0 then group.line else element.line

/-- What stands in the second slot of an element. -/
def elementValue (element : Node) : Child := (element.child? 1).getD .empty

/-! ### Types of properties -/

/-- The type that doc comments give the property `name` at the place `index` of its group. The
comment of the group goes before that of the element, and a tag without a type gives none. -/
def docTypeOf? (group element : DocBlock) (index : Nat) (name : String) : Option UnionType :=
  (((group.variableFor? index name).or (element.variableFor? 0 name)).map (·.type)).filter
    (! ·.isUnknown)

/-- The type that is recorded as declared. -/
def declaredTypeOf? (docType : Option UnionType) (inferred : UnionType) : Option UnionType :=
  docType.map fun type => if inferred.isNull then type.merge (.ofName "null") else type

/-- The issue of a doc comment that gives another type than that of the default value. A default
value of `null` or of unknown type agrees with every comment. -/
def typeMismatch? (options : Options) (name : String) (docType : Option UnionType)
    (inferred : UnionType) : Option Issue :=
  docType.bind fun type =>
    if options.checksDocTypes && !inferred.isNull && !inferred.isUnknown
        && !inferred.isEquivalentTo type then
      some (.typeMismatch name type.text inferred.text)
    else none

/-! ### Properties -/

/-- The type that doc comments give an element of a group of properties. -/
def elementDocType? (group element : Node) (index : Nat) (name : String) : Option UnionType :=
  docTypeOf? (.ofText? group.doc) (.ofText? element.doc) index name

/-- The property that an element describes. -/
def Scope.propertyFrom (s : Scope) (group element : Node) (index : Nat) (name : String) :
    Property where
  name := name
  inferred := s.typeOf (elementValue element)
  declared := declaredTypeOf? (elementDocType? group element index name)
    (s.typeOf (elementValue element))
  modifiers := .ofWord group.flags
  location := s.locate element.range

/-- The declaration of the properties of a group in the class `owner`, each element with its place
among them. If the class is not registered the first property is refused and ends the group. -/
def declareElements (options : Options) (group : Node) (s : Scope) (owner : Fqsen) :
    List (Node × Nat) → Findings → Findings
  | [], f => f
  | (element, index) :: rest, f =>
      let line := elementLine element group
      match element.childName? 0 with
      | none =>
          declareElements options group s owner rest
            (f.note s line (Kind.propertyElem.malformed "missing property name"))
      | some name =>
          let f' := f.noteIfAny s line <|
            typeMismatch? options name (elementDocType? group element index name)
              (s.typeOf (elementValue element))
          if f.registry.hasClass owner then
            declareElements options group s owner rest
              (f'.modifyClass owner (·.addProperty (s.propertyFrom group element index name)))
          else f'.note s group.line (.refused (.unknownClass owner))

/-- The findings after a group of properties. -/
def declareProperties (options : Options) (group : Node) (s : Scope) (f : Findings) : Findings :=
  match s.class? with
  | none => f.note s group.line .propertyOutsideClass
  | some owner =>
      declareElements options group s owner
        (group.childNodes.filter (·.kind = .propertyElem)).zipIdx f

/-! ### Constants -/

/-- The name of a constant; a node that is no element of a group of constants has none. -/
def constantName? (element : Node) : Option String :=
  if element.kind = .constantElem then element.childText? 0 else none

/-- It is the text in the first slot of an element, and may be empty. -/
theorem constantName?_eq_some_iff {element : Node} {name : String} :
    constantName? element = some name ↔
      element.kind = .constantElem ∧ element.child? 0 = some (.str name) := by
  rw [constantName?, Option.ite_none_right_eq_some, Node.childText?_eq_some_iff]

/-- The constant that an element describes. -/
def Scope.constantFrom (s : Scope) (group element : Node) (name : String) : ClassConstant where
  name := name
  type := s.typeOf (elementValue element)
  modifiers := .ofWord group.flags
  location := s.locate element.range

/-- The declaration of the constants of a group in the class `owner`. If the class is not
registered the first constant is refused and ends the group. -/
def declareConstantElements (group : Node) (s : Scope) (owner : Fqsen) :
    List Node → Findings → Findings
  | [], f => f
  | element :: rest, f =>
      match constantName? element with
      | none =>
          declareConstantElements group s owner rest
            (f.note s (elementLine element group)
              (Kind.constantElem.malformed "missing constant name"))
      | some name =>
          if f.registry.hasClass owner then
            declareConstantElements group s owner rest
              (f.modifyClass owner (·.addConstant (s.constantFrom group element name)))
          else f.note s group.line (.refused (.unknownClass owner))

/-- The findings after a group of class constants. -/
def declareConstants (group : Node) (s : Scope) (f : Findings) : Findings :=
  match s.class? with
  | none => f.note s group.line .constantOutsideClass
  | some owner => declareConstantElements group s owner group.childNodes f

end PhpIndex
