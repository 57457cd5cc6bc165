import PhpIndex.Issue
import PhpIndex.Options
import PhpIndex.Scope.Basic
import PhpIndex.SourceFiles
import PhpIndex.Tree.Node

/-!
Expressions that version 7 of the language reads in another order than the versions before it,
unless braces in the source say how their parts belong together.

* `Node.ambiguousExpression?`: the written form of such an expression, as `$$a[]`, `$a->$b[]` or
  `A::$b[]()`;
* `Node.innermost`: the end of a chain of subtrees, each the first child of the one before, with
  `Node.innermost_eq` as its equation;
* `isGrouped`: whether a line of source has the braces;
* `Scope.compatibilityIssue?`: the issue of a node, if its line can be read and lacks the braces.
-/

namespace PhpIndex

namespace Node

/-! ### Ambiguous expressions -/

mutual

/-- The end of the chain that goes from a node to its first child as long as that is a node, and
the number of nodes on the way, both ends included. -/
def innermost : Node → Nat × Node
  | n@{ children, .. } =>
      match innermostOfFirst children with
      | none => (1, n)
      | some (length, last) => (length + 1, last)
termination_by structural n => n

/-- The same from the first of some slots, if a node is in it. -/
def innermostOfFirst : List Child → Option (Nat × Node)
  | .node n :: _ => some (innermost n)
  | _ => none
termination_by structural children => children

end

/-- The chain goes on from the first child and is one node longer than the chain from there. -/
theorem innermost_eq (n : Node) :
    n.innermost = match n.childNode? 0 with
      | none => (1, n)
      | some m => (m.innermost.1 + 1, m.innermost.2) := by
  obtain ⟨kind, flags, line, endLine, doc, children⟩ := n
  cases children with
  | nil => rfl
  | cons c rest => cases c <;> rfl

/-- The string in the first slot of a node, empty if there is none. -/
def nameText (n : Node) : String := (n.childText? 0).getD ""

/-- A chain of variables that name each other, as in `$$a`: a dollar sign for each and the name
that the last one holds. -/
def indirectName (outermost : Node) : String :=
  let (length, last) := outermost.innermost
  "".pushn '$' length ++ last.nameText

/-- The element of an array that a variable names, as `$$a[]`, or that a variable property is, as
`$a->$b[]`. -/
def ambiguousElement? (base : Node) : Option String :=
  match base.kind with
  | .var => (base.childNode? 0).map fun _ => base.indirectName ++ "[]"
  | .prop =>
      match base.childOfKind? 0 .var, base.childOfKind? 1 .var with
      | some object, some property =>
          some ("$" ++ object.nameText ++ "->$" ++ property.nameText ++ "[]")
      | _, _ => none
  | _ => none

/-- The call of an element of a variable class property, as `A::$b[]()`. -/
def ambiguousCall? (callee : Node) : Option String :=
  ((callee.childOfKind? 0 .staticProp).bind fun base =>
    (base.childOfKind? 1 .var).map fun property =>
      ((base.childNode? 0).map nameText).getD "" ++ "::$" ++ property.nameText ++ "[]()")

/-- The written form of an expression that is read in different orders. -/
def ambiguousExpression? (n : Node) : Option String :=
  match n.kind with
  | .dim => (n.childNode? 0).bind ambiguousElement?
  | .call => (n.childOfKind? 0 .dim).bind ambiguousCall?
  | _ => none

end Node

/-! ### The issue of a node -/

/-- Whether a line has braces, which say how the parts of an expression belong together. -/
def isGrouped (line : String) : Bool := line.toList.contains '\x7b' && line.toList.contains '\x7d'

/-- The issue of an ambiguous expression in the file of the scope. A line that cannot be read
raises none. -/
def Scope.compatibilityIssue? (s : Scope) (options : Options) (files : SourceFiles)
    (node : Node) : Option Issue :=
  if options.checksCompatibility then
    node.ambiguousExpression?.bind fun expression =>
      match files.readLine s.file node.line with
      | .ok (some line) => if isGrouped line then none else some (.ambiguousExpression expression)
      | .ok none | .error _ => none
  else none

end PhpIndex
