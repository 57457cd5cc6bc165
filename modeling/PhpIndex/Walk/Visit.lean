import PhpIndex.Compatibility
import PhpIndex.Walk.Functions
import PhpIndex.Walk.Importing
import PhpIndex.Walk.Members
import PhpIndex.Walk.Traversal

/-!
What is done at each node of a source unit.

* `enterOrSkip`: the walk goes on in the scope of a declaration; one that fails is reported, and
  what is below it is passed over;
* `Scope.check`: the findings after the compatibility check of a node;
* `visit`: the visitor that registers all declarations of a unit.
-/

namespace PhpIndex

/-- How the walk goes on at a declaration, with the findings. -/
def enterOrSkip (node : Node) (s : Scope) (f : Findings) :
    Except Issue (Scope × Findings) → Flow × Findings
  | .ok (s', f') => (.descend s', f')
  | .error issue => (.skip s, f.note s node.line issue)

variable (options : Options) (files : SourceFiles)

/-- The findings after the compatibility check of a node. -/
def Scope.check (node : Node) (s : Scope) (f : Findings) : Findings :=
  f.noteIfAny s node.line (s.compatibilityIssue? options files node)

/-- The findings after a call of what an expression gives. -/
def visitCall (node : Node) (s : Scope) (f : Findings) : Findings :=
  if node.readsArguments then noteArgumentReader s f else s.check options files node f

/-- The findings after a call of a class's method. -/
def visitStaticCall (node : Node) (s : Scope) (f : Findings) : Findings :=
  s.check options files node <|
    if node.callsParentConstructor then noteParentConstructorCall s f else f

/-- What is done at a node. Imports and declarations change the scope, calls tell something about
the declarations around them, and most other nodes only lead to their subtrees. -/
def visit : Visitor Findings := fun node s f =>
  match node.kind with
  | .namespaceDecl => (.descend (s.enterNamespace ((node.childText? 0).getD "")), f)
  | .useDecl => enterOrSkip node s f ((s.afterUse node).map (·, f))
  | .groupUse =>
      match s.afterGroupUse node with
      | .ok s' => (.skip s', f)
      | .error issue => (.skip s, f.note s node.line issue)
  | .classDecl => enterOrSkip node s f (declareClass options node s f)
  | .traitUse => enterOrSkip node s f (useTraits node s f)
  | .methodDecl => enterOrSkip node s f (declareMethod options node s f)
  | .functionDecl => enterOrSkip node s f (declareFunction options node s f)
  | .propertyGroup => (.skip s, declareProperties options node s f)
  | .constantGroup => (.skip s, declareConstants node s f)
  | .closure => (.descend s.enterClosure, f.count .closures)
  | .ifStmt => (.descend s.enterBranch, f.count .conditionals)
  | .call => (.descend s, visitCall options files node s f)
  | .staticCall => (.descend s, visitStaticCall options files node s f)
  | .dim | .methodCall | .returnStmt | .print | .echo =>
      (.descend s, s.check options files node f)
  | _ => (.descend s, f)

end PhpIndex
