import PhpIndex.Scope.Basic
import PhpIndex.Tree.Node

/-!
The traversal of a syntax tree with a scope that follows the nesting of its nodes.

* `Visitor`: what is done at a node in a scope, with the state that the traversal threads;
* `Flow`: whether the subtrees of the node are walked, and the scope that goes on;
* `Scope.after`: what a subtree leaves behind for those that follow it. A namespace reaches all
  of them, imports only those beside the declaration that makes them, and nothing else does;
* `walk`, `walkAll`: the traversal of a tree and of a row of slots, from the left and each node
  before its subtrees;
* `Visit`, `visits`, `visitsAll`: the nodes that are visited, in order and each with its scope;
* `walk_eq`, `visits_eq`: the equations of a node; `walkAll_append`, `visitsAll_append`: a row can
  be cut anywhere.
-/

namespace PhpIndex

/-- How a walk goes on at a node. -/
inductive Flow where
  /-- The subtrees are walked, the first of them in this scope. -/
  | descend (s : Scope)
  /-- The subtrees are passed over, and this scope is left behind. -/
  | skip (s : Scope)

/-- What is done at a node in a scope, with a state that is threaded through the walk. -/
abbrev Visitor (σ : Type) := Node → Scope → σ → Flow × σ

/-- A node that a walk comes to, with the scope it has there. -/
structure Visit where
  node : Node
  scope : Scope

namespace Kind

/-- Whether what follows a node of the kind sees its imports: it is a declaration that makes
them or that ends those before it. -/
def passesImports : Kind → Bool
  | namespaceDecl | useDecl | groupUse => true
  | _ => false

end Kind

/-- The scope for what follows a subtree of some kind, from the scope that the subtree left
behind. -/
def Scope.after (s : Scope) (kind : Kind) (left : Scope) : Scope :=
  if kind.passesImports then s.adoptNames left else s.moveTo left.space

section

variable {σ : Type} (visit : Visitor σ)

mutual

/-- The walk of a tree from a scope and a state: the scope it leaves behind, and the state. -/
def walk : Node → Scope → σ → Scope × σ
  | n@{ children, .. }, s, st =>
      match visit n s st with
      | (.skip s', st') => (s', st')
      | (.descend s', st') => walkAll children s' st'
termination_by structural n => n

/-- The walk of the subtrees in a row of slots. -/
def walkAll : List Child → Scope → σ → Scope × σ
  | [], s, st => (s, st)
  | .node n :: rest, s, st =>
      let (left, st') := walk n s st
      walkAll rest (s.after n.kind left) st'
  | _ :: rest, s, st => walkAll rest s st
termination_by structural children => children

end

/-! ### Visits -/

mutual

/-- The visits in the walk of a tree. -/
def visits : Node → Scope → σ → List Visit
  | n@{ children, .. }, s, st =>
      ⟨n, s⟩ :: match visit n s st with
        | (.skip _, _) => []
        | (.descend s', st') => visitsAll children s' st'
termination_by structural n => n

/-- The visits in the walk of the subtrees in a row of slots. -/
def visitsAll : List Child → Scope → σ → List Visit
  | [], _, _ => []
  | .node n :: rest, s, st =>
      let (left, st') := walk visit n s st
      visits n s st ++ visitsAll rest (s.after n.kind left) st'
  | _ :: rest, s, st => visitsAll rest s st
termination_by structural children => children

end

/-! ### Equations -/

/-- The walk of a tree is the visit of its root and, unless they are passed over, the walk of
its subtrees. -/
theorem walk_eq (n : Node) (s : Scope) (st : σ) :
    walk visit n s st = match visit n s st with
      | (.skip s', st') => (s', st')
      | (.descend s', st') => walkAll visit n.children s' st' := by
  obtain ⟨kind, flags, line, endLine, doc, children⟩ := n
  rfl

@[simp] theorem walkAll_nil (s : Scope) (st : σ) : walkAll visit [] s st = (s, st) := rfl

@[simp] theorem walkAll_node (n : Node) (rest : List Child) (s : Scope) (st : σ) :
    walkAll visit (.node n :: rest) s st =
      walkAll visit rest (s.after n.kind (walk visit n s st).1) (walk visit n s st).2 := rfl

/-- What is no subtree changes nothing. -/
theorem walkAll_leaf {c : Child} (h : c.node? = none) (rest : List Child) (s : Scope) (st : σ) :
    walkAll visit (c :: rest) s st = walkAll visit rest s st := by
  cases c <;> first | rfl | simp [Child.node?] at h

/-- A row of slots is walked like its parts one after the other. -/
theorem walkAll_append (xs ys : List Child) (s : Scope) (st : σ) :
    walkAll visit (xs ++ ys) s st =
      walkAll visit ys (walkAll visit xs s st).1 (walkAll visit xs s st).2 := by
  induction xs generalizing s st with
  | nil => rfl
  | cons c rest ih =>
      cases c with
      | node n => exact ih _ _
      | _ => exact ih s st

/-- A node is visited before its subtrees. -/
theorem visits_eq (n : Node) (s : Scope) (st : σ) :
    visits visit n s st = ⟨n, s⟩ :: match visit n s st with
      | (.skip _, _) => []
      | (.descend s', st') => visitsAll visit n.children s' st' := by
  obtain ⟨kind, flags, line, endLine, doc, children⟩ := n
  rfl

@[simp] theorem visitsAll_nil (s : Scope) (st : σ) : visitsAll visit [] s st = [] := rfl

@[simp] theorem visitsAll_node (n : Node) (rest : List Child) (s : Scope) (st : σ) :
    visitsAll visit (.node n :: rest) s st =
      visits visit n s st ++
        visitsAll visit rest (s.after n.kind (walk visit n s st).1) (walk visit n s st).2 := rfl

/-- A row of slots is visited like its parts one after the other. -/
theorem visitsAll_append (xs ys : List Child) (s : Scope) (st : σ) :
    visitsAll visit (xs ++ ys) s st =
      visitsAll visit xs s st ++
        visitsAll visit ys (walkAll visit xs s st).1 (walkAll visit xs s st).2 := by
  induction xs generalizing s st with
  | nil => rfl
  | cons c rest ih =>
      cases c with
      | node n =>
          rw [List.cons_append, visitsAll_node, visitsAll_node, walkAll_node, ih,
            List.append_assoc]
      | _ => exact ih s st

end

end PhpIndex
