import PhpIndex.Tree.Kind
import PhpIndex.Location

/-!
Syntax trees of source units.

* `Node`: a kind, a flag word, lines, a doc comment and children, whose meaning depends on the
  kind;
* `Child`: a subtree, a literal or an empty slot;
* `Node.child?`, `Node.childNode?`, `Node.childText?`: what stands at a place among the
  children, which in a malformed tree may be missing; `Node.childNode?_eq_some_iff`,
  `childText?_eq_some_iff`, `childName?_eq_some_iff`, `childOfKind?_eq_some_iff`: what must stand
  there;
* `Node.size`: the number of nodes of a tree, with `Node.size_eq` as a sum over the subtrees;
* `Node.inductionOn`: a property of all trees follows from the subtrees of each.
-/

namespace PhpIndex

mutual

/-- A node of a syntax tree. -/
structure Node where
  kind : Kind
  /-- A word of flags, whose meaning depends on the kind. -/
  flags : Nat := 0
  /-- The first line, counted from one; zero if it is not known. -/
  line : Nat := 0
  endLine : Option Nat := none
  /-- The doc comment before the node. -/
  doc : Option String := none
  children : List Child := []

/-- What stands at a place among the children of a node. -/
inductive Child where
  | node (n : Node)
  | str (s : String)
  | int (n : Int)
  /-- A number in the 64 bits of its floating point form. -/
  | float (bits : UInt64)
  /-- Nothing, as where a class extends no other. -/
  | empty

end

namespace Child

/-- The subtree in a slot. -/
def node? : Child → Option Node
  | node n => some n
  | _ => none

/-- The string in a slot. -/
def text? : Child → Option String
  | str s => some s
  | _ => none

/-- Whether nothing is in the slot. -/
def isEmpty : Child → Bool
  | empty => true
  | _ => false

/-- A subtree that may be missing. -/
def ofNode? : Option Node → Child
  | none => empty
  | some n => node n

end Child

namespace Node

/-- What stands at a place among the children. -/
def child? (n : Node) (i : Nat) : Option Child := n.children[i]?

/-- The subtree at a place among the children. -/
def childNode? (n : Node) (i : Nat) : Option Node := (n.child? i).bind Child.node?

/-- The string at a place among the children. -/
def childText? (n : Node) (i : Nat) : Option String := (n.child? i).bind Child.text?

/-- The string at a place among the children, unless it is empty. -/
def childName? (n : Node) (i : Nat) : Option String := (n.childText? i).filter (· ≠ "")

/-- The subtrees among the children. -/
def childNodes (n : Node) : List Node := n.children.filterMap Child.node?

/-- The subtree at a place among the children, if it is of the kind. -/
def childOfKind? (n : Node) (i : Nat) (kind : Kind) : Option Node :=
  (n.childNode? i).filter (·.kind = kind)

theorem childNode?_eq_some_iff {n m : Node} {i : Nat} :
    n.childNode? i = some m ↔ n.child? i = some (.node m) := by
  rw [childNode?, Option.bind_eq_some_iff]
  constructor
  · rintro ⟨c, hc, hnode⟩
    cases c with
    | node m' =>
        obtain rfl := Option.some.inj hnode
        exact hc
    | _ => cases hnode
  · exact fun h => ⟨_, h, rfl⟩

theorem childText?_eq_some_iff {n : Node} {i : Nat} {text : String} :
    n.childText? i = some text ↔ n.child? i = some (.str text) := by
  rw [childText?, Option.bind_eq_some_iff]
  constructor
  · rintro ⟨c, hc, htext⟩
    cases c with
    | str s =>
        obtain rfl := Option.some.inj htext
        exact hc
    | _ => cases htext
  · exact fun h => ⟨_, h, rfl⟩

theorem childName?_eq_some_iff {n : Node} {i : Nat} {name : String} :
    n.childName? i = some name ↔ n.child? i = some (.str name) ∧ name ≠ "" := by
  rw [childName?, Option.filter_eq_some_iff, childText?_eq_some_iff, decide_eq_true_iff]

theorem childOfKind?_eq_some_iff {n m : Node} {i : Nat} {kind : Kind} :
    n.childOfKind? i kind = some m ↔ n.child? i = some (.node m) ∧ m.kind = kind := by
  rw [childOfKind?, Option.filter_eq_some_iff, childNode?_eq_some_iff, decide_eq_true_iff]

/-- The lines of the node. -/
def range (n : Node) : LineRange := { first := n.line, last := n.endLine }

/-- The node with a subtree after its other children. -/
def withChild (n : Node) (child : Child) : Node := { n with children := n.children ++ [child] }

/-! ### Size -/

mutual

/-- The number of nodes of a tree. -/
def size : Node → Nat
  | { children, .. } => 1 + sizeAll children
termination_by structural n => n

/-- The number of nodes in some slots. -/
def sizeAll : List Child → Nat
  | [] => 0
  | .node n :: rest => size n + sizeAll rest
  | _ :: rest => sizeAll rest
termination_by structural children => children

end

theorem sizeAll_eq (children : List Child) :
    sizeAll children = ((children.filterMap Child.node?).map size).foldr (· + ·) 0 := by
  induction children with
  | nil => rfl
  | cons c rest ih =>
      cases c <;> simp [sizeAll, Child.node?, ih, List.filterMap_cons]

/-- A tree has one node more than its subtrees together. -/
theorem size_eq (n : Node) : n.size = 1 + (n.childNodes.map size).foldr (· + ·) 0 := by
  cases n
  simp [size, sizeAll_eq, childNodes]

/-! ### Induction -/

/-- A property holds of every tree once each tree inherits it from its subtrees. -/
@[elab_as_elim]
theorem inductionOn {P : Node → Prop} (n : Node)
    (h : ∀ n : Node, (∀ m ∈ n.childNodes, P m) → P n) : P n :=
  Node.rec (motive_1 := P) (motive_2 := fun c => ∀ m, c.node? = some m → P m)
    (motive_3 := fun cs => ∀ m ∈ cs.filterMap Child.node?, P m)
    (fun kind flags line endLine doc children ih =>
      h ⟨kind, flags, line, endLine, doc, children⟩ ih)
    (fun n ih m hm => by
      cases hm
      exact ih)
    (fun _ m hm => by simp [Child.node?] at hm)
    (fun _ m hm => by simp [Child.node?] at hm)
    (fun _ m hm => by simp [Child.node?] at hm)
    (fun m hm => by simp [Child.node?] at hm)
    (fun m hm => by simp at hm)
    (fun c rest ihc ihrest m hm => by
      rw [List.filterMap_cons] at hm
      split at hm
      · exact ihrest m hm
      · rename_i b hb
        rcases List.mem_cons.mp hm with rfl | hm'
        · exact ihc _ hb
        · exact ihrest m hm')
    n

end Node

end PhpIndex
