import Mathlib.Tactic.Common
import PhpIndex.Walk.Traversal

/-!
The course of a walk: the nodes it comes to one after the other, each with the scope and the
state it is visited in.

* `Node.inductionOnRows`: a property of all trees and of all rows of slots, each inherited from
  the other;
* `Moment`, `moments`, `momentsAll`: the visits of a walk with their states, which without the
  states are its visits (`moments_toVisit`);
* `Course`: each moment begins with what the one before left; `course_walk`: so do those of a
  walk, from the state it is given to the state it ends in;
* `WalkLaw`: a condition on scopes and states, and what a scope lets happen to the state, in such
  a way that one visit after the other keeps both; `WalkLaw.walk` and `WalkLaw.moments`: then a
  walk keeps them, whatever the tree.
-/

namespace PhpIndex

/-! ### Trees and rows of slots -/

/-- A property of trees and one of rows of slots hold throughout once a tree inherits it from the
row below it, and a row from its first slot and the rest. -/
theorem Node.inductionOnRows {P : Node → Prop} {Q : List Child → Prop}
    (tree : ∀ n : Node, Q n.children → P n) (nil : Q [])
    (subtree : ∀ n rest, P n → Q rest → Q (.node n :: rest))
    (leaf : ∀ c rest, c.node? = none → Q rest → Q (c :: rest)) :
    (∀ n, P n) ∧ ∀ cs, Q cs := by
  have row : ∀ cs : List Child, (∀ n ∈ cs.filterMap Child.node?, P n) → Q cs := by
    intro cs
    induction cs with
    | nil => exact fun _ => nil
    | cons c rest ih =>
        intro hall
        cases hc : c.node? with
        | none =>
            rw [List.filterMap_cons_none hc] at hall
            exact leaf c rest hc (ih hall)
        | some n =>
            rw [List.filterMap_cons_some hc, List.forall_mem_cons] at hall
            cases c with
            | node m =>
                cases hc
                exact subtree n rest hall.1 (ih hall.2)
            | _ => cases hc
  have trees : ∀ n, P n := fun n => Node.inductionOn n fun n ih => tree n (row n.children ih)
  exact ⟨trees, fun cs => row cs fun n _ => trees n⟩

/-! ### Moments -/

/-- A node that a walk comes to, with the scope and the state it has there. -/
structure Moment (σ : Type) extends Visit where
  state : σ

section

variable {σ ρ : Type} (visit : Visitor σ)

mutual

/-- The moments in the walk of a tree. -/
def moments : Node → Scope → σ → List (Moment σ)
  | n@{ children, .. }, s, st =>
      ⟨⟨n, s⟩, st⟩ :: match visit n s st with
        | (.skip _, _) => []
        | (.descend s', st') => momentsAll children s' st'
termination_by structural n => n

/-- The moments in the walk of the subtrees in a row of slots. -/
def momentsAll : List Child → Scope → σ → List (Moment σ)
  | [], _, _ => []
  | .node n :: rest, s, st =>
      let (left, st') := walk visit n s st
      moments n s st ++ momentsAll rest (s.after n.kind left) st'
  | _ :: rest, s, st => momentsAll rest s st
termination_by structural children => children

end

/-- The state that the visit of a moment leaves behind. -/
def Moment.next (m : Moment σ) : σ := (visit m.node m.scope m.state).2

/-- A node comes before its subtrees. -/
theorem moments_eq (n : Node) (s : Scope) (st : σ) :
    moments visit n s st = ⟨⟨n, s⟩, st⟩ :: match visit n s st with
      | (.skip _, _) => []
      | (.descend s', st') => momentsAll visit n.children s' st' := by
  obtain ⟨kind, flags, line, endLine, doc, children⟩ := n
  rfl

@[simp] theorem momentsAll_nil (s : Scope) (st : σ) : momentsAll visit [] s st = [] := rfl

@[simp] theorem momentsAll_node (n : Node) (rest : List Child) (s : Scope) (st : σ) :
    momentsAll visit (.node n :: rest) s st =
      moments visit n s st ++
        momentsAll visit rest (s.after n.kind (walk visit n s st).1) (walk visit n s st).2 := rfl

/-- What is no subtree gives no moment. -/
theorem momentsAll_leaf {c : Child} (h : c.node? = none) (rest : List Child) (s : Scope) (st : σ) :
    momentsAll visit (c :: rest) s st = momentsAll visit rest s st := by
  cases c <;> first | rfl | simp [Child.node?] at h

/-- The moments of a row of slots are those of its parts one after the other. -/
theorem momentsAll_append (xs ys : List Child) (s : Scope) (st : σ) :
    momentsAll visit (xs ++ ys) s st =
      momentsAll visit xs s st ++
        momentsAll visit ys (walkAll visit xs s st).1 (walkAll visit xs s st).2 := by
  induction xs generalizing s st with
  | nil => rfl
  | cons c rest ih =>
      cases hc : c.node? with
      | none =>
          rw [List.cons_append, momentsAll_leaf visit hc, momentsAll_leaf visit hc,
            walkAll_leaf visit hc, ih]
      | some n =>
          obtain rfl : c = .node n := by cases c <;> cases hc; rfl
          rw [List.cons_append, momentsAll_node, momentsAll_node, walkAll_node, ih,
            List.append_assoc]

/-- What is no subtree gives no visit. -/
theorem visitsAll_leaf {c : Child} (h : c.node? = none) (rest : List Child) (s : Scope) (st : σ) :
    visitsAll visit (c :: rest) s st = visitsAll visit rest s st := by
  cases c <;> first | rfl | simp [Child.node?] at h

/-- Without their states the moments of a walk are its visits. -/
theorem moments_toVisit :
    (∀ n s st, (moments visit n s st).map Moment.toVisit = visits visit n s st) ∧
      ∀ cs s st, (momentsAll visit cs s st).map Moment.toVisit = visitsAll visit cs s st := by
  refine Node.inductionOnRows ?_ ?_ ?_ ?_
  · intro n row s st
    rw [moments_eq, visits_eq]
    rcases visit n s st with ⟨_ | _, _⟩
    · simp [row]
    · simp
  · simp
  · intro n rest tree row s st
    simp [tree, row]
  · intro c rest h row s st
    rw [momentsAll_leaf visit h, visitsAll_leaf visit h, row]

/-! ### One moment after the other -/

/-- A row of moments leads from one value to another when the first begins with the former, each
later one begins with what the one before left, and the last leaves the latter. The values are
what `view` takes from the states. -/
def Course (view : σ → ρ) : ρ → List (Moment σ) → ρ → Prop
  | v, [], w => v = w
  | v, m :: ms, w => view m.state = v ∧ Course view (view (m.next visit)) ms w

variable {visit} {view : σ → ρ}

/-- Two courses make one when the second begins where the first ends. -/
theorem Course.append {u v w : ρ} {ms ns : List (Moment σ)} (h : Course visit view u ms v)
    (h' : Course visit view v ns w) : Course visit view u (ms ++ ns) w := by
  induction ms generalizing u with
  | nil => exact (h : u = v) ▸ h'
  | cons m ms ih => exact ⟨h.1, ih h.2⟩

/-- A course can be cut anywhere. -/
theorem Course.exists_between {u w : ρ} {ms ns : List (Moment σ)}
    (h : Course visit view u (ms ++ ns) w) :
    ∃ v, Course visit view u ms v ∧ Course visit view v ns w := by
  induction ms generalizing u with
  | nil => exact ⟨u, rfl, h⟩
  | cons m ms ih =>
      obtain ⟨v, hms, hns⟩ := ih h.2
      exact ⟨v, ⟨h.1, hms⟩, hns⟩

/-- The moments of a walk lead from the state it is given to the state it ends in. -/
theorem course_walk :
    (∀ n s st, Course visit view (view st) (moments visit n s st) (view (walk visit n s st).2)) ∧
      ∀ cs s st,
        Course visit view (view st) (momentsAll visit cs s st)
          (view (walkAll visit cs s st).2) := by
  refine Node.inductionOnRows ?_ ?_ ?_ ?_
  · intro n row s st
    rw [moments_eq, walk_eq]
    rcases hv : visit n s st with ⟨s' | s', st'⟩
    · refine ⟨rfl, ?_⟩
      rw [Moment.next, hv]
      exact row s' st'
    · refine ⟨rfl, ?_⟩
      rw [Moment.next, hv]
      rfl
  · exact fun s st => rfl
  · intro n rest tree row s st
    rw [momentsAll_node, walkAll_node]
    exact (tree s st).append (row _ _)
  · intro c rest h row s st
    rw [momentsAll_leaf visit h, walkAll_leaf visit h]
    exact row s st

/-! ### Laws of walks -/

/-- A law of walks: what `holds` of the scope and the state wherever a node is visited, and how a
scope `relates` the states before and after all that is done in it. What the scopes of a node's
subtrees relate is related by the scope of the node, too. -/
structure WalkLaw (visit : Visitor σ) where
  holds : Scope → σ → Prop
  relates : Scope → σ → σ → Prop
  refl : ∀ {s st}, relates s st st
  trans : ∀ {s a b c}, relates s a b → relates s b c → relates s a c
  /-- What is related later leaves the condition as it is. -/
  later : ∀ {s a b}, holds s a → relates s a b → holds s b
  /-- The names that a subtree leaves behind do not matter to the condition. -/
  holds_after : ∀ {s st} kind left, holds s st → holds (Scope.after s kind left) st
  /-- Nor do they matter to what is related. -/
  relates_after : ∀ {s a b} kind left, relates (Scope.after s kind left) a b → relates s a b
  skip : ∀ {n s st s' st'}, holds s st → visit n s st = (.skip s', st') → relates s st st'
  descend : ∀ {n s st s' st'}, holds s st → visit n s st = (.descend s', st') →
    holds s' st' ∧ ∀ {st''}, relates s' st' st'' → relates s st st''

namespace WalkLaw

variable (law : WalkLaw visit)

/-- The states before and after a walk are related by the scope it begins in. -/
theorem walk :
    (∀ n s st, law.holds s st → law.relates s st (walk visit n s st).2) ∧
      ∀ cs s st, law.holds s st → law.relates s st (walkAll visit cs s st).2 := by
  refine Node.inductionOnRows ?_ ?_ ?_ ?_
  · intro n row s st h
    rw [walk_eq]
    rcases hv : visit n s st with ⟨s' | s', st'⟩
    · obtain ⟨h', related⟩ := law.descend h hv
      exact related (row s' st' h')
    · exact law.skip h hv
  · exact fun s st _ => law.refl
  · intro n rest tree row s st h
    rw [walkAll_node]
    have first := tree s st h
    have h' := law.holds_after n.kind (PhpIndex.walk visit n s st).1 (law.later h first)
    exact law.trans first (law.relates_after _ _ (row _ _ h'))
  · intro c rest hc row s st h
    rw [walkAll_leaf visit hc]
    exact row s st h

/-- The condition holds wherever a node is visited. -/
theorem moments :
    (∀ n s st, law.holds s st → ∀ m ∈ moments visit n s st, law.holds m.scope m.state) ∧
      ∀ cs s st, law.holds s st →
        ∀ m ∈ momentsAll visit cs s st, law.holds m.scope m.state := by
  refine Node.inductionOnRows ?_ ?_ ?_ ?_
  · intro n row s st h m hm
    rw [moments_eq] at hm
    rcases List.mem_cons.mp hm with rfl | hm
    · exact h
    · rcases hv : visit n s st with ⟨s' | s', st'⟩ <;> rw [hv] at hm
      · exact row s' st' (law.descend h hv).1 m hm
      · cases hm
  · exact fun s st _ m hm => by cases hm
  · intro n rest tree row s st h m hm
    rw [momentsAll_node] at hm
    rcases List.mem_append.mp hm with hm | hm
    · exact tree s st h m hm
    · have later := law.later h (law.walk.1 n s st h)
      exact row _ _ (law.holds_after _ _ later) m hm
  · intro c rest hc row s st h m hm
    rw [momentsAll_leaf visit hc] at hm
    exact row s st h m hm

end WalkLaw

end

end PhpIndex
