import Mathlib.Tactic.Common
import PhpIndex.Proofs.Walk.Course

/-!
The nodes of a walk with the nodes around them.

* `Lineage`, `lineages`, `lineagesAll`: the moments of a walk, each with the moments of the nodes
  around its node; without these they are the moments of the walk (`lineages_toMoment`);
* `nearest?`: the nearest of the nodes around a node that has one of some kinds;
* `lineages_inherit`: what a scope owes to the nodes around it is passed on from each node to those
  below, whatever the siblings before them have left behind;
* `Lineage.Rooted`, `rooted_of_mem_lineages`: the nodes around a node lead up to the root of the
  tree, each a child of the next;
* `mem_moments_of_mem_around`: they have been visited themselves.
-/

namespace PhpIndex

/-- A moment of a walk with those of the nodes around its node, the nearest first. -/
structure Lineage (σ : Type) extends Moment σ where
  around : List (Moment σ)

/-- The nearest of the nodes around a node that has one of some kinds. -/
def nearest? {σ : Type} (around : List (Moment σ)) (kinds : List Kind) : Option (Moment σ) :=
  around.find? (·.node.kind ∈ kinds)

section

variable {σ : Type} {m : Moment σ} {kinds : List Kind}

lemma nearest?_of_mem (h : m.node.kind ∈ kinds) (around : List (Moment σ)) :
    nearest? (m :: around) kinds = some m :=
  List.find?_cons_of_pos (decide_eq_true h)

lemma nearest?_of_notMem (h : m.node.kind ∉ kinds) (around : List (Moment σ)) :
    nearest? (m :: around) kinds = nearest? around kinds :=
  List.find?_cons_of_neg (by simpa using h)

lemma kind_mem_of_nearest? {around : List (Moment σ)} (h : nearest? around kinds = some m) :
    m.node.kind ∈ kinds := by
  simpa using List.find?_some h

/-- The nearest of some kinds is also the nearest of fewer kinds if it has one of these, and where
there is none of more kinds there is none of fewer. -/
lemma nearest?_of_subset {more : List Kind} {around : List (Moment σ)} (hsub : kinds ⊆ more)
    (h : ∀ m, nearest? around more = some m → m.node.kind ∈ kinds) :
    nearest? around kinds = nearest? around more := by
  induction around with
  | nil => rfl
  | cons a around ih =>
      by_cases hmore : a.node.kind ∈ more
      · rw [nearest?_of_mem hmore]
        exact nearest?_of_mem (h a (nearest?_of_mem hmore around)) around
      · rw [nearest?_of_notMem hmore] at h ⊢
        rw [nearest?_of_notMem fun hkinds => hmore (hsub hkinds), ih h]

end

section

variable {σ : Type} (visit : Visitor σ)

mutual

/-- The lineages in the walk of a tree with some nodes around it. -/
def lineages : Node → List (Moment σ) → Scope → σ → List (Lineage σ)
  | n@{ children, .. }, around, s, st =>
      ⟨⟨⟨n, s⟩, st⟩, around⟩ :: match visit n s st with
        | (.skip _, _) => []
        | (.descend s', st') => lineagesAll children (⟨⟨n, s⟩, st⟩ :: around) s' st'
termination_by structural n => n

/-- The lineages in the walk of the subtrees in a row of slots. -/
def lineagesAll : List Child → List (Moment σ) → Scope → σ → List (Lineage σ)
  | [], _, _, _ => []
  | .node n :: rest, around, s, st =>
      let (left, st') := walk visit n s st
      lineages n around s st ++ lineagesAll rest around (s.after n.kind left) st'
  | _ :: rest, around, s, st => lineagesAll rest around s st
termination_by structural children => children

end

/-- Below a node its moment is the nearest. -/
theorem lineages_eq (n : Node) (around : List (Moment σ)) (s : Scope) (st : σ) :
    lineages visit n around s st = ⟨⟨⟨n, s⟩, st⟩, around⟩ :: match visit n s st with
      | (.skip _, _) => []
      | (.descend s', st') => lineagesAll visit n.children (⟨⟨n, s⟩, st⟩ :: around) s' st' := by
  obtain ⟨kind, flags, line, endLine, doc, children⟩ := n
  rfl

@[simp] theorem lineagesAll_nil (around : List (Moment σ)) (s : Scope) (st : σ) :
    lineagesAll visit [] around s st = [] := rfl

@[simp] theorem lineagesAll_node (n : Node) (rest : List Child) (around : List (Moment σ))
    (s : Scope) (st : σ) :
    lineagesAll visit (.node n :: rest) around s st =
      lineages visit n around s st ++
        lineagesAll visit rest around (s.after n.kind (walk visit n s st).1)
          (walk visit n s st).2 := rfl

/-- What is no subtree gives no lineage. -/
theorem lineagesAll_leaf {c : Child} (h : c.node? = none) (rest : List Child)
    (around : List (Moment σ)) (s : Scope) (st : σ) :
    lineagesAll visit (c :: rest) around s st = lineagesAll visit rest around s st := by
  cases c <;> first | rfl | simp [Child.node?] at h

/-- Without the nodes around them the lineages of a walk are its moments. -/
theorem lineages_toMoment :
    (∀ n around s st,
      (lineages visit n around s st).map Lineage.toMoment = moments visit n s st) ∧
      ∀ cs around s st,
        (lineagesAll visit cs around s st).map Lineage.toMoment = momentsAll visit cs s st := by
  refine Node.inductionOnRows ?_ ?_ ?_ ?_
  · intro n row around s st
    rw [lineages_eq, moments_eq]
    rcases visit n s st with ⟨_ | _, _⟩
    · simp [row]
    · simp
  · simp
  · intro n rest tree row around s st
    simp [tree, row]
  · intro c rest h row around s st
    rw [lineagesAll_leaf visit h, momentsAll_leaf visit h, row]

/-! ### What is passed on -/

/-- What a scope owes to the nodes around it holds of all scopes below once each node passes it on
to the scope below it, and the names that a sibling leaves behind do not matter. The nodes may be
known to be `good`. -/
theorem lineages_inherit (good : Moment σ → Prop) (holds : List (Moment σ) → Scope → Prop)
    (after : ∀ {around s} kind left, holds around s → holds around (Scope.after s kind left))
    (descend : ∀ {around} {m : Moment σ} {s' st'}, good m → holds around m.scope →
      visit m.node m.scope m.state = (.descend s', st') → holds (m :: around) s') :
    (∀ n around s st, (∀ m ∈ moments visit n s st, good m) → holds around s →
      ∀ ℓ ∈ lineages visit n around s st, holds ℓ.around ℓ.scope) ∧
      ∀ cs around s st, (∀ m ∈ momentsAll visit cs s st, good m) → holds around s →
        ∀ ℓ ∈ lineagesAll visit cs around s st, holds ℓ.around ℓ.scope := by
  refine Node.inductionOnRows ?_ ?_ ?_ ?_
  · intro n row around s st hgood h
    rw [moments_eq, List.forall_mem_cons] at hgood
    rw [lineages_eq, List.forall_mem_cons]
    refine ⟨h, ?_⟩
    rcases hv : visit n s st with ⟨s' | s', st'⟩
    · rw [hv] at hgood
      exact row _ s' st' hgood.2 (descend hgood.1 h hv)
    · exact fun _ hℓ => nomatch hℓ
  · exact fun _ _ _ _ _ _ hℓ => nomatch hℓ
  · intro n rest tree row around s st hgood h
    rw [momentsAll_node, List.forall_mem_append] at hgood
    rw [lineagesAll_node, List.forall_mem_append]
    exact ⟨tree around s st hgood.1 h, row around _ _ hgood.2 (after _ _ h)⟩
  · intro c rest hc row around s st hgood h
    rw [momentsAll_leaf visit hc] at hgood
    rw [lineagesAll_leaf visit hc]
    exact row around s st hgood h

/-! ### The way up -/

variable {visit}

/-- Whether the moments lead up to that of the root, each node a child of the next. -/
structure Lineage.Rooted (root : Moment σ) (ℓ : Lineage σ) : Prop where
  linked : (ℓ.toMoment :: ℓ.around).IsChain fun m above => m.node ∈ above.node.childNodes
  ends : (ℓ.toMoment :: ℓ.around).getLast? = some root

/-- Below nodes that lead up to the root all nodes do so. -/
theorem rooted_of_mem_lineages {root : Moment σ} :
    (∀ n around s st, Lineage.Rooted root ⟨⟨⟨n, s⟩, st⟩, around⟩ →
      ∀ ℓ ∈ lineages visit n around s st, ℓ.Rooted root) ∧
      ∀ cs (above : Moment σ) around s st, Lineage.Rooted root ⟨above, around⟩ →
        (∀ n ∈ cs.filterMap Child.node?, n ∈ above.node.childNodes) →
        ∀ ℓ ∈ lineagesAll visit cs (above :: around) s st, ℓ.Rooted root := by
  refine Node.inductionOnRows ?_ ?_ ?_ ?_
  · intro n row around s st h
    rw [lineages_eq, List.forall_mem_cons]
    refine ⟨h, ?_⟩
    rcases visit n s st with ⟨s' | s', st'⟩
    · exact row _ around s' st' h fun _ hm => hm
    · exact fun _ hℓ => nomatch hℓ
  · exact fun _ _ _ _ _ _ _ hℓ => nomatch hℓ
  · intro n rest tree row above around s st h hsub
    rw [List.filterMap_cons_some (by rfl), List.forall_mem_cons] at hsub
    rw [lineagesAll_node, List.forall_mem_append]
    refine ⟨tree _ s st ⟨?_, ?_⟩, row above around _ _ h hsub.2⟩
    · exact List.isChain_cons_cons.mpr ⟨hsub.1, h.linked⟩
    · rw [List.getLast?_cons_cons]
      exact h.ends
  · intro c rest hc row above around s st h hsub
    rw [List.filterMap_cons_none hc] at hsub
    rw [lineagesAll_leaf visit hc]
    exact row above around s st h hsub

/-- The nodes around a node have been visited in the same walk, but for those around its root. -/
theorem mem_moments_of_mem_around :
    (∀ n around s st, ∀ ℓ ∈ lineages visit n around s st, ∀ m ∈ ℓ.around,
      m ∈ around ∨ m ∈ moments visit n s st) ∧
      ∀ cs around s st, ∀ ℓ ∈ lineagesAll visit cs around s st, ∀ m ∈ ℓ.around,
        m ∈ around ∨ m ∈ momentsAll visit cs s st := by
  refine Node.inductionOnRows ?_ ?_ ?_ ?_
  · intro n row around s st
    rw [lineages_eq, moments_eq, List.forall_mem_cons]
    refine ⟨fun m hm => .inl hm, ?_⟩
    rcases visit n s st with ⟨s' | s', st'⟩
    · intro ℓ hℓ m hm
      rcases row _ s' st' ℓ hℓ m hm with hm | hm
      · rcases List.mem_cons.mp hm with rfl | hm
        · exact .inr List.mem_cons_self
        · exact .inl hm
      · exact .inr (List.mem_cons_of_mem _ hm)
    · exact fun _ hℓ => nomatch hℓ
  · exact fun _ _ _ _ hℓ => nomatch hℓ
  · intro n rest tree row around s st
    rw [lineagesAll_node, momentsAll_node, List.forall_mem_append]
    constructor
    · intro ℓ hℓ m hm
      exact (tree around s st ℓ hℓ m hm).imp_right (List.mem_append_left _)
    · intro ℓ hℓ m hm
      exact (row around _ _ ℓ hℓ m hm).imp_right (List.mem_append_right _)
  · intro c rest hc row around s st
    rw [lineagesAll_leaf visit hc, momentsAll_leaf visit hc]
    exact row around s st

end

end PhpIndex
