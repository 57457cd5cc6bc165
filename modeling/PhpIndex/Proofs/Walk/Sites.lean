import Mathlib.Data.List.Lex
import Mathlib.Tactic.Common
import PhpIndex.Proofs.Walk.Course

/-!
The nodes of a walk with their sites in the tree.

* `Level`: one step of the way up from a place, the node above with the slots on either side of the
  one that the way comes from; `Level.fill`: the node above with something else in this slot;
* `Site`, `sites`, `sitesAll`: the moments of a walk with the levels above their nodes, which
  without the levels are the moments of the walk (`sites_toMoment`);
* `Reaches`, `mem_sites_iff`: the way down to a site, one visit after the other, each in the scope
  that the siblings before it have left;
* `Stands`, `Reaches.stands`: **the levels above a node lead up to the root of the tree**, and the
  node stands in the slot that they leave open;
* `Reaches.exists_above`: the way down to a site leads through the node above it;
* `pairwise_slots`: a walk comes to its nodes in the order of the tree, and to none of them twice;
* `rebuild`, `rebuild_of_stands`: a tree put together again from a node and the levels above it;
* `walkAll_inherit`: what each tree hands on to what follows it holds at the end of a row of slots.
-/

namespace PhpIndex

lemma Child.eq_node_of_node? {c : Child} {n : Node} (h : c.node? = some n) : c = .node n := by
  cases c <;> cases h
  rfl

/-! ### Levels -/

/-- One step of the way up from a place: the node above, and the slots on either side of the one
that the way comes from. -/
structure Level where
  above : Node
  before : List Child
  after : List Child

/-- The node above with something in the slot that the way comes from. -/
def Level.fill (l : Level) (c : Child) : Node :=
  { l.above with children := l.before ++ c :: l.after }

/-- The tree in which a node stands below some levels, of which the nearest comes first. -/
def rebuild : List Level → Node → Node
  | [], n => n
  | l :: rest, n => rebuild rest (l.fill (.node n))

lemma rebuild_append (inner outer : List Level) (n : Node) :
    rebuild (inner ++ outer) n = rebuild outer (rebuild inner n) := by
  induction inner generalizing n with
  | nil => rfl
  | cons l rest ih => exact ih _

/-- Whether a node stands below some levels in the tree of a root: in each of them it is the node
before that is left out. -/
def Stands (root : Node) : Node → List Level → Prop
  | n, [] => n = root
  | n, l :: rest => l.above.children = l.before ++ .node n :: l.after ∧ Stands root l.above rest

/-- A way up can be taken in two parts. -/
lemma Stands.append {root m n : Node} {inner outer : List Level} (h : Stands m n inner)
    (h' : Stands root m outer) : Stands root n (inner ++ outer) := by
  induction inner generalizing n with
  | nil => exact (show n = m from h) ▸ h'
  | cons l rest ih => exact ⟨h.1, ih h.2⟩

/-- A level is filled by what has been left out of it. -/
lemma Level.fill_eq {l : Level} {c : Child} (h : l.above.children = l.before ++ c :: l.after) :
    l.fill c = l.above := by
  obtain ⟨⟨kind, flags, line, endLine, doc, children⟩, before, after⟩ := l
  obtain rfl : children = before ++ c :: after := h
  rfl

/-- The tree is put together again from the node and the levels. -/
theorem rebuild_of_stands {root n : Node} {levels : List Level} (h : Stands root n levels) :
    rebuild levels n = root := by
  induction levels generalizing n with
  | nil => exact h
  | cons l rest ih =>
      obtain ⟨hrow, habove⟩ := h
      rw [rebuild, l.fill_eq hrow]
      exact ih habove

/-! ### Sites -/

/-- A moment of a walk with the levels above its node, the nearest first. -/
structure Site (σ : Type) extends Moment σ where
  levels : List Level

section

variable {σ : Type} (visit : Visitor σ)

mutual

/-- The sites in the walk of a tree that stands below some levels. -/
def sites : Node → List Level → Scope → σ → List (Site σ)
  | n@{ children, .. }, levels, s, st =>
      ⟨⟨⟨n, s⟩, st⟩, levels⟩ :: match visit n s st with
        | (.skip _, _) => []
        | (.descend s', st') => sitesAll children n [] levels s' st'
termination_by structural n => n

/-- The sites in the walk of the subtrees in a row of slots, which come after some others below
one node. -/
def sitesAll : List Child → Node → List Child → List Level → Scope → σ → List (Site σ)
  | [], _, _, _, _, _ => []
  | .node n :: rest, above, before, levels, s, st =>
      let (left, st') := walk visit n s st
      sites n (⟨above, before, rest⟩ :: levels) s st ++
        sitesAll rest above (before ++ [.node n]) levels (s.after n.kind left) st'
  | c :: rest, above, before, levels, s, st => sitesAll rest above (before ++ [c]) levels s st
termination_by structural children => children

end

/-- A node comes before its subtrees, with nothing before the first of them. -/
theorem sites_eq (n : Node) (levels : List Level) (s : Scope) (st : σ) :
    sites visit n levels s st = ⟨⟨⟨n, s⟩, st⟩, levels⟩ :: match visit n s st with
      | (.skip _, _) => []
      | (.descend s', st') => sitesAll visit n.children n [] levels s' st' := by
  obtain ⟨kind, flags, line, endLine, doc, children⟩ := n
  rfl

section

variable (above : Node) (before : List Child) (levels : List Level) (s : Scope) (st : σ)

@[simp] theorem sitesAll_nil : sitesAll visit [] above before levels s st = [] := rfl

@[simp] theorem sitesAll_node (n : Node) (rest : List Child) :
    sitesAll visit (.node n :: rest) above before levels s st =
      sites visit n (⟨above, before, rest⟩ :: levels) s st ++
        sitesAll visit rest above (before ++ [.node n]) levels
          (s.after n.kind (walk visit n s st).1) (walk visit n s st).2 := rfl

/-- What is no subtree gives no site but stands before those that follow. -/
theorem sitesAll_leaf {c : Child} (h : c.node? = none) (rest : List Child) :
    sitesAll visit (c :: rest) above before levels s st =
      sitesAll visit rest above (before ++ [c]) levels s st := by
  cases c <;> first | rfl | simp [Child.node?] at h

end

/-- Without the levels the sites of a walk are its moments. -/
theorem sites_toMoment :
    (∀ n levels s st, (sites visit n levels s st).map Site.toMoment = moments visit n s st) ∧
      ∀ cs above before levels s st,
        (sitesAll visit cs above before levels s st).map Site.toMoment =
          momentsAll visit cs s st := by
  refine Node.inductionOnRows ?_ ?_ ?_ ?_
  · intro n row levels s st
    rw [sites_eq, moments_eq]
    rcases visit n s st with ⟨_ | _, _⟩
    · simp [row]
    · simp
  · simp
  · intro n rest tree row above before levels s st
    simp [tree, row]
  · intro c rest h row above before levels s st
    rw [sitesAll_leaf visit above before levels s st h, momentsAll_leaf visit h, row]

/-! ### The way down -/

/-- The way from a tree that is walked down to a site. A subtree is walked in the scope and the
state that the slots before it have left. -/
inductive Reaches : Node → List Level → Scope → σ → Site σ → Prop
  | here {n : Node} {levels : List Level} {s : Scope} {st : σ} :
      Reaches n levels s st ⟨⟨⟨n, s⟩, st⟩, levels⟩
  | down {n m : Node} {levels : List Level} {s s' : Scope} {st st' : σ} {p : Site σ}
      {xs ys : List Child} (hv : visit n s st = (.descend s', st'))
      (hrow : n.children = xs ++ .node m :: ys)
      (h : Reaches m (⟨n, xs, ys⟩ :: levels) (walkAll visit xs s' st').1
        (walkAll visit xs s' st').2 p) :
      Reaches n levels s st p

variable {visit} {p : Site σ}

/-- A site in a row is one in the walk of a subtree in it. -/
lemma exists_of_mem_sitesAll {cs : List Child} {above : Node} {before : List Child}
    {levels : List Level} {s : Scope} {st : σ}
    (hp : p ∈ sitesAll visit cs above before levels s st) :
    ∃ xs m ys, cs = xs ++ .node m :: ys ∧
      p ∈ sites visit m (⟨above, before ++ xs, ys⟩ :: levels) (walkAll visit xs s st).1
        (walkAll visit xs s st).2 := by
  induction cs generalizing before s st with
  | nil => cases hp
  | cons c rest ih =>
      cases hc : c.node? with
      | none =>
          rw [sitesAll_leaf visit above before levels s st hc] at hp
          obtain ⟨xs, m, ys, rfl, hm⟩ := ih hp
          refine ⟨c :: xs, m, ys, rfl, ?_⟩
          rw [walkAll_leaf visit hc]
          simpa using hm
      | some n =>
          obtain rfl := Child.eq_node_of_node? hc
          rw [sitesAll_node, List.mem_append] at hp
          rcases hp with hp | hp
          · exact ⟨[], n, rest, rfl, by simpa using hp⟩
          · obtain ⟨xs, m, ys, rfl, hm⟩ := ih hp
            refine ⟨.node n :: xs, m, ys, rfl, ?_⟩
            rw [walkAll_node]
            simpa using hm

/-- There is a way down to each site of a walk. -/
theorem reaches_of_mem_sites {n : Node} {levels : List Level} {s : Scope} {st : σ}
    (hp : p ∈ sites visit n levels s st) : Reaches visit n levels s st p := by
  induction n using Node.inductionOn generalizing levels s st with
  | h n ih =>
      rw [sites_eq] at hp
      rcases List.mem_cons.mp hp with rfl | hp
      · exact .here
      · rcases hv : visit n s st with ⟨s' | s', st'⟩ <;> rw [hv] at hp
        · obtain ⟨xs, m, ys, hrow, hp⟩ := exists_of_mem_sitesAll hp
          have hm : m ∈ n.childNodes := by
            rw [Node.childNodes, hrow]
            simp [Child.node?]
          exact .down hv hrow (ih m hm hp)
        · cases hp

variable {n : Node} {levels : List Level} {s : Scope} {st : σ}

/-- A site in the walk of a subtree in a row is one in the row. -/
lemma mem_sitesAll {xs ys : List Child} {m above : Node} {before : List Child}
    (hp : p ∈ sites visit m (⟨above, before ++ xs, ys⟩ :: levels) (walkAll visit xs s st).1
      (walkAll visit xs s st).2) :
    p ∈ sitesAll visit (xs ++ .node m :: ys) above before levels s st := by
  induction xs generalizing before s st with
  | nil =>
      rw [List.nil_append, sitesAll_node]
      exact List.mem_append_left _ (by simpa using hp)
  | cons c rest ih =>
      rw [List.append_cons] at hp
      rw [List.cons_append]
      cases hc : c.node? with
      | none =>
          rw [walkAll_leaf visit hc] at hp
          rw [sitesAll_leaf visit above before levels s st hc]
          exact ih hp
      | some k =>
          obtain rfl := Child.eq_node_of_node? hc
          rw [walkAll_node] at hp
          rw [sitesAll_node]
          exact List.mem_append_right _ (ih hp)

/-- The sites of a walk are those to which there is a way down. -/
theorem mem_sites_iff : p ∈ sites visit n levels s st ↔ Reaches visit n levels s st p := by
  refine ⟨reaches_of_mem_sites, fun h => ?_⟩
  induction h with
  | here =>
      rw [sites_eq]
      exact List.mem_cons_self
  | down hv hrow h ih =>
      rw [sites_eq, hv, hrow]
      exact List.mem_cons_of_mem _ (mem_sitesAll ih)

/-- A way down can be taken in two parts. -/
lemma Reaches.trans {q : Site σ} (h : Reaches visit n levels s st q)
    (h' : Reaches visit q.node q.levels q.scope q.state p) : Reaches visit n levels s st p := by
  induction h with
  | here => exact h'
  | down hv hrow h ih => exact .down hv hrow (ih h')

/-- The levels above a site lead up to the tree that is walked and go on with those above the
tree. -/
theorem Reaches.stands (h : Reaches visit n levels s st p) :
    ∃ inner, p.levels = inner ++ levels ∧ Stands n p.node inner := by
  induction h with
  | here => exact ⟨[], rfl, rfl⟩
  | @down n m levels s s' st st' p xs ys hv hrow h ih =>
      obtain ⟨inner, hlevels, hstands⟩ := ih
      have hlevel : Stands n m [⟨n, xs, ys⟩] := ⟨hrow, rfl⟩
      exact ⟨inner ++ [⟨n, xs, ys⟩], by simpa using hlevels, hstands.append hlevel⟩

/-- The way down to a site leads through the node above it, of whose slots those before the site
have been walked. -/
theorem Reaches.exists_above (h : Reaches visit n levels s st p) {l : Level} {rest : List Level}
    (hlevels : p.levels = l :: rest) (hlength : levels.length < p.levels.length) :
    ∃ q : Site σ, Reaches visit n levels s st q ∧ q.node = l.above ∧ q.levels = rest ∧
      l.above.children = l.before ++ .node p.node :: l.after ∧
      ∃ s' st', visit q.node q.scope q.state = (.descend s', st') ∧
        walkAll visit l.before s' st' = (p.scope, p.state) := by
  induction h with
  | here => exact absurd hlength (Nat.lt_irrefl _)
  | @down n m levels s s' st st' p xs ys hv hrow h ih =>
      cases h with
      | here =>
          obtain ⟨rfl, rfl⟩ := List.cons.inj hlevels
          exact ⟨⟨⟨⟨n, s⟩, st⟩, levels⟩, .here, rfl, rfl, hrow, s', st', hv, rfl⟩
      | down hv' hrow' h' =>
          obtain ⟨inner, hinner, -⟩ := h'.stands
          have hlength' : (⟨n, xs, ys⟩ :: levels).length < p.levels.length := by
            simp only [hinner, List.length_append, List.length_cons]
            omega
          obtain ⟨q, hq, habove⟩ := ih hlevels hlength'
          exact ⟨q, .down hv hrow hq, habove⟩

/-! ### The order of sites -/

/-- The way down some levels, by the number of the slot that is taken in each. -/
def slots (levels : List Level) : List Nat := (levels.map (·.before.length)).reverse

lemma slots_cons (l : Level) (levels : List Level) :
    slots (l :: levels) = slots levels ++ [l.before.length] :=
  List.reverse_cons

variable (visit) in
/-- A walk comes to its nodes in the order in which they stand in the tree, and to none of them
twice. -/
theorem pairwise_slots :
    (∀ n levels s st,
      (sites visit n levels s st).Pairwise (fun p q => slots p.levels < slots q.levels) ∧
        ∀ p ∈ sites visit n levels s st, ∃ below,
          slots p.levels = slots levels ++ below) ∧
      ∀ cs above before levels s st,
        (sitesAll visit cs above before levels s st).Pairwise
            (fun p q => slots p.levels < slots q.levels) ∧
          ∀ p ∈ sitesAll visit cs above before levels s st, ∃ slot below, before.length ≤ slot ∧
            slots p.levels = slots levels ++ slot :: below := by
  refine Node.inductionOnRows ?_ ?_ ?_ ?_
  · intro n row levels s st
    rw [sites_eq, List.pairwise_cons, List.forall_mem_cons]
    rcases visit n s st with ⟨s' | s', st'⟩
    · obtain ⟨hordered, hbelow⟩ := row n [] levels s' st'
      refine ⟨⟨fun p hp => ?_, hordered⟩, ⟨[], (List.append_nil _).symm⟩, fun p hp => ?_⟩
      · obtain ⟨slot, below, -, hp⟩ := hbelow p hp
        have hlt := List.Lex.append_left (· < ·) (List.Lex.nil (a := slot) (l := below))
          (slots levels)
        rwa [List.append_nil, ← hp] at hlt
      · obtain ⟨slot, below, -, hp⟩ := hbelow p hp
        exact ⟨slot :: below, hp⟩
    · exact ⟨⟨(fun _ hp => nomatch hp), .nil⟩, ⟨[], (List.append_nil _).symm⟩,
        (fun _ hp => nomatch hp)⟩
  · exact fun _ _ _ _ _ => ⟨.nil, (fun _ hp => nomatch hp)⟩
  · intro n rest tree row above before levels s st
    rw [sitesAll_node, List.pairwise_append, List.forall_mem_append]
    obtain ⟨hordered, hbelow⟩ := tree (⟨above, before, rest⟩ :: levels) s st
    obtain ⟨hordered', hbelow'⟩ := row above (before ++ [.node n]) levels
      (s.after n.kind (walk visit n s st).1) (walk visit n s st).2
    have htree : ∀ p ∈ sites visit n (⟨above, before, rest⟩ :: levels) s st, ∃ below,
        slots p.levels = slots levels ++ before.length :: below := by
      intro p hp
      obtain ⟨below, hp⟩ := hbelow p hp
      exact ⟨below, by rw [hp, slots_cons, List.append_assoc]; rfl⟩
    simp only [List.length_append, List.length_singleton] at hbelow'
    refine ⟨⟨hordered, hordered', fun p hp q hq => ?_⟩, fun p hp => ?_, fun p hp => ?_⟩
    · obtain ⟨below, hp⟩ := htree p hp
      obtain ⟨slot, below', hslot, hq⟩ := hbelow' q hq
      rw [hp, hq]
      exact List.Lex.append_left (· < ·) (.rel hslot) (slots levels)
    · obtain ⟨below, hp⟩ := htree p hp
      exact ⟨_, below, Nat.le_refl _, hp⟩
    · obtain ⟨slot, below, hslot, hp⟩ := hbelow' p hp
      exact ⟨slot, below, Nat.le_of_succ_le hslot, hp⟩
  · intro c rest hc row above before levels s st
    rw [sitesAll_leaf visit above before levels s st hc]
    obtain ⟨hordered, hbelow⟩ := row above (before ++ [c]) levels s st
    refine ⟨hordered, fun p hp => ?_⟩
    obtain ⟨slot, below, hslot, hp⟩ := hbelow p hp
    simp only [List.length_append, List.length_singleton] at hslot
    exact ⟨slot, below, Nat.le_of_succ_le hslot, hp⟩

/-! ### Rows -/

variable (visit) in
/-- A condition on scopes and states that each tree hands on to what follows it holds at the end of
a row of slots. -/
theorem walkAll_inherit (holds : Scope → σ → Prop)
    (tree : ∀ n s st, holds s st →
      holds (s.after n.kind (walk visit n s st).1) (walk visit n s st).2)
    {s : Scope} {st : σ} (h : holds s st) (cs : List Child) :
    holds (walkAll visit cs s st).1 (walkAll visit cs s st).2 := by
  induction cs generalizing s st with
  | nil => exact h
  | cons c rest ih =>
      cases hc : c.node? with
      | none =>
          rw [walkAll_leaf visit hc]
          exact ih h
      | some n =>
          obtain rfl := Child.eq_node_of_node? hc
          rw [walkAll_node]
          exact ih (tree n s st h)

end

end PhpIndex
