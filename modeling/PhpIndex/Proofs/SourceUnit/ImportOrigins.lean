import Mathlib.Data.List.DropRight
import PhpIndex.Proofs.SourceUnit.Imports

/-!
The imports of a node and the nodes visited before it, wherever namespaces are declared.

* `sinceDeclaration`, `currentAliases`: the moments behind the last namespace declaration, and the
  aliases that their nodes introduce;
* `Moment.Reopens`: a node below which namespaces are declared, the last of them that of the node
  itself;
* `Origin`: where an alias comes from: it is a current one, or it was there before a node that
  reopens its namespace; `Traced`: a scope of whose aliases each has an origin;
* `Traced.visited`, `Traced.after`: what a visit adds, and what a tree leaves to those behind it;
* `traced_walk`: so all scopes of a walk are of this kind, whatever the tree;
* `SourceUnit.importsTraced`: **imports end with the next namespace declaration**, be it nested or
  not, unless it stands below a node that reopens its namespace: of such a node nothing but the
  namespace is handed on, in which the imports from before it are in force again.
-/

namespace PhpIndex

open Text

section

variable {σ : Type}

/-! ### What a namespace declaration ends -/

/-- The moments behind the last namespace declaration among some moments. -/
def sinceDeclaration (ms : List (Moment σ)) : List (Moment σ) :=
  ms.rtakeWhile fun m => decide (m.node.kind ≠ .namespaceDecl)

/-- The aliases that are introduced behind it. -/
def currentAliases (ms : List (Moment σ)) : List Alias :=
  (sinceDeclaration ms).flatMap (·.node.introduced)

lemma currentAliases_concat {m : Moment σ} (hm : m.node.kind ≠ .namespaceDecl)
    (ms : List (Moment σ)) :
    currentAliases (ms ++ [m]) = currentAliases ms ++ m.node.introduced := by
  rw [currentAliases, sinceDeclaration, List.rtakeWhile_concat_pos _ _ _ (by simpa using hm),
    List.flatMap_append, List.flatMap_singleton]
  rfl

/-- The imports behind a moment. -/
def Moment.importsBehind (m : Moment σ) : Imports :=
  if m.node.kind = .namespaceDecl then .none else m.scope.imports.insertAll m.node.introduced

/-! ### Where an alias comes from -/

variable (visit : Visitor σ)

/-- A node that hands on no imports, with namespace declarations below it after which the namespace
is that of the node. -/
structure Moment.Reopens (m : Moment σ) : Prop where
  confines : m.node.kind.passesImports = false
  declares : ∃ d ∈ moments visit m.node m.scope m.state, d.node.kind = .namespaceDecl
  same : (m.scope.after m.node.kind (walk visit m.node m.scope m.state).1).space = m.scope.space

/-- Where an alias in a scope behind some moments comes from. -/
inductive Origin (ms : List (Moment σ)) (kind : ImportKind) (name target : String) : Prop where
  /-- It has been introduced since the last namespace declaration. -/
  | current (a : Alias) (introduced : a ∈ currentAliases ms) (answers : a.answers kind name = true)
      (target_eq : dropLeading a.target = target)
  /-- This declaration stands below a node that reopens its namespace and had the alias. -/
  | kept (before : List (Moment σ)) (m : Moment σ) (after : List (Moment σ))
      (ends : ms = before ++ moments visit m.node m.scope m.state ++ after)
      (plain : ∀ d ∈ after, d.node.kind ≠ .namespaceDecl) (reopens : m.Reopens visit)
      (had : m.scope.imports.get? kind name = some target)

/-- A scope of whose aliases each has an origin in the moments before it. -/
def Traced (ms : List (Moment σ)) (s : Scope) : Prop :=
  ∀ kind name target, s.imports.get? kind name = some target → Origin visit ms kind name target

variable {visit}

/-- Nodes that are no namespace declarations leave origins as they are. -/
lemma Origin.append {ms ns : List (Moment σ)} {kind : ImportKind} {name target : String}
    (h : Origin visit ms kind name target) (hns : ∀ d ∈ ns, d.node.kind ≠ .namespaceDecl) :
    Origin visit (ms ++ ns) kind name target := by
  cases h with
  | current a introduced answers target_eq =>
      refine .current a ?_ answers target_eq
      induction ns using List.reverseRecOn with
      | nil => rwa [List.append_nil]
      | append_singleton ns n ih =>
          obtain ⟨hns, hn⟩ := List.forall_mem_append.mp hns
          rw [← List.append_assoc, currentAliases_concat (hn n List.mem_cons_self)]
          exact List.mem_append_left _ (ih hns)
  | kept before m after ends plain reopens had =>
      refine .kept before m (after ++ ns) ?_ (List.forall_mem_append.mpr ⟨plain, hns⟩) reopens had
      rw [ends, List.append_assoc _ after]

namespace Traced

variable {ms : List (Moment σ)} {s : Scope}

lemma of_none (h : s.imports = .none) : Traced visit ms s := by
  intro kind name target hget
  rw [h, Imports.get?_none] at hget
  cases hget

/-- A visit adds the aliases that its node introduces, unless it ends all that were there. -/
lemma visited {m : Moment σ} (h : Traced visit ms m.scope) {s' : Scope}
    (hs' : s'.imports = m.importsBehind) : Traced visit (ms ++ [m]) s' := by
  by_cases hspace : m.node.kind = .namespaceDecl
  · exact of_none (by rw [hs', Moment.importsBehind, if_pos hspace])
  intro kind name target hget
  rw [hs', Moment.importsBehind, if_neg hspace, Imports.get?_insertAll] at hget
  rcases Option.or_eq_some_iff.mp hget with hnew | ⟨-, hold⟩
  · obtain ⟨a, ha, rfl⟩ := Option.map_eq_some_iff.mp hnew
    obtain ⟨hintroduced, hanswers⟩ := List.mem_filter.mp (List.mem_of_getLast? ha)
    refine .current a ?_ hanswers rfl
    rw [currentAliases_concat hspace]
    exact List.mem_append_right _ hintroduced
  · exact (h kind name target hold).append (by simpa using hspace)

/-- Behind a tree that hands on imports there are those that it leaves. Behind another one there
are those from before it or none, according to whether the namespace is the same. -/
lemma after {n : Node} {st : σ} (h : Traced visit ms s)
    (hleft : Traced visit (ms ++ moments visit n s st) (walk visit n s st).1) :
    Traced visit (ms ++ moments visit n s st) (s.after n.kind (walk visit n s st).1) := by
  cases hpass : n.kind.passesImports with
  | true =>
      rw [Scope.after, if_pos hpass]
      exact hleft
  | false =>
      have hafter : s.after n.kind (walk visit n s st).1 = s.moveTo (walk visit n s st).1.space :=
        if_neg (Bool.eq_false_iff.mp hpass)
      by_cases hsame : Scope.namespaceForm (walk visit n s st).1.space = s.space
      · rw [hafter, Scope.moveTo_of_eq hsame]
        intro kind name target hget
        by_cases hdeclares : ∃ d ∈ moments visit n s st, d.node.kind = .namespaceDecl
        · have hreopens : Moment.Reopens visit ⟨⟨n, s⟩, st⟩ :=
            ⟨hpass, hdeclares, by rw [hafter, Scope.moveTo_of_eq hsame]⟩
          exact .kept ms ⟨⟨n, s⟩, st⟩ [] (List.append_nil _).symm (by simp) hreopens hget
        · exact (h kind name target hget).append fun d hd hspace => hdeclares ⟨d, hd, hspace⟩
      · refine of_none ?_
        rw [hafter, Scope.moveTo]
        simp only [hsame, if_false]

end Traced

/-! ### From one moment to the next -/

variable (visit) in
/-- Moments of which each has aliases with an origin in those before it. -/
def TracedThrough : List (Moment σ) → List (Moment σ) → Prop
  | _, [] => True
  | ms, n :: ns => Traced visit ms n.scope ∧ TracedThrough (ms ++ [n]) ns

namespace TracedThrough

variable {ms ns ks : List (Moment σ)}

lemma append (h : TracedThrough visit ms ns) (h' : TracedThrough visit (ms ++ ns) ks) :
    TracedThrough visit ms (ns ++ ks) := by
  induction ns generalizing ms with
  | nil => rwa [List.append_nil] at h'
  | cons n ns ih => exact ⟨h.1, ih h.2 (by rwa [← List.append_cons])⟩

lemma traced {m : Moment σ} (h : TracedThrough visit ms (ns ++ m :: ks)) :
    Traced visit (ms ++ ns) m.scope := by
  induction ns generalizing ms with
  | nil =>
      rw [List.append_nil]
      exact h.1
  | cons n ns ih =>
      rw [List.append_cons]
      exact ih h.2

end TracedThrough

/-- If visits change the imports in this way only, a walk from a scope of whose aliases each has an
origin has such scopes throughout, and leaves one. -/
theorem traced_walk :
    (∀ n s st ms, (∀ m ∈ moments visit n s st,
          (visit m.node m.scope m.state).1.scope.imports = m.importsBehind) →
        Traced visit ms s →
        TracedThrough visit ms (moments visit n s st) ∧
          Traced visit (ms ++ moments visit n s st) (walk visit n s st).1) ∧
      ∀ cs s st ms, (∀ m ∈ momentsAll visit cs s st,
          (visit m.node m.scope m.state).1.scope.imports = m.importsBehind) →
        Traced visit ms s →
        TracedThrough visit ms (momentsAll visit cs s st) ∧
          Traced visit (ms ++ momentsAll visit cs s st) (walkAll visit cs s st).1 := by
  refine Node.inductionOnRows ?_ ?_ ?_ ?_
  · intro n row s st ms hvisits h
    rw [moments_eq, List.forall_mem_cons] at hvisits
    obtain ⟨hvisit, hvisits⟩ := hvisits
    have hbelow := h.visited (m := ⟨⟨n, s⟩, st⟩) hvisit
    rw [moments_eq, walk_eq]
    rcases hv : visit n s st with ⟨s' | s', st'⟩ <;> simp only [hv] at hvisits hbelow ⊢
    · obtain ⟨hthrough, hleft⟩ := row s' st' _ hvisits hbelow
      exact ⟨⟨h, hthrough⟩, by rwa [← List.append_cons] at hleft⟩
    · exact ⟨⟨h, trivial⟩, hbelow⟩
  · intro s st ms _ h
    exact ⟨trivial, by rwa [momentsAll_nil, List.append_nil]⟩
  · intro n rest tree row s st ms hvisits h
    rw [momentsAll_node, List.forall_mem_append] at hvisits
    obtain ⟨hthrough, hleft⟩ := tree s st ms hvisits.1 h
    obtain ⟨hrest, hend⟩ := row _ _ _ hvisits.2 (h.after hleft)
    rw [momentsAll_node, walkAll_node, ← List.append_assoc]
    exact ⟨hthrough.append hrest, hend⟩
  · intro c rest hc row s st ms hvisits h
    rw [momentsAll_leaf visit hc] at hvisits ⊢
    rw [walkAll_leaf visit hc]
    exact row s st ms hvisits h

end

/-! ### Units -/

namespace SourceUnit

section

variable (options : Options) (files : SourceFiles) (u : SourceUnit) (r : Registry)

/-- The aliases at the nodes of a unit, and where they come from. -/
structure ImportsTraced : Prop where
  /-- A node is visited with aliases that have an origin in the visits before it. -/
  at_node : ∀ before m after, u.moments options files r = before ++ m :: after →
    Traced (visit options files) before m.scope
  at_end : Traced (visit options files) (u.moments options files r)
    (u.index options files r).1.scope
  /-- So in a unit in which no node reopens its namespace each of them has been introduced since the
  last namespace declaration. -/
  introduced : (∀ m ∈ u.moments options files r, ¬ m.Reopens (visit options files)) →
    ∀ before m after, u.moments options files r = before ++ m :: after →
      ∀ kind name target, m.scope.imports.get? kind name = some target →
        ∃ a ∈ currentAliases before, a.answers kind name = true ∧ dropLeading a.target = target

/-- **Imports end with the next namespace declaration**: a name that is looked up at a node of a
unit is found under an alias that has been introduced since the last one, or the declaration stands
below a node that reopens its namespace, before which the name was found already. -/
theorem importsTraced : u.ImportsTraced options files r := by
  obtain ⟨hthrough, hend⟩ := traced_walk.1 u.root u.startScope ({ registry := r } : Findings) []
    (fun m hm => by
      have hgrounded := u.grounded_of_mem_moments options files r m hm
      rw [(answered_visit options files hgrounded m.node).flow_eq, Scope.imports_flow]
      rfl)
    (Traced.of_none rfl)
  have hnode : ∀ before m after, u.moments options files r = before ++ m :: after →
      Traced (visit options files) before m.scope := by
    intro before m after h
    have hsplit : TracedThrough (visit options files) [] (before ++ m :: after) := by
      rw [← h]
      exact hthrough
    exact hsplit.traced
  refine ⟨hnode, hend, fun hnot before m after h kind name target hget => ?_⟩
  cases hnode before m after h kind name target hget with
  | current a introduced answers target_eq => exact ⟨a, introduced, answers, target_eq⟩
  | kept before' m' after' ends plain reopens had =>
      have hm' : m' ∈ u.moments options files r := by
        rw [h, ends, moments_eq]
        simp
      exact absurd reopens (hnot m' hm')

end

/-- A unit with an import, a list of statements that declares the same namespace once more, and a
class behind it. -/
def reopenedUnit : SourceUnit where
  path := "reopened.php"
  root := { kind := .stmtList, children := [
    .node { kind := .namespaceDecl, children := [.str "A"] },
    .node { kind := .useDecl, flags := 1, children := [
      .node { kind := .useElem, children := [.str "X\\Y", .empty] }] },
    .node { kind := .stmtList, children := [
      .node { kind := .namespaceDecl, children := [.str "A"] }] },
    .node { kind := .classDecl, children := [.str "C"] }] }

/-- At the class the import is in force though a namespace has been declared since. -/
theorem imports_kept_behind_reopening :
    ¬ ∀ u : SourceUnit, ∀ before m after, u.moments {} {} .empty = before ++ m :: after →
      ∀ kind name target, m.scope.imports.get? kind name = some target →
        ∃ a ∈ currentAliases before, a.answers kind name = true ∧
          dropLeading a.target = target := by
  intro h
  have hfound : ((reopenedUnit.moments {} {} .empty)[6]?.bind
      (·.scope.imports.get? .classLike "Y")) = some "X\\Y" := by
    decide +kernel
  have hnone : currentAliases ((reopenedUnit.moments {} {} .empty).take 6) = [] := by
    decide +kernel
  obtain ⟨m, hm, hget⟩ := Option.bind_eq_some_iff.mp hfound
  obtain ⟨hlength, rfl⟩ := List.getElem?_eq_some_iff.mp hm
  have hsplit := (List.take_append_drop 6 (reopenedUnit.moments {} {} .empty)).symm
  rw [List.drop_eq_getElem_cons hlength] at hsplit
  obtain ⟨a, ha, -⟩ := h reopenedUnit _ _ _ hsplit _ _ _ hget
  rw [hnone] at ha
  cases ha

end SourceUnit

end PhpIndex
