import PhpIndex.Proofs.Scope.NamespaceForms
import PhpIndex.Proofs.SourceUnit.Ancestry

/-!
The namespace of a node and the namespace declarations visited before it.

* `Scope.space_flow`, `Scope.space_after`: the namespace that a visit and a subtree leave;
* `Moment.spaceBehind`, `Spaced`: the namespace after one moment, and moments of which each has
  the namespace that the one before leaves;
* `spaceAfter`: the namespace that the last declaration among some moments names;
  `Spaced.eq_spaceAfter`: so it is this one that they lead to;
* `spaced_walk`: if visits change the namespace at its declarations only, the moments of a walk are
  of this kind, wherever its declarations stand;
* `SourceUnit.namespaced`: **each node of a unit is visited in the namespace of the last
  declaration before it**, and classes and functions are registered in this namespace.
-/

namespace PhpIndex

open Text

namespace Scope

/-- At a namespace declaration its name takes the place of the namespace. Other nodes leave it as
it is, whether the walk goes down or passes over what is below them. -/
lemma space_flow (s : Scope) (options : Options) (r : Registry) (node : Node) :
    (s.flow options r node).scope.space =
      if node.kind = .namespaceDecl then namespaceForm ((node.childText? 0).getD "")
      else s.space := by
  by_cases hspace : node.kind = .namespaceDecl
  · simp only [flow, hspace, if_true, Flow.scope, enterNamespace]
  · rw [if_neg hspace, flow]
    split
    · contradiction
    · split
      · rename_i himport
        rw [Flow.scope, eq_of_afterUse himport]
      · rfl
    · split
      · rename_i himport
        rw [Flow.scope, eq_of_afterGroupUse himport]
      · rfl
    -- a declaration that fails is passed over in the scope around it
    iterate 4
      · split <;> rfl
    all_goals rfl

/-- What follows a subtree is in the namespace that the subtree leaves. -/
lemma space_after {left : Scope} (h : namespaceForm left.space = left.space) (s : Scope)
    (kind : Kind) : (s.after kind left).space = left.space := by
  rw [after]
  split
  · rfl
  · simp only [moveTo, h]

end Scope

/-! ### From one moment to the next -/

section

variable {σ : Type}

/-- The namespace behind a moment. -/
def Moment.spaceBehind (m : Moment σ) : String :=
  if m.node.kind = .namespaceDecl then Scope.namespaceForm ((m.node.childText? 0).getD "")
  else m.scope.space

/-- Moments that lead from one namespace to another: each has the one that the moment before it
leaves. -/
def Spaced : String → List (Moment σ) → String → Prop
  | v, [], w => v = w
  | v, m :: ms, w => m.scope.space = v ∧ Spaced m.spaceBehind ms w

lemma Spaced.append {u v w : String} {ms ns : List (Moment σ)} (h : Spaced u ms v)
    (h' : Spaced v ns w) : Spaced u (ms ++ ns) w := by
  induction ms generalizing u with
  | nil => exact (h : u = v) ▸ h'
  | cons m ms ih => exact ⟨h.1, ih h.2⟩

lemma Spaced.exists_between {u w : String} {ms ns : List (Moment σ)} (h : Spaced u (ms ++ ns) w) :
    ∃ v, Spaced u ms v ∧ Spaced v ns w := by
  induction ms generalizing u with
  | nil => exact ⟨u, rfl, h⟩
  | cons m ms ih =>
      obtain ⟨v, hms, hns⟩ := ih h.2
      exact ⟨v, ⟨h.1, hms⟩, hns⟩

/-- The namespace after some moments of a unit: that of the last namespace declaration among them,
and the global one if there is none. -/
def spaceAfter (ms : List (Moment σ)) : String :=
  match (ms.filter (·.node.kind = .namespaceDecl)).getLast? with
  | none => ""
  | some m => Scope.namespaceForm ((m.node.childText? 0).getD "")

lemma spaceAfter_concat (ms : List (Moment σ)) (m : Moment σ) (h : m.scope.space = spaceAfter ms) :
    spaceAfter (ms ++ [m]) = m.spaceBehind := by
  rw [spaceAfter, List.filter_append, List.filter_singleton, Moment.spaceBehind, h]
  by_cases hspace : m.node.kind = .namespaceDecl
  · simp [hspace]
  · simp [hspace, spaceAfter]

/-- From the global namespace moments lead to that of the last declaration among them. -/
theorem Spaced.eq_spaceAfter {ms : List (Moment σ)} {w : String} (h : Spaced "" ms w) :
    w = spaceAfter ms := by
  induction ms using List.reverseRecOn generalizing w with
  | nil => exact Eq.symm h
  | append_singleton ms m ih =>
      obtain ⟨v, hms, hspace, rfl⟩ := h.exists_between
      exact (spaceAfter_concat ms m (hspace.trans (ih hms))).symm

variable {visit : Visitor σ}

/-- The moments of a walk lead from the namespace it is given to the one it leaves, if the visits
change the namespace at its declarations only. -/
theorem spaced_walk :
    (∀ n s st, (∀ m ∈ moments visit n s st,
          (visit m.node m.scope m.state).1.scope.space = m.spaceBehind) →
        Scope.namespaceForm s.space = s.space →
        Spaced s.space (moments visit n s st) (walk visit n s st).1.space ∧
          Scope.namespaceForm (walk visit n s st).1.space = (walk visit n s st).1.space) ∧
      ∀ cs s st, (∀ m ∈ momentsAll visit cs s st,
          (visit m.node m.scope m.state).1.scope.space = m.spaceBehind) →
        Scope.namespaceForm s.space = s.space →
        Spaced s.space (momentsAll visit cs s st) (walkAll visit cs s st).1.space ∧
          Scope.namespaceForm (walkAll visit cs s st).1.space =
            (walkAll visit cs s st).1.space := by
  refine Node.inductionOnRows ?_ ?_ ?_ ?_
  · intro n row s st hvisits hform
    rw [moments_eq, List.forall_mem_cons] at hvisits
    obtain ⟨hvisit, hvisits⟩ := hvisits
    have hbehind : Scope.namespaceForm (Moment.spaceBehind ⟨⟨n, s⟩, st⟩) =
        Moment.spaceBehind ⟨⟨n, s⟩, st⟩ := by
      rw [Moment.spaceBehind]
      split
      · exact Scope.namespaceForm_namespaceForm _
      · exact hform
    rw [moments_eq, walk_eq]
    rcases hv : visit n s st with ⟨s' | s', st'⟩ <;> simp only [hv] at hvisit hvisits ⊢
    all_goals rw [← hvisit] at hbehind
    · obtain ⟨hspaced, hleft⟩ := row s' st' hvisits hbehind
      exact ⟨⟨rfl, hvisit ▸ hspaced⟩, hleft⟩
    · exact ⟨⟨rfl, hvisit.symm⟩, hbehind⟩
  · exact fun s st _ hform => ⟨rfl, hform⟩
  · intro n rest tree row s st hvisits hform
    rw [momentsAll_node, List.forall_mem_append] at hvisits
    obtain ⟨hspaced, hleft⟩ := tree s st hvisits.1 hform
    have hafter := Scope.space_after hleft s n.kind
    obtain ⟨hrest, hend⟩ := row _ _ hvisits.2 (by rw [hafter]; exact hleft)
    rw [momentsAll_node, walkAll_node]
    exact ⟨hspaced.append (hafter ▸ hrest), hend⟩
  · intro c rest hc row s st hvisits hform
    rw [momentsAll_leaf visit hc] at hvisits ⊢
    rw [walkAll_leaf visit hc]
    exact row s st hvisits hform

end

/-! ### Units -/

section

variable (options : Options) (files : SourceFiles)

namespace Moment

variable {options} {m : Moment Findings}

/-- A class has an identity of its name in the namespace it is declared in. -/
lemma primary_newClass? {c : ClassLike} (h : m.newClass? options = some c) :
    c.fqsen.primary = .ofClass m.scope.space c.name := by
  rw [newClass?] at h
  split at h
  · obtain ⟨name, -, rfl⟩ := Option.map_eq_some_iff.mp h
    rfl
  · cases h

/-- So has a function. -/
lemma primary_newFunction? (hkind : m.node.kind = .functionDecl) {f : FunctionLike}
    (h : m.newFunction? options = some f) :
    f.fqsen.primary = .ofFunction m.scope.space f.name := by
  rw [newFunction?, hkind] at h
  obtain ⟨name, -, rfl⟩ := Option.map_eq_some_iff.mp h
  rfl

end Moment

namespace SourceUnit

variable (u : SourceUnit) (r : Registry)

lemma spaced_moments :
    Spaced "" (u.moments options files r) (u.index options files r).1.scope.space := by
  refine (spaced_walk.1 u.root u.startScope ({ registry := r } : Findings) (fun m hm => ?_)
    Scope.namespaceForm_empty).1
  have hgrounded := u.grounded_of_mem_moments options files r m hm
  rw [(answered_visit options files hgrounded m.node).flow_eq, Scope.space_flow]
  rfl

/-- The nodes of a unit in their namespaces. -/
structure Namespaced : Prop where
  /-- A node is visited in the namespace of the last declaration before it. -/
  visited_in : ∀ before m after, u.moments options files r = before ++ m :: after →
    m.scope.space = spaceAfter before
  /-- The unit ends in the namespace of its last declaration. -/
  ends_in : (u.index options files r).1.scope.space = spaceAfter (u.moments options files r)
  /-- A class has an identity in the namespace of the last declaration before it, under which it
  is found in the end. -/
  class_named : ∀ before m after, u.moments options files r = before ++ m :: after →
    ∀ c, m.newClass? options = some c →
      c.fqsen.primary = .ofClass (spaceAfter before) c.name ∧
        ∃ d, (u.index options files r).2.class? c.fqsen = some d ∧ d.outline = c.outline
  /-- So has a function that is no method. -/
  function_named : ∀ before m after, u.moments options files r = before ++ m :: after →
    m.node.kind = .functionDecl → ∀ f, m.newFunction? options = some f →
      f.fqsen.primary = .ofFunction (spaceAfter before) f.name ∧
        ∃ g, (u.index options files r).2.function? f.fqsen = some g ∧ g.outline = f.outline
  /-- No other classes are registered, and no other functions but the methods of classes. -/
  class_declared : ∀ k, (u.index options files r).2.hasClass k = true → r.hasClass k = true ∨
    ∃ m ∈ u.moments options files r, ∃ c, m.newClass? options = some c ∧ c.fqsen = k
  function_declared : ∀ k, (u.index options files r).2.hasFunction k = true → k.owner? = none →
    r.hasFunction k = true ∨ ∃ m ∈ u.moments options files r, m.node.kind = .functionDecl ∧
      ∃ f, m.newFunction? options = some f ∧ f.fqsen = k

/-- **Namespaces go by the order of visits**: each node of a unit is visited in the namespace of the
last namespace declaration before it, be it around the node or not, and in the global one if there
is none or if it has no name but separators. Classes and functions are registered in it. -/
theorem namespaced : u.Namespaced options files r := by
  have hspaced := u.spaced_moments options files r
  have hvisited {before after} {m : Moment Findings}
      (h : u.moments options files r = before ++ m :: after) :
      m.scope.space = spaceAfter before := by
    rw [h] at hspaced
    obtain ⟨v, hbefore, hm, -⟩ := hspaced.exists_between
    exact hm.trans hbefore.eq_spaceAfter
  have hmem {before after} {m : Moment Findings}
      (h : u.moments options files r = before ++ m :: after) :
      m ∈ u.moments options files r := by
    rw [h]
    exact List.mem_append_right _ List.mem_cons_self
  refine ⟨fun _ _ _ => hvisited, hspaced.eq_spaceAfter, ?_, ?_, ?_, ?_⟩
  · intro before m after h c hc
    rw [← hvisited h]
    exact ⟨Moment.primary_newClass? hc, (u.class?_index (hmem h) hc).2⟩
  · intro before m after h hkind f hf
    rw [← hvisited h]
    exact ⟨Moment.primary_newFunction? hkind hf, (u.function?_index (hmem h) hf).2⟩
  · exact fun k hk => u.hasClass_index.mp hk |>.imp_right mem_declaredClasses.mp
  · intro k hk howner
    refine (u.hasFunction_index.mp hk).imp_right fun hdeclared => ?_
    obtain ⟨m, hm, f, hf, rfl⟩ := mem_declaredFunctions.mp hdeclared
    have hgrounded := u.grounded_of_mem_moments options files r m hm
    rcases Moment.owner?_newFunction? hgrounded hf with ⟨-, owner, -, hmethod⟩ | ⟨hkind, -⟩
    · rw [howner] at hmethod
      cases hmethod
    · exact ⟨m, hm, hkind, f, hf, rfl⟩

end SourceUnit

end

end PhpIndex
