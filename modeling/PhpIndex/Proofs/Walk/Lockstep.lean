import Mathlib.Tactic.Common
import PhpIndex.Proofs.Walk.Course

/-!
Two walks of one tree.

* `Flow.Both`: two ways to go on that are the same but for their scopes;
* `Lockstep`: what relates the scopes and the states of two walks, given the moments at which both
  have been, in such a way that one visit after the other keeps it;
* `Lockstep.InStep`, `Lockstep.walk`: then two walks come to the same nodes, and what relates them
  holds where they end.
-/

namespace PhpIndex

/-- Two walks go on in the same way, in scopes that are related. -/
def Flow.Both (related : Scope → Scope → Prop) : Flow → Flow → Prop
  | descend s, descend t => related s t
  | skip s, skip t => related s t
  | _, _ => False

lemma Flow.both_self {related : Scope → Scope → Prop} (h : ∀ s, related s s) (flow : Flow) :
    flow.Both related flow := by
  cases flow <;> exact h _

/-- The same is left behind by the same. -/
lemma Scope.after_congr {s t s' t' : Scope} (kind : Kind) (h : s = t) (h' : s' = t') :
    s.after kind s' = t.after kind t' := by
  rw [h, h']

section

variable {σ τ : Type} {visit : Visitor σ} {visit' : Visitor τ}

/-- A law of two walks: how their `scopes` and `states` are related after the moments at which they
have been together. Of the moments of each walk something may be known beforehand. -/
structure Lockstep (visit : Visitor σ) (visit' : Visitor τ) where
  left : Moment σ → Prop
  right : Moment τ → Prop
  scopes : List (Moment σ × Moment τ) → Scope → Scope → Prop
  states : List (Moment σ × Moment τ) → σ → τ → Prop
  /-- Scopes stay related whatever the walks come to. -/
  later : ∀ {past s t} more, scopes past s t → scopes (past ++ more) s t
  /-- Siblings leave behind what is related, too. -/
  after : ∀ {past s t s' t'} kind, scopes past s t → scopes past s' t' →
    scopes past (Scope.after s kind s') (Scope.after t kind t')
  visited : ∀ {past n s t a b}, left ⟨⟨n, s⟩, a⟩ → right ⟨⟨n, t⟩, b⟩ →
    scopes past s t → states past a b →
    (visit n s a).1.Both (scopes (past ++ [(⟨⟨n, s⟩, a⟩, ⟨⟨n, t⟩, b⟩)])) (visit' n t b).1 ∧
      states (past ++ [(⟨⟨n, s⟩, a⟩, ⟨⟨n, t⟩, b⟩)]) (visit n s a).2 (visit' n t b).2

namespace Lockstep

variable (law : Lockstep visit visit')

/-- After some moments that they have been at together two walks have come to the same nodes, and
what they end in is related. -/
def InStep (past : List (Moment σ × Moment τ)) (ms : List (Moment σ)) (ms' : List (Moment τ))
    (out : Scope × σ) (out' : Scope × τ) : Prop :=
  ∃ pairs : List (Moment σ × Moment τ), pairs.map Prod.fst = ms ∧ pairs.map Prod.snd = ms' ∧
    (∀ p ∈ pairs, p.1.node = p.2.node) ∧
    law.scopes (past ++ pairs) out.1 out'.1 ∧ law.states (past ++ pairs) out.2 out'.2

/-- Two walks of a tree stay in step. -/
theorem walk :
    (∀ n past s t a b, (∀ m ∈ moments visit n s a, law.left m) →
        (∀ m ∈ moments visit' n t b, law.right m) → law.scopes past s t → law.states past a b →
        law.InStep past (moments visit n s a) (moments visit' n t b) (PhpIndex.walk visit n s a)
          (PhpIndex.walk visit' n t b)) ∧
      ∀ cs past s t a b, (∀ m ∈ momentsAll visit cs s a, law.left m) →
        (∀ m ∈ momentsAll visit' cs t b, law.right m) → law.scopes past s t →
        law.states past a b →
        law.InStep past (momentsAll visit cs s a) (momentsAll visit' cs t b)
          (walkAll visit cs s a) (walkAll visit' cs t b) := by
  refine Node.inductionOnRows ?_ ?_ ?_ ?_
  · intro n row past s t a b hleft hright hscopes hstates
    rw [moments_eq, List.forall_mem_cons] at hleft hright
    obtain ⟨hflow, hstates⟩ := law.visited hleft.1 hright.1 hscopes hstates
    rw [moments_eq, moments_eq, walk_eq, walk_eq]
    rcases hv : visit n s a with ⟨s' | s', a'⟩ <;> rcases hv' : visit' n t b with ⟨t' | t', b'⟩
    all_goals
      simp only [hv, hv'] at hleft hright hflow hstates ⊢
    · obtain ⟨pairs, hfst, hsnd, hnodes, hends⟩ :=
        row _ s' t' a' b' hleft.2 hright.2 hflow hstates
      refine ⟨(⟨⟨n, s⟩, a⟩, ⟨⟨n, t⟩, b⟩) :: pairs, ?_, ?_, ?_, ?_⟩
      · rw [List.map_cons, hfst]
      · rw [List.map_cons, hsnd]
      · exact List.forall_mem_cons.mpr ⟨rfl, hnodes⟩
      · rwa [List.append_assoc] at hends
    · exact hflow.elim
    · exact hflow.elim
    · exact ⟨[(⟨⟨n, s⟩, a⟩, ⟨⟨n, t⟩, b⟩)], rfl, rfl, by simp, hflow, hstates⟩
  · intro past s t a b _ _ hscopes hstates
    exact ⟨[], rfl, rfl, by simp, by simpa using hscopes, by simpa using hstates⟩
  · intro n rest tree row past s t a b hleft hright hscopes hstates
    rw [momentsAll_node, List.forall_mem_append] at hleft hright
    obtain ⟨pairs, hfst, hsnd, hnodes, hscopes', hstates'⟩ :=
      tree past s t a b hleft.1 hright.1 hscopes hstates
    obtain ⟨more, hfst', hsnd', hnodes', hends⟩ :=
      row (past ++ pairs) _ _ _ _ hleft.2 hright.2
        (law.after n.kind (law.later pairs hscopes) hscopes') hstates'
    rw [momentsAll_node, momentsAll_node, walkAll_node, walkAll_node]
    refine ⟨pairs ++ more, ?_, ?_, List.forall_mem_append.mpr ⟨hnodes, hnodes'⟩, ?_⟩
    · rw [List.map_append, hfst, hfst']
    · rw [List.map_append, hsnd, hsnd']
    · rwa [List.append_assoc] at hends
  · intro c rest hc row past s t a b hleft hright hscopes hstates
    rw [momentsAll_leaf _ hc] at hleft hright ⊢
    rw [momentsAll_leaf _ hc, walkAll_leaf _ hc, walkAll_leaf _ hc]
    exact row past s t a b hleft hright hscopes hstates

end Lockstep

end

end PhpIndex
