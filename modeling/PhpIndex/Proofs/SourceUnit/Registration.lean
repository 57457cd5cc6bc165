import Mathlib.Tactic.Common
import PhpIndex.Proofs.Walk.Accepted
import PhpIndex.Proofs.Walk.Course
import PhpIndex.SourceUnit

/-!
What the registration of a source unit does to the registry.

* `registration`: the law of walks that says that scopes stay grounded and keep to their frames,
  and that the registry refuses nothing;
* `Moment.operations`, `SourceUnit.operations`: the operations of a visit and of a whole unit, with
  `SourceUnit.performAll_operations`: they all succeed, and nothing else is done;
* `SourceUnit.registers`: **no declaration of a unit is ever refused**, and what is looked up is
  found;
* `Registry.Extends`: a registry that has grown; `SourceUnit.extends_index`: **the registration of
  a unit changes no declaration that was there before**.
-/

namespace PhpIndex

/-! ### The law of registration -/

section

variable (options : Options) (files : SourceFiles)

/-- Wherever a node is visited the declarations around it are registered, and what is done in a
scope keeps all others as they are and meets no refusal. -/
def registration : WalkLaw (visit options files) where
  holds s f := s.Grounded f.registry
  relates s f f' := s.Frame f.registry f'.registry ∧ f'.refusals = f.refusals
  refl := ⟨.refl _ _, rfl⟩
  trans h h' := ⟨h.1.trans h'.1, h'.2.trans h.2⟩
  later hs h := hs.mono rfl rfl h.1
  holds_after kind left hs :=
    hs.mono (Scope.class?_after _ kind left) (Scope.function?_after _ kind left) (.refl _ _)
  relates_after {s a b} kind left h := by
    have hs := Scope.encloses_of_eq (r := a.registry) (s.class?_after kind left)
      (s.function?_after kind left)
    exact ⟨(Scope.Frame.refl s a.registry).enclosing hs h.1, h.2⟩
  skip {n s f s' f'} hs hv := by
    have h := accepted_visit options files hs n
    rw [hv] at h
    exact ⟨h.frame, h.refusals_eq⟩
  descend {n s f s' f'} hs hv := by
    have h := accepted_visit options files hs n
    rw [hv] at h
    refine ⟨h.grounded s' rfl, fun hrest => ⟨?_, hrest.2.trans h.refusals_eq⟩⟩
    exact h.frame.enclosing (h.encloses s' rfl) hrest.1

/-! ### The operations of a walk -/

/-- What is done to the registry at a moment. -/
def Moment.operations (m : Moment Findings) : List Operation :=
  m.scope.operations options m.state.registry m.node

/-- In a scope whose declarations are registered these are accepted, and nothing else is done. -/
lemma Moment.accepted {m : Moment Findings} (hs : m.scope.Grounded m.state.registry) :
    Accepted m.scope m.state (m.operations options) (visit options files m.node m.scope m.state) :=
  accepted_visit options files hs m.node

lemma Moment.registry_next {m : Moment Findings} (hs : m.scope.Grounded m.state.registry) :
    (m.next (visit options files)).registry =
      performAll (m.operations options) m.state.registry :=
  (Moment.accepted options files hs).registry_eq

variable {options files} in
/-- The operations at the moments of a course make up all that happens in it. -/
lemma Course.performAll_operations {ms : List (Moment Findings)} {r r' : Registry}
    (h : Course (visit options files) Findings.registry r ms r')
    (hs : ∀ m ∈ ms, m.scope.Grounded m.state.registry) :
    AllSucceed (ms.flatMap (·.operations options)) r ∧
      performAll (ms.flatMap (·.operations options)) r = r' := by
  induction ms generalizing r with
  | nil => exact ⟨allSucceed_nil r, h⟩
  | cons m ms ih =>
      obtain ⟨hm, hms⟩ := List.forall_mem_cons.mp hs
      obtain ⟨rfl, hrest⟩ := h
      rw [Moment.registry_next options files hm] at hrest
      obtain ⟨hsucceed, hperform⟩ := ih hrest hms
      rw [List.flatMap_cons, allSucceed_append, performAll_append]
      exact ⟨⟨(Moment.accepted options files hm).succeed, hsucceed⟩, hperform⟩

namespace SourceUnit

variable (u : SourceUnit) (r : Registry)

/-- The moments in the walk of a unit. -/
def moments : List (Moment Findings) :=
  PhpIndex.moments (visit options files) u.root u.startScope { registry := r }

/-- All that the registration of a unit does to the registry, in order. -/
def operations : List Operation := (u.moments options files r).flatMap (·.operations options)

lemma grounded_startScope : u.startScope.Grounded r := Scope.grounded_of_eq_none rfl rfl

/-- Wherever a node of a unit is visited the declarations around it are registered. -/
lemma grounded_of_mem_moments :
    ∀ m ∈ u.moments options files r, m.scope.Grounded m.state.registry :=
  (registration options files).moments.1 u.root u.startScope { registry := r }
    (u.grounded_startScope r)

lemma course_moments :
    Course (visit options files) Findings.registry r (u.moments options files r)
      (u.index options files r).2 :=
  course_walk.1 u.root u.startScope ({ registry := r } : Findings)

/-- The operations of a unit succeed, and nothing else is done. -/
theorem performAll_operations :
    AllSucceed (u.operations options files r) r ∧
      performAll (u.operations options files r) r = (u.index options files r).2 :=
  (u.course_moments options files r).performAll_operations
    (u.grounded_of_mem_moments options files r)

/-! ### Refusals -/

/-- The registration of a unit as the registry sees it: whatever is asked of it is done. -/
structure Registers : Prop where
  /-- No problem of the unit is a refusal. -/
  problems : (u.index options files r).1.problems.filter (·.issue.isRefusal) = []
  /-- The class and the function around a node are registered. -/
  grounded : ∀ m ∈ u.moments options files r, m.scope.Grounded m.state.registry
  /-- The identity for a method leads back to the class around the node. -/
  method_owner : ∀ m ∈ u.moments options files r, ∀ name k,
    m.scope.newIdentity m.state.registry name .method = .ok k → k.owner? = m.scope.class?
  /-- Each declaration is accepted, and each declaration that is to be changed is found. -/
  succeed : ∀ m ∈ u.moments options files r, AllSucceed (m.operations options) m.state.registry
  /-- Nothing else is done to the registry. -/
  performed : ∀ m ∈ u.moments options files r,
    (m.next (visit options files)).registry = performAll (m.operations options) m.state.registry

/-- **No declaration is refused**, whatever the unit and the registry. -/
theorem registers : u.Registers options files r := by
  have hgrounded := u.grounded_of_mem_moments options files r
  have hwalk := (registration options files).walk.1 u.root u.startScope { registry := r }
    (u.grounded_startScope r)
  refine ⟨hwalk.2, hgrounded, fun m hm name k hk => ?_, fun m hm => ?_,
    fun m hm => ?_⟩
  · rw [Scope.newIdentity] at hk
    split at hk
    · cases hk
    · rename_i owner howner
      cases hk
      rw [howner]
      exact (hgrounded m hm).owner?_freeFunction_member howner name
  · exact (Moment.accepted options files (hgrounded m hm)).succeed
  · exact Moment.registry_next options files (hgrounded m hm)

end SourceUnit

/-! ### What was there before -/

/-- A unit keeps to the frame of a place without declarations around it. -/
lemma SourceUnit.frame_index (u : SourceUnit) (r : Registry) :
    u.startScope.Frame r (u.index options files r).2 :=
  ((registration options files).walk.1 u.root u.startScope { registry := r }
    (u.grounded_startScope r)).1

/-- A registry that has grown: every declaration is as it was, and no count is less. -/
structure Registry.Extends (r' r : Registry) : Prop where
  class_kept : ∀ k c, r.class? k = some c → r'.class? k = some c
  function_kept : ∀ k f, r.function? k = some f → r'.function? k = some f
  tally_le : ∀ kind, r.tally.of kind ≤ r'.tally.of kind

/-- **Registration only adds**: a unit changes no declaration that was registered before, whatever
it declares and calls. -/
theorem SourceUnit.extends_index (u : SourceUnit) (r : Registry) :
    (u.index options files r).2.Extends r := by
  have hframe := u.frame_index options files r
  -- there is no declaration around a unit, so its frame keeps everything
  exact ⟨fun k c hc => hframe.class_kept k c nofun hc,
    fun k f hf => hframe.function_kept k f nofun hf, hframe.tally_le⟩

end

end PhpIndex
