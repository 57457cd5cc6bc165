import Mathlib.Tactic.Common
import PhpIndex.Proofs.Registry.Operations

/-!
What operations look at and change.

* `Operation.Uses`: an operation that looks at and changes no other declarations than those of
  some identities;
* `Operation.Uses.class?_of_notMem`, `Operation.Uses.function?_of_notMem`: all others stay as they
  are;
* `Registry.AgreeOn`: registries that hold the same declarations under some identities;
  `Registry.AgreeOn.performAll`: operations that use no others keep them so;
* `performAll_comm`: **operations on different declarations can be done in either order**.
-/

namespace PhpIndex

/-- Equal counts of each kind are equal counts. -/
lemma Tally.ext_of {t t' : Tally} (h : ∀ kind, t.of kind = t'.of kind) : t = t' := by
  cases t
  cases t'
  simp only [Tally.mk.injEq]
  exact ⟨h .classes, h .methods, h .functions, h .closures, h .traits, h .conditionals⟩

/-- An operation that looks at and changes no other declarations than those of some identities. -/
def Operation.Uses (classes functions : List Fqsen) : Operation → Prop
  | addClass c => c.fqsen ∈ classes
  | addFunction f => f.fqsen ∈ functions ∧ ∀ owner, f.fqsen.owner? = some owner → owner ∈ classes
  | count _ => True
  | editClass name _ => name ∈ classes
  | acceptAny name => name ∈ functions

/-- Two registries that hold the same declarations under some identities. -/
structure Registry.AgreeOn (classes functions : List Fqsen) (r r' : Registry) : Prop where
  class?_eq : ∀ k ∈ classes, r.class? k = r'.class? k
  function?_eq : ∀ k ∈ functions, r.function? k = r'.function? k

namespace Operation

variable {r r' : Registry}

/-- An operation that does not succeed changes nothing. -/
lemma perform_of_not_succeeds {op : Operation} (h : ¬ op.Succeeds r) : op.perform r = r := by
  cases op with
  | addClass c =>
      cases hadd : r.addClass c with
      | error e => rw [perform, update, Update.outcome_registerClass, hadd]
      | ok q => exact absurd ⟨q, hadd⟩ h
  | addFunction f =>
      cases hadd : r.addFunction f with
      | error e => rw [perform, update, Update.outcome_registerFunction, hadd]
      | ok q => exact absurd ⟨q, hadd⟩ h
  | count kind => exact absurd trivial h
  | editClass name e =>
      have hnone := Registry.class?_eq_none_iff.mpr ((Bool.not_eq_true _).mp h)
      refine Registry.ext_get (fun k => ?_) (fun _ => rfl) rfl
      refine (r.class?_modifyClass name k e.apply).trans ?_
      split
      · rename_i hk
        rw [← hk, hnone, Option.map_none]
      · rfl
  | acceptAny name =>
      have hnone := Registry.function?_eq_none_iff.mpr ((Bool.not_eq_true _).mp h)
      refine Registry.ext_get (fun _ => rfl) (fun k => ?_) rfl
      refine (r.function?_modifyFunction name k FunctionLike.acceptAny).trans ?_
      split
      · rename_i hk
        rw [← hk, hnone, Option.map_none]
      · rfl

namespace Uses

variable {classes functions : List Fqsen} {op : Operation}

/-! ### What stays -/

lemma class?_of_notMem (h : op.Uses classes functions) {k : Fqsen} (hk : k ∉ classes) :
    (op.perform r).class? k = r.class? k := by
  by_cases hok : op.Succeeds r
  · have hne {name : Fqsen} (hname : name ∈ classes) : name ≠ k := fun heq => hk (heq ▸ hname)
    cases op with
    | addClass c =>
        obtain ⟨q, hadd⟩ := hok
        rw [perform_addClass hadd, Registry.class?_of_addClass hadd, if_neg (hne h)]
    | addFunction f =>
        obtain ⟨q, hadd⟩ := hok
        have howner : f.fqsen.owner? ≠ some k := fun howner => hk (h.2 k howner)
        rw [perform_addFunction hadd, Registry.class?_of_addFunction hadd, if_neg howner]
    | count kind => rfl
    | editClass name e => exact (r.class?_modifyClass name k e.apply).trans (if_neg (hne h))
    | acceptAny name => rfl
  · rw [perform_of_not_succeeds hok]

lemma function?_of_notMem (h : op.Uses classes functions) {k : Fqsen} (hk : k ∉ functions) :
    (op.perform r).function? k = r.function? k := by
  by_cases hok : op.Succeeds r
  · have hne {name : Fqsen} (hname : name ∈ functions) : name ≠ k := fun heq => hk (heq ▸ hname)
    cases op with
    | addClass c =>
        obtain ⟨q, hadd⟩ := hok
        rw [perform_addClass hadd, Registry.function?_of_addClass hadd]
    | addFunction f =>
        obtain ⟨q, hadd⟩ := hok
        rw [perform_addFunction hadd, Registry.function?_of_addFunction hadd, if_neg (hne h.1)]
    | count kind => rfl
    | editClass name e => rfl
    | acceptAny name => exact (r.function?_modifyFunction name k _).trans (if_neg (hne h))
  · rw [perform_of_not_succeeds hok]

/-! ### What is the same -/

/-- Whether an operation succeeds depends on what it uses. -/
lemma succeeds_iff (h : op.Uses classes functions) (hr : r.AgreeOn classes functions r') :
    op.Succeeds r ↔ op.Succeeds r' := by
  have hclass {k : Fqsen} (hk : k ∈ classes) : r.hasClass k = r'.hasClass k := by
    rw [Registry.hasClass_eq_isSome, hr.class?_eq k hk, Registry.hasClass_eq_isSome]
  have hfunction {k : Fqsen} (hk : k ∈ functions) : r.hasFunction k = r'.hasFunction k := by
    rw [Registry.hasFunction_eq_isSome, hr.function?_eq k hk, Registry.hasFunction_eq_isSome]
  cases op with
  | addClass c =>
      simp only [Succeeds, Registry.addClass_eq_ok_iff, exists_and_left, exists_eq, and_true,
        hclass h]
  | addFunction f =>
      have howner : (∀ owner ∈ f.fqsen.owner?, r.hasClass owner = true) ↔
          ∀ owner ∈ f.fqsen.owner?, r'.hasClass owner = true :=
        forall₂_congr fun owner howner => by rw [hclass (h.2 owner howner)]
      simp only [Succeeds, Registry.addFunction_eq_ok_iff, exists_and_left, exists_eq, and_true,
        hfunction h.1, howner]
  | count kind => rfl
  | editClass name e => rw [Succeeds, Succeeds, hclass h]
  | acceptAny name => rw [Succeeds, Succeeds, hfunction h]

/-- So does what it leaves behind. -/
lemma agreeOn_perform (h : op.Uses classes functions) (hr : r.AgreeOn classes functions r') :
    (op.perform r).AgreeOn classes functions (op.perform r') := by
  have hiff := h.succeeds_iff hr
  by_cases hok : op.Succeeds r
  · have hok' := hiff.mp hok
    cases op with
    | addClass c =>
        obtain ⟨q, hadd⟩ := hok
        obtain ⟨q', hadd'⟩ := hok'
        rw [perform_addClass hadd, perform_addClass hadd']
        refine ⟨fun k hk => ?_, fun k hk => ?_⟩
        · rw [Registry.class?_of_addClass hadd, Registry.class?_of_addClass hadd',
            hr.class?_eq k hk]
        · rw [Registry.function?_of_addClass hadd, Registry.function?_of_addClass hadd',
            hr.function?_eq k hk]
    | addFunction f =>
        obtain ⟨q, hadd⟩ := hok
        obtain ⟨q', hadd'⟩ := hok'
        rw [perform_addFunction hadd, perform_addFunction hadd']
        refine ⟨fun k hk => ?_, fun k hk => ?_⟩
        · rw [Registry.class?_of_addFunction hadd, Registry.class?_of_addFunction hadd',
            hr.class?_eq k hk]
        · rw [Registry.function?_of_addFunction hadd, Registry.function?_of_addFunction hadd',
            hr.function?_eq k hk]
    | count kind => exact ⟨hr.class?_eq, hr.function?_eq⟩
    | editClass name e =>
        refine ⟨fun k hk => ?_, hr.function?_eq⟩
        refine (r.class?_modifyClass name k e.apply).trans ?_
        rw [hr.class?_eq k hk]
        exact (r'.class?_modifyClass name k e.apply).symm
    | acceptAny name =>
        refine ⟨hr.class?_eq, fun k hk => ?_⟩
        refine (r.function?_modifyFunction name k FunctionLike.acceptAny).trans ?_
        rw [hr.function?_eq k hk]
        exact (r'.function?_modifyFunction name k FunctionLike.acceptAny).symm
  · rw [perform_of_not_succeeds hok, perform_of_not_succeeds (mt hiff.mpr hok)]
    exact hr

end Uses

end Operation

/-! ### Rows of operations -/

section

variable {classes functions : List Fqsen} {ops : List Operation} {r r' : Registry}
variable (h : ∀ op ∈ ops, op.Uses classes functions)

include h

lemma class?_performAll_of_notMem {k : Fqsen} (hk : k ∉ classes) :
    (performAll ops r).class? k = r.class? k := by
  induction ops generalizing r with
  | nil => rfl
  | cons op ops ih =>
      obtain ⟨hop, hops⟩ := List.forall_mem_cons.mp h
      rw [performAll_cons, ih hops, hop.class?_of_notMem hk]

lemma function?_performAll_of_notMem {k : Fqsen} (hk : k ∉ functions) :
    (performAll ops r).function? k = r.function? k := by
  induction ops generalizing r with
  | nil => rfl
  | cons op ops ih =>
      obtain ⟨hop, hops⟩ := List.forall_mem_cons.mp h
      rw [performAll_cons, ih hops, hop.function?_of_notMem hk]

lemma Registry.AgreeOn.performAll (hr : r.AgreeOn classes functions r') :
    (performAll ops r).AgreeOn classes functions (performAll ops r') := by
  induction ops generalizing r r' with
  | nil => exact hr
  | cons op ops ih =>
      obtain ⟨hop, hops⟩ := List.forall_mem_cons.mp h
      exact ih hops (hop.agreeOn_perform hr)

end

section

variable {classes functions classes' functions' : List Fqsen} {ops ops' : List Operation}

/-- **Operations on different declarations commute**, refused or not. -/
theorem performAll_comm (h : ∀ op ∈ ops, op.Uses classes functions)
    (h' : ∀ op ∈ ops', op.Uses classes' functions') (hclasses : classes.Disjoint classes')
    (hfunctions : functions.Disjoint functions') (r : Registry) :
    performAll ops' (performAll ops r) = performAll ops (performAll ops' r) := by
  -- where one row works the other leaves the registry as it was
  have hagree : (performAll ops' r).AgreeOn classes functions r :=
    ⟨fun _ hk => class?_performAll_of_notMem h' (hclasses hk),
      fun _ hk => function?_performAll_of_notMem h' (hfunctions hk)⟩
  have hagree' : (performAll ops r).AgreeOn classes' functions' r :=
    ⟨fun _ hk' => class?_performAll_of_notMem h fun hk => hclasses hk hk',
      fun _ hk' => function?_performAll_of_notMem h fun hk => hfunctions hk hk'⟩
  have hrow := hagree.performAll h
  have hrow' := hagree'.performAll h'
  refine Registry.ext_get (fun k => ?_) (fun k => ?_) (Tally.ext_of fun kind => ?_)
  · by_cases hk : k ∈ classes
    · rw [class?_performAll_of_notMem h' (hclasses hk), hrow.class?_eq k hk]
    · rw [class?_performAll_of_notMem h hk]
      by_cases hk' : k ∈ classes'
      · rw [hrow'.class?_eq k hk']
      · rw [class?_performAll_of_notMem h' hk', class?_performAll_of_notMem h hk,
          class?_performAll_of_notMem h' hk']
  · by_cases hk : k ∈ functions
    · rw [function?_performAll_of_notMem h' (hfunctions hk), hrow.function?_eq k hk]
    · rw [function?_performAll_of_notMem h hk]
      by_cases hk' : k ∈ functions'
      · rw [hrow'.function?_eq k hk']
      · rw [function?_performAll_of_notMem h' hk', function?_performAll_of_notMem h hk,
          function?_performAll_of_notMem h' hk']
  · rw [tally_performAll, tally_performAll, tally_performAll, tally_performAll,
      Nat.add_right_comm]

end

end PhpIndex
