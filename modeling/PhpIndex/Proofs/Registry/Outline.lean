import Mathlib.Tactic.Common
import PhpIndex.Proofs.Registry.Operations

/-!
What a declaration keeps while its members and calls change it.

* `ClassLike.outline`, `FunctionLike.outline`: a class without what its members and the calls in
  them tell about it, and a function without its optional arguments;
* `Operation.class?_outline`, `Operation.function?_outline`: no operation, refused or not, changes
  the outline of a declaration that is registered; `class?_outline_performAll`,
  `function?_outline_performAll`: nor does a row of operations.
-/

namespace PhpIndex

/-- The class without what its members, and calls in its methods, tell about it. -/
def ClassLike.outline (c : ClassLike) : ClassLike :=
  { c with
    type := .unknown
    traits := []
    methods := []
    properties := []
    constants := []
    constructorState := .notRequired }

/-- The function without its count of optional arguments, which calls in it may change. -/
def FunctionLike.outline (f : FunctionLike) : FunctionLike := { f with optional := .upTo 0 }

lemma ClassLike.isConditional_outline (c : ClassLike) :
    c.outline.isConditional = c.isConditional := rfl

lemma FunctionLike.isConditional_outline (f : FunctionLike) :
    f.outline.isConditional = f.isConditional := rfl

lemma ClassEdit.outline_apply (e : ClassEdit) (c : ClassLike) :
    (e.apply c).outline = c.outline := by
  cases e <;> simp only [apply, ClassLike.addTrait, ClassLike.requireParentCall] <;>
    first | rfl | (split <;> rfl)

namespace Operation

variable {r : Registry} {k : Fqsen}

/-- An operation on a registry, refused or not, changes no outline of a class. -/
lemma class?_outline (op : Operation) {c : ClassLike} (h : r.class? k = some c) :
    ((op.perform r).class? k).map ClassLike.outline = some c.outline := by
  cases op with
  | addClass d =>
      cases hadd : r.addClass d with
      | error e =>
          rw [perform, update, Update.outcome_registerClass, hadd, h, Option.map_some]
      | ok r' =>
          have hne := Registry.ne_of_class? (Registry.addClass_eq_ok_iff.mp hadd).1 h
          rw [perform_addClass hadd, Registry.class?_of_addClass hadd, if_neg hne, h,
            Option.map_some]
  | addFunction f =>
      cases hadd : r.addFunction f with
      | error e =>
          rw [perform, update, Update.outcome_registerFunction, hadd, h, Option.map_some]
      | ok r' =>
          rw [perform_addFunction hadd, Registry.class?_of_addFunction hadd, h]
          split <;> rfl
  | count kind => exact congrArg (Option.map ClassLike.outline) h
  | editClass name e =>
      show ((r.modifyClass name e.apply).class? k).map ClassLike.outline = some c.outline
      rw [Registry.class?_modifyClass, h]
      split
      · exact congrArg some (e.outline_apply c)
      · rfl
  | acceptAny name => exact congrArg (Option.map ClassLike.outline) h

/-- Nor does it change an outline of a function. -/
lemma function?_outline (op : Operation) {f : FunctionLike} (h : r.function? k = some f) :
    ((op.perform r).function? k).map FunctionLike.outline = some f.outline := by
  cases op with
  | addClass d =>
      cases hadd : r.addClass d with
      | error e =>
          rw [perform, update, Update.outcome_registerClass, hadd, h, Option.map_some]
      | ok r' =>
          rw [perform_addClass hadd, Registry.function?_of_addClass hadd, h, Option.map_some]
  | addFunction g =>
      cases hadd : r.addFunction g with
      | error e =>
          rw [perform, update, Update.outcome_registerFunction, hadd, h, Option.map_some]
      | ok r' =>
          have hne := Registry.ne_of_function? (Registry.addFunction_eq_ok_iff.mp hadd).1 h
          rw [perform_addFunction hadd, Registry.function?_of_addFunction hadd, if_neg hne, h,
            Option.map_some]
  | count kind => exact congrArg (Option.map FunctionLike.outline) h
  | editClass name e => exact congrArg (Option.map FunctionLike.outline) h
  | acceptAny name =>
      show ((r.modifyFunction name FunctionLike.acceptAny).function? k).map
        FunctionLike.outline = some f.outline
      rw [Registry.function?_modifyFunction, h]
      split <;> rfl

end Operation

/-- A class that is registered keeps its outline whatever is done afterwards. -/
theorem class?_outline_performAll (ops : List Operation) {r : Registry} {k : Fqsen}
    {c : ClassLike} (h : r.class? k = some c) :
    ((performAll ops r).class? k).map ClassLike.outline = some c.outline := by
  induction ops generalizing r c with
  | nil => rw [performAll_nil, h, Option.map_some]
  | cons op ops ih =>
      obtain ⟨d, hd, hsame⟩ := Option.map_eq_some_iff.mp (op.class?_outline h)
      rw [performAll_cons, ih hd, hsame]

/-- So does a function. -/
theorem function?_outline_performAll (ops : List Operation) {r : Registry} {k : Fqsen}
    {f : FunctionLike} (h : r.function? k = some f) :
    ((performAll ops r).function? k).map FunctionLike.outline = some f.outline := by
  induction ops generalizing r f with
  | nil => rw [performAll_nil, h, Option.map_some]
  | cons op ops ih =>
      obtain ⟨g, hg, hsame⟩ := Option.map_eq_some_iff.mp (op.function?_outline h)
      rw [performAll_cons, ih hg, hsame]

end PhpIndex
