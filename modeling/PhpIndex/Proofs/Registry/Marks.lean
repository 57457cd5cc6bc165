import Mathlib.Tactic.Common
import PhpIndex.Proofs.Registry.Operations

/-!
Registries without the marks of declarations in branches.

* `ClassLike.unmarked`, `FunctionLike.unmarked`, `Registry.unmarked`: declarations as if none of
  them were in a branch;
* `Registry.freeClass_eq`, `Registry.freeFunction_eq`: the identities that are given do not depend on
  marks;
* `Operation.unmarked`, `Operation.perform_unmarked`, `performAll_unmarked`: **whatever is done to a
  registry is done without marks as it is with them**, what is refused included.
-/

namespace PhpIndex

/-- The class without the mark of a branch. -/
def ClassLike.unmarked (c : ClassLike) : ClassLike := { c with isConditional := false }

/-- The function without the mark of a branch. -/
def FunctionLike.unmarked (f : FunctionLike) : FunctionLike := { f with isConditional := false }

@[simp] lemma ClassLike.fqsen_unmarked (c : ClassLike) : c.unmarked.fqsen = c.fqsen := rfl

@[simp] lemma FunctionLike.fqsen_unmarked (f : FunctionLike) : f.unmarked.fqsen = f.fqsen := rfl

@[simp] lemma FunctionLike.name_unmarked (f : FunctionLike) : f.unmarked.name = f.name := rfl

/-- A change of a class and the loss of its mark can be exchanged. -/
lemma ClassEdit.unmarked_apply (e : ClassEdit) (c : ClassLike) :
    (e.apply c).unmarked = e.apply c.unmarked := by
  cases e <;> simp only [apply, ClassLike.addTrait, ClassLike.requireParentCall] <;>
    first | rfl | (split <;> split <;> first | rfl | simp_all [ClassLike.unmarked])

namespace Registry

/-- The registry with all marks of branches erased. -/
def unmarked (r : Registry) : Registry where
  classes := r.classes.map fun _ c => c.unmarked
  functions := r.functions.map fun _ f => f.unmarked
  tally := r.tally

variable (r : Registry)

/-! ### What is found without marks -/

@[simp] lemma class?_unmarked (k : Fqsen) :
    r.unmarked.class? k = (r.class? k).map ClassLike.unmarked :=
  Std.ExtTreeMap.getElem?_map

@[simp] lemma function?_unmarked (k : Fqsen) :
    r.unmarked.function? k = (r.function? k).map FunctionLike.unmarked :=
  Std.ExtTreeMap.getElem?_map

@[simp] lemma hasClass_unmarked : r.unmarked.hasClass = r.hasClass := by
  funext k
  exact Std.ExtTreeMap.contains_map

@[simp] lemma hasFunction_unmarked : r.unmarked.hasFunction = r.hasFunction := by
  funext k
  exact Std.ExtTreeMap.contains_map

/-- Identities are given without regard to marks. -/
lemma freeClass_unmarked (name : Fqsen) : r.unmarked.freeClass name = r.freeClass name := by
  have hsize : r.unmarked.classCount = r.classCount := Std.ExtTreeMap.size_map
  rw [freeClass, freeClass, hasClass_unmarked, hsize]

lemma freeFunction_unmarked (name : Fqsen) :
    r.unmarked.freeFunction name = r.freeFunction name := by
  have hsize : r.unmarked.functionCount = r.functionCount := Std.ExtTreeMap.size_map
  rw [freeFunction, freeFunction, hasFunction_unmarked, hsize]

variable {r} in
/-- So registries that differ in marks alone give the same. -/
lemma freeClass_eq {r' : Registry} (h : r.unmarked = r'.unmarked) (name : Fqsen) :
    r.freeClass name = r'.freeClass name := by
  rw [← r.freeClass_unmarked, h, r'.freeClass_unmarked]

variable {r} in
lemma freeFunction_eq {r' : Registry} (h : r.unmarked = r'.unmarked) (name : Fqsen) :
    r.freeFunction name = r'.freeFunction name := by
  rw [← r.freeFunction_unmarked, h, r'.freeFunction_unmarked]

/-! ### What is done without marks -/

lemma unmarked_storeClass (c : ClassLike) :
    (r.storeClass c).unmarked = r.unmarked.storeClass c.unmarked := by
  refine ext_get (fun k => ?_) (fun k => rfl) rfl
  rw [class?_unmarked, class?_storeClass, class?_storeClass, class?_unmarked]
  exact apply_ite (Option.map ClassLike.unmarked) _ _ _

lemma unmarked_storeFunction (f : FunctionLike) :
    (r.storeFunction f).unmarked = r.unmarked.storeFunction f.unmarked := by
  refine ext_get (fun k => rfl) (fun k => ?_) rfl
  rw [function?_unmarked, function?_storeFunction, function?_storeFunction, function?_unmarked]
  exact apply_ite (Option.map FunctionLike.unmarked) _ _ _

/-- A change that does not look at the mark of a class is made without marks as with them. -/
lemma unmarked_modifyClass (name : Fqsen) (change : ClassLike → ClassLike)
    (hchange : ∀ c, (change c).unmarked = change c.unmarked) :
    (r.modifyClass name change).unmarked = r.unmarked.modifyClass name change := by
  refine ext_get (fun k => ?_) (fun k => rfl) rfl
  rw [class?_unmarked, class?_modifyClass, class?_modifyClass, class?_unmarked]
  split
  · simp only [Option.map_map, Function.comp_def, hchange]
  · rfl

lemma unmarked_modifyFunction (name : Fqsen) (change : FunctionLike → FunctionLike)
    (hchange : ∀ f, (change f).unmarked = change f.unmarked) :
    (r.modifyFunction name change).unmarked = r.unmarked.modifyFunction name change := by
  refine ext_get (fun k => rfl) (fun k => ?_) rfl
  rw [function?_unmarked, function?_modifyFunction, function?_modifyFunction, function?_unmarked]
  split
  · simp only [Option.map_map, Function.comp_def, hchange]
  · rfl

/-- A class is refused without marks when it is with them. -/
lemma addClass_unmarked (c : ClassLike) :
    r.unmarked.addClass c.unmarked = (r.addClass c).map unmarked := by
  rw [addClass, addClass, hasClass_unmarked, c.fqsen_unmarked]
  split
  · rfl
  · exact congrArg Except.ok (r.unmarked_storeClass c).symm

lemma addFunction_unmarked (f : FunctionLike) :
    r.unmarked.addFunction f.unmarked = (r.addFunction f).map unmarked := by
  have hstore := r.unmarked_storeFunction f
  rw [addFunction, addFunction, hasFunction_unmarked, hasClass_unmarked, f.fqsen_unmarked]
  split
  · rfl
  · cases f.fqsen.owner? with
    | none => exact congrArg Except.ok hstore.symm
    | some owner =>
        simp only
        split
        · have hmodify := (r.storeFunction f).unmarked_modifyClass owner (·.addMethod f.fqsen)
            fun c => rfl
          rw [hstore] at hmodify
          exact congrArg Except.ok hmodify.symm
        · rfl

end Registry

/-! ### Operations without marks -/

namespace Operation

/-- The operation on a declaration without a mark. -/
def unmarked : Operation → Operation
  | addClass c => addClass c.unmarked
  | addFunction f => addFunction f.unmarked
  | op => op

/-- **An operation does without marks what it does with them.** -/
theorem perform_unmarked (op : Operation) (r : Registry) :
    op.unmarked.perform r.unmarked = (op.perform r).unmarked := by
  cases op with
  | addClass c =>
      rw [unmarked, perform, perform, update, update, Update.outcome_registerClass,
        Update.outcome_registerClass, r.addClass_unmarked]
      cases r.addClass c <;> rfl
  | addFunction f =>
      rw [unmarked, perform, perform, update, update, Update.outcome_registerFunction,
        Update.outcome_registerFunction, r.addFunction_unmarked]
      cases r.addFunction f <;> rfl
  | count kind => rfl
  | editClass name e => exact (r.unmarked_modifyClass name e.apply e.unmarked_apply).symm
  | acceptAny name => exact (r.unmarked_modifyFunction name FunctionLike.acceptAny fun f => rfl).symm

end Operation

/-- So does a row of operations. -/
theorem performAll_unmarked (ops : List Operation) (r : Registry) :
    performAll (ops.map Operation.unmarked) r.unmarked = (performAll ops r).unmarked := by
  induction ops generalizing r with
  | nil => rfl
  | cons op ops ih =>
      rw [List.map_cons, performAll_cons, op.perform_unmarked, ih, performAll_cons]

end PhpIndex
