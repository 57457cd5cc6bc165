import Mathlib.Tactic.Common
import PhpIndex.Registry.Basic

/-!
What is done to a registry, one operation after the other.

* `class?_of_addClass`, `function?_of_addFunction` and the like: what is found after a declaration
  has been accepted;
* `ClassEdit`, `Operation`: the changes of a registered class, and all that is done to a registry;
* `Update`, `Operation.update`: the operations as changes in place, in which a refusal does not
  undo what was done before it; `Update.outcome_registerClass`, `Update.outcome_registerFunction`:
  the order of the checks is such that nothing has been done by then;
* `Operation.perform`, `performAll`: the registry after an operation and after a row of them;
* `Operation.Succeeds`, `AllSucceed`: nothing is refused, and what is to be changed is found;
* `newClasses`, `newFunctions`: the declarations that operations register, with
  `hasClass_performAll` and `hasFunction_performAll` saying that if they succeed nothing else is
  new;
* `Operation.counted?`, `tally_performAll`: what operations count does not depend on the registry.
-/

namespace PhpIndex

namespace Registry

variable {r r' : Registry}

/-! ### What is found after a declaration -/

lemma hasClass_eq_isSome (r : Registry) (k : Fqsen) : r.hasClass k = (r.class? k).isSome :=
  Std.ExtTreeMap.isSome_getElem?_eq_contains.symm

lemma hasFunction_eq_isSome (r : Registry) (k : Fqsen) :
    r.hasFunction k = (r.function? k).isSome :=
  Std.ExtTreeMap.isSome_getElem?_eq_contains.symm

lemma class?_eq_none_iff {k : Fqsen} : r.class? k = none ↔ r.hasClass k = false := by
  rw [hasClass_eq_isSome, Option.isSome_eq_false_iff, Option.isNone_iff_eq_none]

lemma function?_eq_none_iff {k : Fqsen} : r.function? k = none ↔ r.hasFunction k = false := by
  rw [hasFunction_eq_isSome, Option.isSome_eq_false_iff, Option.isNone_iff_eq_none]

/-- A free identity is none under which a class is found. -/
lemma ne_of_class? {k l : Fqsen} {c : ClassLike} (hfree : r.hasClass k = false)
    (hc : r.class? l = some c) : k ≠ l := by
  rintro rfl
  rw [class?_eq_none_iff.mpr hfree] at hc
  cases hc

lemma ne_of_function? {k l : Fqsen} {f : FunctionLike} (hfree : r.hasFunction k = false)
    (hf : r.function? l = some f) : k ≠ l := by
  rintro rfl
  rw [function?_eq_none_iff.mpr hfree] at hf
  cases hf

/-- The registry with a class stored under its identity. -/
def storeClass (r : Registry) (c : ClassLike) : Registry :=
  { r with classes := r.classes.insert c.fqsen c }

lemma class?_storeClass (r : Registry) (c : ClassLike) (k : Fqsen) :
    (r.storeClass c).class? k = if c.fqsen = k then some c else r.class? k := by
  simp [class?, storeClass, Std.ExtTreeMap.getElem?_insert]

/-- An accepted class had a free identity and is all that is added. -/
lemma addClass_eq_ok_iff {c : ClassLike} :
    r.addClass c = .ok r' ↔ r.hasClass c.fqsen = false ∧ r' = r.storeClass c := by
  rw [addClass]
  cases r.hasClass c.fqsen <;> simp [storeClass, @eq_comm _ r']

section

variable {c : ClassLike} (h : r.addClass c = .ok r')

include h

lemma class?_of_addClass (k : Fqsen) :
    r'.class? k = if c.fqsen = k then some c else r.class? k := by
  obtain ⟨-, rfl⟩ := addClass_eq_ok_iff.mp h
  exact r.class?_storeClass c k

lemma function?_of_addClass (k : Fqsen) : r'.function? k = r.function? k := by
  obtain ⟨-, rfl⟩ := addClass_eq_ok_iff.mp h
  rfl

lemma tally_of_addClass : r'.tally = r.tally := by
  obtain ⟨-, rfl⟩ := addClass_eq_ok_iff.mp h
  rfl

end

/-- The registry with a function stored under its identity. -/
def storeFunction (r : Registry) (f : FunctionLike) : Registry :=
  { r with functions := r.functions.insert f.fqsen f }

lemma function?_storeFunction (r : Registry) (f : FunctionLike) (k : Fqsen) :
    (r.storeFunction f).function? k = if f.fqsen = k then some f else r.function? k := by
  simp [function?, storeFunction, Std.ExtTreeMap.getElem?_insert]

/-- An accepted function had a free identity, and the class of an accepted method is registered
and has the method in its list. -/
lemma addFunction_eq_ok_iff {f : FunctionLike} :
    r.addFunction f = .ok r' ↔
      r.hasFunction f.fqsen = false ∧
      (∀ owner ∈ f.fqsen.owner?, r.hasClass owner = true) ∧
      r' = match f.fqsen.owner? with
        | none => r.storeFunction f
        | some owner => (r.storeFunction f).modifyClass owner (·.addMethod f.fqsen) := by
  rw [addFunction]
  cases r.hasFunction f.fqsen with
  | true => simp
  | false =>
      cases f.fqsen.owner? with
      | none => simp [storeFunction, @eq_comm _ r']
      | some owner =>
          cases howner : r.hasClass owner <;> simp [howner, storeFunction, @eq_comm _ r']

section

variable {f : FunctionLike} (h : r.addFunction f = .ok r')

include h

lemma function?_of_addFunction (k : Fqsen) :
    r'.function? k = if f.fqsen = k then some f else r.function? k := by
  obtain ⟨-, -, rfl⟩ := addFunction_eq_ok_iff.mp h
  cases f.fqsen.owner? <;> exact r.function?_storeFunction f k

/-- A new method is the last in the list of its class. -/
lemma class?_of_addFunction (k : Fqsen) :
    r'.class? k =
      if f.fqsen.owner? = some k then (r.class? k).map (·.addMethod f.fqsen) else r.class? k := by
  obtain ⟨-, -, rfl⟩ := addFunction_eq_ok_iff.mp h
  cases f.fqsen.owner? with
  | none => simp [class?, storeFunction]
  | some owner =>
      have := class?_modifyClass (r.storeFunction f) owner k (·.addMethod f.fqsen)
      simpa [class?, storeFunction] using this

lemma tally_of_addFunction : r'.tally = r.tally := by
  obtain ⟨-, -, rfl⟩ := addFunction_eq_ok_iff.mp h
  cases f.fqsen.owner? <;> rfl

end

/-! ### What is found after a change -/

variable (r) (name : Fqsen)

@[simp] lemma hasClass_modifyClass (change : ClassLike → ClassLike) (k : Fqsen) :
    (r.modifyClass name change).hasClass k = r.hasClass k := by
  rw [hasClass_eq_isSome, class?_modifyClass, hasClass_eq_isSome]
  split <;> simp

@[simp] lemma hasFunction_modifyFunction (change : FunctionLike → FunctionLike) (k : Fqsen) :
    (r.modifyFunction name change).hasFunction k = r.hasFunction k := by
  rw [hasFunction_eq_isSome, function?_modifyFunction, hasFunction_eq_isSome]
  split <;> simp

/-- Two changes of a class are one. -/
lemma modifyClass_modifyClass (change change' : ClassLike → ClassLike) :
    (r.modifyClass name change).modifyClass name change' =
      r.modifyClass name fun c => change' (change c) := by
  refine ext_get (fun k => ?_) (fun _ => rfl) rfl
  simp only [class?_modifyClass]
  split <;> simp [Function.comp_def]

/-- A change that leaves the class as it is leaves the registry as it is. -/
lemma modifyClass_id : (r.modifyClass name fun c => c) = r := by
  refine ext_get (fun k => ?_) (fun _ => rfl) rfl
  rw [class?_modifyClass]
  split <;> simp

end Registry

/-! ### Operations -/

/-- A change that a member, or a call in a method, makes to a registered class. -/
inductive ClassEdit where
  | addTrait (name : Fqsen)
  | addProperty (p : Property)
  | addConstant (k : ClassConstant)
  | requireParentCall
  | noteParentCall
  | markCallable

/-- The class after a change. -/
def ClassEdit.apply : ClassEdit → ClassLike → ClassLike
  | addTrait name, c => c.addTrait name
  | addProperty p, c => c.addProperty p
  | addConstant k, c => c.addConstant k
  | requireParentCall, c => c.requireParentCall
  | noteParentCall, c => c.noteParentCall
  | markCallable, c => c.markCallable

namespace ClassEdit

/-- No change gives a class another identity. -/
@[simp] lemma fqsen_apply (e : ClassEdit) (c : ClassLike) : (e.apply c).fqsen = c.fqsen := by
  cases e <;> simp only [apply, ClassLike.addTrait, ClassLike.requireParentCall] <;>
    first | rfl | (split <;> rfl)

/-- No change adds or removes a method. -/
@[simp] lemma methods_apply (e : ClassEdit) (c : ClassLike) :
    (e.apply c).methods = c.methods := by
  cases e <;> simp only [apply, ClassLike.addTrait, ClassLike.requireParentCall] <;>
    first | rfl | (split <;> rfl)

end ClassEdit

/-- What is done to a registry. -/
inductive Operation where
  | addClass (c : ClassLike)
  | addFunction (f : FunctionLike)
  | count (kind : Counted)
  | editClass (name : Fqsen) (edit : ClassEdit)
  | acceptAny (name : Fqsen)

/-! ### Changes in place -/

/-- A change of a registry in place. What has been done before a refusal stays done. -/
abbrev Update := ExceptT RegistrationError (StateM Registry)

namespace Update

/-- A refusal under some condition on the registry. -/
def refuseIf (bad : Registry → Bool) (e : RegistrationError) : Update Unit := do
  if bad (← get) then throw e

/-- The registration of a class. -/
def registerClass (c : ClassLike) : Update Unit := do
  refuseIf (·.hasClass c.fqsen) (.duplicateClass c.fqsen)
  modify (·.storeClass c)

/-- The entry of a method in the list of its class. -/
def enlist (f : FunctionLike) : Update Unit :=
  match f.fqsen.owner? with
  | none => pure ()
  | some owner => do
      refuseIf (! ·.hasClass owner) (.unknownClass owner)
      modify (·.modifyClass owner (·.addMethod f.fqsen))

/-- The registration of a function or method: a method is in the list of its class before it is
stored itself. -/
def registerFunction (f : FunctionLike) : Update Unit := do
  refuseIf (·.hasFunction f.fqsen) (.duplicateFunction f.fqsen)
  enlist f
  modify (·.storeFunction f)

/-- What a change answers, and the registry it leaves behind. -/
def outcome (u : Update Unit) (r : Registry) : Except RegistrationError Unit × Registry :=
  StateT.run (ExceptT.run u) r

variable (r : Registry)

@[simp] lemma outcome_modify (change : Registry → Registry) :
    outcome (modify change) r = (.ok (), change r) := rfl

lemma outcome_refuseIf_bind (bad : Registry → Bool) (e : RegistrationError) (u : Update Unit) :
    (refuseIf bad e >>= fun _ => u).outcome r = if bad r then (.error e, r) else u.outcome r := by
  have : (refuseIf bad e >>= fun _ => u).outcome r =
      ((if bad r then throw e else pure ()) >>= fun _ => u).outcome r := rfl
  rw [this]
  split <;> rfl

/-- A refused class leaves nothing behind. -/
theorem outcome_registerClass (c : ClassLike) :
    (registerClass c).outcome r =
      match r.addClass c with
      | .ok r' => (.ok (), r')
      | .error e => (.error e, r) := by
  rw [registerClass, outcome_refuseIf_bind, Registry.addClass]
  split <;> rfl

/-- Nor does a refused function or method: both checks come before the first change. -/
theorem outcome_registerFunction (f : FunctionLike) :
    (registerFunction f).outcome r =
      match r.addFunction f with
      | .ok r' => (.ok (), r')
      | .error e => (.error e, r) := by
  rw [registerFunction, outcome_refuseIf_bind, Registry.addFunction, enlist]
  split
  · rfl
  · cases f.fqsen.owner? with
    | none => rfl
    | some owner =>
        simp only [bind_assoc]
        rw [outcome_refuseIf_bind]
        cases r.hasClass owner <;> rfl

end Update

/-! ### Rows of operations -/

namespace Operation

/-- An operation as a change in place. Where nothing is registered there is nothing to change. -/
def update : Operation → Update Unit
  | addClass c => .registerClass c
  | addFunction f => .registerFunction f
  | count kind => modify (·.count kind)
  | editClass name edit => modify (·.modifyClass name edit.apply)
  | acceptAny name => modify (·.modifyFunction name FunctionLike.acceptAny)

/-- The registry after an operation, refused or not. -/
def perform (op : Operation) (r : Registry) : Registry := (op.update.outcome r).2

/-- Whether a declaration is accepted, or what is to be changed is registered. -/
def Succeeds : Operation → Registry → Prop
  | addClass c, r => ∃ r', r.addClass c = .ok r'
  | addFunction f, r => ∃ r', r.addFunction f = .ok r'
  | count _, _ => True
  | editClass name _, r => r.hasClass name = true
  | acceptAny name, r => r.hasFunction name = true

variable {r r' : Registry}

lemma perform_addClass {c : ClassLike} (h : r.addClass c = .ok r') :
    (addClass c).perform r = r' := by
  rw [perform, update, Update.outcome_registerClass, h]

lemma perform_addFunction {f : FunctionLike} (h : r.addFunction f = .ok r') :
    (addFunction f).perform r = r' := by
  rw [perform, update, Update.outcome_registerFunction, h]

/-- An operation that is refused leaves the registry as it is. -/
theorem perform_of_refused {op : Operation} {e : RegistrationError}
    (h : (op.update.outcome r).1 = .error e) : op.perform r = r := by
  cases op with
  | addClass c =>
      rw [update, Update.outcome_registerClass] at h
      rw [perform, update, Update.outcome_registerClass]
      cases hc : r.addClass c <;> simp_all
  | addFunction f =>
      rw [update, Update.outcome_registerFunction] at h
      rw [perform, update, Update.outcome_registerFunction]
      cases hf : r.addFunction f <;> simp_all
  | _ => simp [update] at h

end Operation

/-- The registry after a row of operations. -/
def performAll (ops : List Operation) (r : Registry) : Registry :=
  ops.foldl (fun r op => op.perform r) r

/-- Whether each of a row of operations succeeds in its turn. -/
def AllSucceed : List Operation → Registry → Prop
  | [], _ => True
  | op :: rest, r => op.Succeeds r ∧ AllSucceed rest (op.perform r)

@[simp] lemma performAll_nil (r : Registry) : performAll [] r = r := rfl

@[simp] lemma performAll_cons (op : Operation) (ops : List Operation) (r : Registry) :
    performAll (op :: ops) r = performAll ops (op.perform r) := rfl

@[simp] lemma performAll_append (ops ops' : List Operation) (r : Registry) :
    performAll (ops ++ ops') r = performAll ops' (performAll ops r) :=
  List.foldl_append

@[simp] lemma allSucceed_nil (r : Registry) : AllSucceed [] r := trivial

@[simp] lemma allSucceed_cons {op : Operation} {ops : List Operation} {r : Registry} :
    AllSucceed (op :: ops) r ↔ op.Succeeds r ∧ AllSucceed ops (op.perform r) := Iff.rfl

@[simp] lemma allSucceed_append {ops ops' : List Operation} {r : Registry} :
    AllSucceed (ops ++ ops') r ↔ AllSucceed ops r ∧ AllSucceed ops' (performAll ops r) := by
  induction ops generalizing r with
  | nil => simp
  | cons op ops ih => simp [ih, and_assoc]

/-! ### Changes of one class -/

/-- A row of changes as one. -/
lemma performAll_editClass (edits : List ClassEdit) (name : Fqsen) (r : Registry) :
    performAll (edits.map (.editClass name)) r =
      r.modifyClass name fun c => edits.foldl (fun c e => e.apply c) c := by
  induction edits generalizing r with
  | nil => exact (r.modifyClass_id name).symm
  | cons e edits ih =>
      rw [List.map_cons, performAll_cons, ih]
      exact r.modifyClass_modifyClass name _ _

/-- A registered class can be changed again and again. -/
lemma allSucceed_editClass {edits : List ClassEdit} {name : Fqsen} {r : Registry}
    (h : r.hasClass name = true) : AllSucceed (edits.map (.editClass name)) r := by
  induction edits generalizing r with
  | nil => exact allSucceed_nil r
  | cons e edits ih => exact ⟨h, ih ((r.hasClass_modifyClass name e.apply name).trans h)⟩

/-! ### What is registered after operations -/

namespace Operation

/-- The class that the operation registers. -/
def newClass? : Operation → Option ClassLike
  | addClass c => some c
  | _ => none

/-- The function or method that the operation registers. -/
def newFunction? : Operation → Option FunctionLike
  | addFunction f => some f
  | _ => none

variable {op : Operation} {r : Registry}

lemma hasClass_perform (h : op.Succeeds r) (k : Fqsen) :
    (op.perform r).hasClass k = true ↔
      r.hasClass k = true ∨ op.newClass?.map (·.fqsen) = some k := by
  cases op with
  | addClass c =>
      obtain ⟨r', h⟩ := h
      rw [perform_addClass h, Registry.hasClass_eq_isSome, Registry.class?_of_addClass h,
        Registry.hasClass_eq_isSome, newClass?, Option.map_some, Option.some_inj]
      split <;> simp_all
  | addFunction f =>
      obtain ⟨r', h⟩ := h
      rw [perform_addFunction h, Registry.hasClass_eq_isSome, Registry.class?_of_addFunction h,
        Registry.hasClass_eq_isSome]
      split <;> simp [newClass?]
  | count kind => simp [newClass?, perform, update, Registry.count, Registry.hasClass]
  | editClass name edit => simp [newClass?, perform, update]
  | acceptAny name =>
      simp [newClass?, perform, update, Registry.modifyFunction, Registry.hasClass]

lemma hasFunction_perform (h : op.Succeeds r) (k : Fqsen) :
    (op.perform r).hasFunction k = true ↔
      r.hasFunction k = true ∨ op.newFunction?.map (·.fqsen) = some k := by
  cases op with
  | addClass c =>
      obtain ⟨r', h⟩ := h
      rw [perform_addClass h, Registry.hasFunction_eq_isSome, Registry.function?_of_addClass h,
        Registry.hasFunction_eq_isSome]
      simp [newFunction?]
  | addFunction f =>
      obtain ⟨r', h⟩ := h
      rw [perform_addFunction h, Registry.hasFunction_eq_isSome,
        Registry.function?_of_addFunction h, Registry.hasFunction_eq_isSome, newFunction?,
        Option.map_some, Option.some_inj]
      split <;> simp_all
  | count kind => simp [newFunction?, perform, update, Registry.count, Registry.hasFunction]
  | editClass name edit =>
      simp [newFunction?, perform, update, Registry.modifyClass, Registry.hasFunction]
  | acceptAny name => simp [newFunction?, perform, update]

end Operation

/-- The classes that a row of operations registers. -/
def newClasses (ops : List Operation) : List ClassLike := ops.filterMap Operation.newClass?

/-- The functions and methods that a row of operations registers. -/
def newFunctions (ops : List Operation) : List FunctionLike := ops.filterMap Operation.newFunction?

lemma mem_newClasses {ops : List Operation} {c : ClassLike} :
    c ∈ newClasses ops ↔ Operation.addClass c ∈ ops := by
  rw [newClasses, List.mem_filterMap]
  constructor
  · rintro ⟨op, hop, hc⟩
    cases op <;> cases hc
    exact hop
  · exact fun h => ⟨_, h, rfl⟩

/-- The classes that are registered after operations that succeed are those before and the new
ones. -/
lemma hasClass_performAll {ops : List Operation} {r : Registry} (h : AllSucceed ops r)
    (k : Fqsen) :
    (performAll ops r).hasClass k = true ↔
      r.hasClass k = true ∨ k ∈ (newClasses ops).map (·.fqsen) := by
  induction ops generalizing r with
  | nil => simp [newClasses]
  | cons op ops ih =>
      rw [performAll_cons, ih h.2, Operation.hasClass_perform h.1, or_assoc, newClasses]
      cases hop : op.newClass? <;> simp [hop, newClasses, eq_comm (a := k)]

/-- The same for functions and methods. -/
lemma hasFunction_performAll {ops : List Operation} {r : Registry} (h : AllSucceed ops r)
    (k : Fqsen) :
    (performAll ops r).hasFunction k = true ↔
      r.hasFunction k = true ∨ k ∈ (newFunctions ops).map (·.fqsen) := by
  induction ops generalizing r with
  | nil => simp [newFunctions]
  | cons op ops ih =>
      rw [performAll_cons, ih h.2, Operation.hasFunction_perform h.1, or_assoc, newFunctions]
      cases hop : op.newFunction? <;> simp [hop, newFunctions, eq_comm (a := k)]

/-! ### What is counted -/

/-- The kind that an operation counts. -/
def Operation.counted? : Operation → Option Counted
  | count kind => some kind
  | _ => none

/-- What is counted does not depend on the registry, nor on whether the operation is refused. -/
lemma Operation.tally_perform (op : Operation) (r : Registry) (kind : Counted) :
    (op.perform r).tally.of kind =
      r.tally.of kind + if op.counted? = some kind then 1 else 0 := by
  cases op with
  | addClass c =>
      cases hadd : r.addClass c with
      | error e => simp [perform, update, Update.outcome_registerClass, hadd, counted?]
      | ok r' => simp [perform_addClass hadd, Registry.tally_of_addClass hadd, counted?]
  | addFunction f =>
      cases hadd : r.addFunction f with
      | error e => simp [perform, update, Update.outcome_registerFunction, hadd, counted?]
      | ok r' => simp [perform_addFunction hadd, Registry.tally_of_addFunction hadd, counted?]
  | count kind' =>
      simp only [counted?, Option.some_inj]
      exact r.tally.of_add kind' kind
  | editClass name e => rfl
  | acceptAny name => rfl

/-- So a row of operations adds how often it counts a kind. -/
theorem tally_performAll (ops : List Operation) (r : Registry) (kind : Counted) :
    (performAll ops r).tally.of kind =
      r.tally.of kind + (ops.filterMap Operation.counted?).count kind := by
  induction ops generalizing r with
  | nil => rfl
  | cons op ops ih =>
      rw [performAll_cons, ih, op.tally_perform, Nat.add_assoc, List.filterMap_cons]
      cases hop : op.counted? with
      | none => simp
      | some kind' => by_cases hkind : kind' = kind <;> simp [hkind, Nat.add_comm]

end PhpIndex
