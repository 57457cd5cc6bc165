import Std.Data.ExtTreeMap
import PhpIndex.Declaration.ClassLike
import PhpIndex.Declaration.FunctionLike
import PhpIndex.Issue
import PhpIndex.Registry.Tally

/-!
The registry of all declarations of a run.

* `Registry`: classes and functions by their identities, and the counts; equal contents make
  equal registries;
* `Registry.addClass`, `Registry.addFunction`: one more declaration, refused if its identity is
  taken or, for a method, if its class is not registered;
* `Registry.modifyClass`, `Registry.modifyFunction`: a change of a declaration;
* `Registry.classList`, `functionList`, `methodsOf`, `alternatesOf`: what is registered, in order;
* `Registry.leastFree`: the first alternate of an identity that is not taken;
* `Registry.addClass_eq_error_iff`, `Registry.addFunction_eq_error_iff`: when a declaration is
  refused, and why.
-/

namespace PhpIndex

/-- The declarations of a run. Methods are kept with the functions, and a class keeps the
identities of its methods in order. -/
structure Registry where
  classes : Std.ExtTreeMap Fqsen ClassLike := ∅
  functions : Std.ExtTreeMap Fqsen FunctionLike := ∅
  tally : Tally := {}
deriving DecidableEq

namespace Registry

/-- The registry of nothing. -/
def empty : Registry := {}

/-- The registry with one more of a kind counted. -/
def count (r : Registry) (kind : Counted) : Registry := { r with tally := r.tally.add kind }

/-! ### Classes -/

/-- Whether a class is registered under the identity. -/
def hasClass (r : Registry) (name : Fqsen) : Bool := r.classes.contains name

/-- The class of an identity. -/
def class? (r : Registry) (name : Fqsen) : Option ClassLike := r.classes[name]?

/-- The registry with the class of an identity changed; without such a class as it is. -/
def modifyClass (r : Registry) (name : Fqsen) (change : ClassLike → ClassLike) : Registry :=
  { r with classes := r.classes.modify name change }

/-- The registry with one more class, whose identity must not be taken. -/
def addClass (r : Registry) (c : ClassLike) : Except RegistrationError Registry :=
  if r.hasClass c.fqsen then .error (.duplicateClass c.fqsen)
  else .ok { r with classes := r.classes.insert c.fqsen c }

/-- The classes in the order of their identities. -/
def classList (r : Registry) : List ClassLike := r.classes.values

/-- The number of classes. -/
def classCount (r : Registry) : Nat := r.classes.size

/-- The classes of a name, from its first declaration up to the first alternate that is not
registered. -/
def alternatesOf (r : Registry) (name : Fqsen) : List ClassLike :=
  (((List.range r.classCount).map fun i => r.class? (name.withAlternate i)).takeWhile
    Option.isSome).filterMap id

/-! ### Functions and methods -/

/-- Whether a function or method is registered under the identity. -/
def hasFunction (r : Registry) (name : Fqsen) : Bool := r.functions.contains name

/-- The function or method of an identity. -/
def function? (r : Registry) (name : Fqsen) : Option FunctionLike := r.functions[name]?

/-- The registry with the function of an identity changed; without such a function as it is. -/
def modifyFunction (r : Registry) (name : Fqsen) (change : FunctionLike → FunctionLike) :
    Registry :=
  { r with functions := r.functions.modify name change }

/-- The registry with one more function or method, whose identity must not be taken. A method
comes last in the list of its class, which must be registered. -/
def addFunction (r : Registry) (f : FunctionLike) : Except RegistrationError Registry :=
  if r.hasFunction f.fqsen then .error (.duplicateFunction f.fqsen)
  else
    let added : Registry := { r with functions := r.functions.insert f.fqsen f }
    match f.fqsen.owner? with
    | none => .ok added
    | some owner =>
        if r.hasClass owner then .ok (added.modifyClass owner (·.addMethod f.fqsen))
        else .error (.unknownClass owner)

/-- The methods of a class in the order of their declarations. -/
def methodsOf (r : Registry) (owner : Fqsen) : List FunctionLike :=
  ((r.class? owner).map fun c => c.methods.filterMap r.function?).getD []

/-- The functions outside classes in the order of their identities. -/
def functionList (r : Registry) : List FunctionLike :=
  r.functions.values.filter FunctionLike.isFunction

/-- The number of functions and methods. -/
def functionCount (r : Registry) : Nat := r.functions.size

/-! ### Free identities -/

/-- The first alternate of an identity that is not taken, where at most `bound` of them are. -/
def leastFree (taken : Fqsen → Bool) (bound : Nat) (name : Fqsen) : Fqsen :=
  name.withAlternate
    (((List.range (bound + 1)).find? fun i => ! taken (name.withAlternate i)).getD 0)

/-- The first alternate of an identity under which no class is registered. -/
def freeClass (r : Registry) (name : Fqsen) : Fqsen := leastFree r.hasClass r.classCount name

/-- The first alternate of an identity under which no function is registered. -/
def freeFunction (r : Registry) (name : Fqsen) : Fqsen :=
  leastFree r.hasFunction r.functionCount name

/-! ### Looking up after a change -/

theorem ext_get {r s : Registry} (hc : ∀ k, r.class? k = s.class? k)
    (hf : ∀ k, r.function? k = s.function? k) (ht : r.tally = s.tally) : r = s := by
  cases r; cases s
  simp only [Registry.mk.injEq]
  exact ⟨Std.ExtTreeMap.ext_getElem? hc, Std.ExtTreeMap.ext_getElem? hf, ht⟩

theorem class?_modifyClass (r : Registry) (k l : Fqsen) (change : ClassLike → ClassLike) :
    (r.modifyClass k change).class? l =
      if k = l then (r.class? l).map change else r.class? l := by
  simp only [class?, modifyClass, Std.ExtTreeMap.getElem?_modify,
    Std.LawfulEqCmp.compare_eq_iff_eq]
  split
  · rename_i h; rw [h]
  · rfl

theorem function?_modifyFunction (r : Registry) (k l : Fqsen)
    (change : FunctionLike → FunctionLike) :
    (r.modifyFunction k change).function? l =
      if k = l then (r.function? l).map change else r.function? l := by
  simp only [function?, modifyFunction, Std.ExtTreeMap.getElem?_modify,
    Std.LawfulEqCmp.compare_eq_iff_eq]
  split
  · rename_i h; rw [h]
  · rfl

theorem hasClass_iff {r : Registry} {k : Fqsen} :
    r.hasClass k = true ↔ ∃ c, r.class? k = some c := by
  rw [hasClass, class?, ← Option.isSome_iff_exists, Std.ExtTreeMap.isSome_getElem?_eq_contains]

theorem hasFunction_iff {r : Registry} {k : Fqsen} :
    r.hasFunction k = true ↔ ∃ f, r.function? k = some f := by
  rw [hasFunction, function?, ← Option.isSome_iff_exists,
    Std.ExtTreeMap.isSome_getElem?_eq_contains]

/-- A class is refused exactly when its identity is taken. -/
theorem addClass_eq_error_iff {r : Registry} {c : ClassLike} {e : RegistrationError} :
    r.addClass c = .error e ↔ r.hasClass c.fqsen = true ∧ e = .duplicateClass c.fqsen := by
  rw [addClass]
  split
  · rename_i h
    simp [h, eq_comm (a := e)]
  · rename_i h
    simp [h]

/-- A function is refused exactly when its identity is taken or, failing that, when it is a
method whose class is not registered. -/
theorem addFunction_eq_error_iff {r : Registry} {f : FunctionLike} {e : RegistrationError} :
    r.addFunction f = .error e ↔
      r.hasFunction f.fqsen = true ∧ e = .duplicateFunction f.fqsen ∨
      r.hasFunction f.fqsen = false ∧
        ∃ owner, f.fqsen.owner? = some owner ∧ r.hasClass owner = false ∧
          e = .unknownClass owner := by
  rw [addFunction]
  split
  · rename_i h
    simp [h, eq_comm (a := e)]
  · rename_i h
    split
    · rename_i howner
      simp [h, howner]
    · rename_i owner howner
      split
      · rename_i hclass
        simp [h, howner, hclass]
      · rename_i hclass
        simp [h, howner, hclass, eq_comm (a := e)]

end Registry

end PhpIndex
