import PhpIndex.Proofs.Registry.Coherence

/-!
How large a registry is, and how it grows.

* `Registry.outsideClasses`: the functions that belong to no class, of which the list of functions
  is made;
* `Registry.classCount_performAll`, `functionCount_performAll`, `length_functionList_performAll`:
  **operations that succeed add what they register**, each declaration once;
* `countsOf`, `Balanced`: operations that count what they register, each declaration under its
  kind, with the rows of which this is known.
-/

namespace PhpIndex

/-- A map grows by one with a value under a new key. -/
lemma size_insert_of_new {κ α : Type} [Ord κ] [Std.TransOrd κ] {t : Std.ExtTreeMap κ α} {k : κ}
    (h : t.contains k = false) (a : α) : (t.insert k a).size = t.size + 1 := by
  rw [Std.ExtTreeMap.size_insert, h]
  rfl

namespace Registry

/-! ### The functions outside classes -/

/-- The stored functions that belong to no class. -/
def outsideClasses (r : Registry) : Std.ExtTreeMap Fqsen FunctionLike :=
  r.functions.filter fun _ f => f.isFunction

/-- They are those that are listed. -/
lemma length_functionList (r : Registry) : r.functionList.length = r.outsideClasses.size := by
  rw [functionList, values_eq_map_toList, List.filter_map, List.length_map, outsideClasses,
    ← Std.ExtTreeMap.length_toList, Std.ExtTreeMap.toList_filter]
  rfl

lemma getElem?_outsideClasses (r : Registry) (k : Fqsen) :
    r.outsideClasses[k]? = (r.function? k).filter FunctionLike.isFunction :=
  Std.ExtTreeMap.getElem?_filter'

variable (r : Registry)

/-- A function that is stored under a free identity is one more of them if it belongs to no
class. -/
lemma size_outsideClasses_storeFunction {f : FunctionLike}
    (hfree : r.hasFunction f.fqsen = false) :
    (r.storeFunction f).outsideClasses.size =
      r.outsideClasses.size + if f.isFunction then 1 else 0 := by
  have hnone : r.function? f.fqsen = none := function?_eq_none_iff.mpr hfree
  by_cases hf : f.isFunction
  · have hinsert : (r.storeFunction f).outsideClasses = r.outsideClasses.insert f.fqsen f := by
      refine Std.ExtTreeMap.ext_getElem? fun k => ?_
      rw [getElem?_outsideClasses, function?_storeFunction, Std.ExtTreeMap.getElem?_insert,
        getElem?_outsideClasses]
      simp only [Std.LawfulEqCmp.compare_eq_iff_eq]
      split
      · rw [Option.filter_some, if_pos hf]
      · rfl
    have hnew : r.outsideClasses.contains f.fqsen = false := by
      rw [← Std.ExtTreeMap.isSome_getElem?_eq_contains, getElem?_outsideClasses, hnone]
      rfl
    rw [hinsert, size_insert_of_new hnew, if_pos hf]
  · have hsame : (r.storeFunction f).outsideClasses = r.outsideClasses := by
      refine Std.ExtTreeMap.ext_getElem? fun k => ?_
      rw [getElem?_outsideClasses, function?_storeFunction, getElem?_outsideClasses]
      split
      · rename_i hk
        rw [← hk, hnone, Option.filter_some, if_neg hf]
        rfl
      · rfl
    rw [hsame, if_neg hf, Nat.add_zero]

/-- A change that keeps the identity of a function keeps their number. -/
lemma size_outsideClasses_modifyFunction (name : Fqsen) (change : FunctionLike → FunctionLike)
    (hchange : ∀ f, (change f).fqsen = f.fqsen) :
    (r.modifyFunction name change).outsideClasses.size = r.outsideClasses.size := by
  have hfunction (f : FunctionLike) : (change f).isFunction = f.isFunction := by
    rw [FunctionLike.isFunction, FunctionLike.isFunction, hchange]
  have hmodify : (r.modifyFunction name change).outsideClasses =
      r.outsideClasses.modify name change := by
    refine Std.ExtTreeMap.ext_getElem? fun k => ?_
    rw [getElem?_outsideClasses, function?_modifyFunction, Std.ExtTreeMap.getElem?_modify]
    simp only [Std.LawfulEqCmp.compare_eq_iff_eq]
    split
    · rename_i hk
      rw [hk, getElem?_outsideClasses]
      cases r.function? k with
      | none => rfl
      | some f =>
          rw [Option.map_some, Option.filter_some, Option.filter_some, hfunction]
          split <;> rfl
    · rw [getElem?_outsideClasses]
  rw [hmodify, Std.ExtTreeMap.size_modify]

/-! ### Single operations -/

variable {r} {op : Operation}

lemma classCount_perform (h : op.Succeeds r) :
    (op.perform r).classCount = r.classCount + op.newClass?.toList.length := by
  cases op with
  | addClass c =>
      obtain ⟨r', hadd⟩ := h
      obtain ⟨hfree, rfl⟩ := addClass_eq_ok_iff.mp hadd
      rw [Operation.perform_addClass hadd]
      exact size_insert_of_new hfree c
  | addFunction f =>
      obtain ⟨r', hadd⟩ := h
      obtain ⟨-, -, rfl⟩ := addFunction_eq_ok_iff.mp hadd
      rw [Operation.perform_addFunction hadd]
      cases f.fqsen.owner? with
      | none => rfl
      | some owner => exact Std.ExtTreeMap.size_modify
  | count kind => rfl
  | editClass name edit => exact Std.ExtTreeMap.size_modify
  | acceptAny name => rfl

lemma functionCount_perform (h : op.Succeeds r) :
    (op.perform r).functionCount = r.functionCount + op.newFunction?.toList.length := by
  cases op with
  | addClass c =>
      obtain ⟨r', hadd⟩ := h
      obtain ⟨-, rfl⟩ := addClass_eq_ok_iff.mp hadd
      rw [Operation.perform_addClass hadd]
      rfl
  | addFunction f =>
      obtain ⟨r', hadd⟩ := h
      obtain ⟨hfree, -, rfl⟩ := addFunction_eq_ok_iff.mp hadd
      have hstore : (r.storeFunction f).functionCount = r.functionCount + 1 :=
        size_insert_of_new hfree f
      rw [Operation.perform_addFunction hadd]
      cases f.fqsen.owner? <;> exact hstore
  | count kind => rfl
  | editClass name edit => rfl
  | acceptAny name => exact Std.ExtTreeMap.size_modify

/-- A method is none of the listed functions. -/
lemma length_functionList_perform (h : op.Succeeds r) :
    (op.perform r).functionList.length =
      r.functionList.length + (op.newFunction?.toList.filter FunctionLike.isFunction).length := by
  cases op with
  | addClass c =>
      obtain ⟨r', hadd⟩ := h
      obtain ⟨-, rfl⟩ := addClass_eq_ok_iff.mp hadd
      rw [Operation.perform_addClass hadd]
      rfl
  | addFunction f =>
      obtain ⟨r', hadd⟩ := h
      obtain ⟨hfree, -, rfl⟩ := addFunction_eq_ok_iff.mp hadd
      have hstore : (r.storeFunction f).functionList.length =
          r.functionList.length + ([f].filter FunctionLike.isFunction).length := by
        rw [length_functionList, length_functionList, r.size_outsideClasses_storeFunction hfree]
        by_cases hf : f.isFunction <;> simp [hf]
      rw [Operation.perform_addFunction hadd]
      cases f.fqsen.owner? <;> exact hstore
  | count kind => rfl
  | editClass name edit => rfl
  | acceptAny name =>
      have hmodify :=
        r.size_outsideClasses_modifyFunction name FunctionLike.acceptAny fun _ => rfl
      rwa [← length_functionList, ← length_functionList] at hmodify

/-! ### Rows of operations -/

/-- A size to which each operation that succeeds adds its part grows by the parts of a row. -/
lemma size_performAll {α : Type} (size : Registry → Nat) (part : Operation → List α)
    (hstep : ∀ {op r}, Operation.Succeeds op r → size (op.perform r) = size r + (part op).length)
    {ops : List Operation} (h : AllSucceed ops r) :
    size (performAll ops r) = size r + (ops.flatMap part).length := by
  induction ops generalizing r with
  | nil => rfl
  | cons op ops ih =>
      rw [performAll_cons, ih h.2, hstep h.1, List.flatMap_cons, List.length_append, Nat.add_assoc]

variable {ops : List Operation} (h : AllSucceed ops r)

include h

/-- Operations that succeed add as many classes as they register. -/
theorem classCount_performAll :
    (performAll ops r).classCount = r.classCount + (newClasses ops).length := by
  rw [newClasses, List.filterMap_eq_flatMap_toList]
  exact size_performAll _ _ classCount_perform h

/-- So it is with functions and methods together. -/
theorem functionCount_performAll :
    (performAll ops r).functionCount = r.functionCount + (newFunctions ops).length := by
  rw [newFunctions, List.filterMap_eq_flatMap_toList]
  exact size_performAll _ _ functionCount_perform h

/-- The list of functions gets those of them that belong to no class. -/
theorem length_functionList_performAll :
    (performAll ops r).functionList.length =
      r.functionList.length + ((newFunctions ops).filter FunctionLike.isFunction).length := by
  rw [newFunctions, List.filterMap_eq_flatMap_toList, List.filter_flatMap]
  exact size_performAll (·.functionList.length) _ length_functionList_perform h

end Registry

/-! ### Operations that count what they register -/

/-- The kinds that a row of operations counts. -/
def countsOf (ops : List Operation) : List Counted := ops.filterMap Operation.counted?

/-- A row of operations that counts each class, each method and each function that it registers,
and nothing else as one of them. -/
structure Balanced (ops : List Operation) : Prop where
  classes : (newClasses ops).length = (countsOf ops).count .classes
  functions :
    ((newFunctions ops).filter FunctionLike.isFunction).length = (countsOf ops).count .functions
  methods :
    ((newFunctions ops).filter (! ·.isFunction)).length = (countsOf ops).count .methods

namespace Balanced

lemma nil : Balanced [] := ⟨rfl, rfl, rfl⟩

variable {ops ops' : List Operation}

lemma append (h : Balanced ops) (h' : Balanced ops') : Balanced (ops ++ ops') := by
  have hcounts : countsOf (ops ++ ops') = countsOf ops ++ countsOf ops' := List.filterMap_append
  have hclasses : newClasses (ops ++ ops') = newClasses ops ++ newClasses ops' :=
    List.filterMap_append
  have hfunctions : newFunctions (ops ++ ops') = newFunctions ops ++ newFunctions ops' :=
    List.filterMap_append
  constructor
  · rw [hclasses, hcounts, List.length_append, List.count_append, h.classes, h'.classes]
  · rw [hfunctions, hcounts, List.filter_append, List.length_append, List.count_append,
      h.functions, h'.functions]
  · rw [hfunctions, hcounts, List.filter_append, List.length_append, List.count_append,
      h.methods, h'.methods]

lemma flatMap {α : Type} {part : α → List Operation} {l : List α}
    (h : ∀ a ∈ l, Balanced (part a)) : Balanced (l.flatMap part) := by
  induction l with
  | nil => exact nil
  | cons a l ih =>
      rw [List.flatMap_cons]
      exact (h a List.mem_cons_self).append (ih fun b hb => h b (List.mem_cons_of_mem a hb))

/-- Operations that neither register nor count keep the balance. -/
lemma of_idle (h : ∀ op ∈ ops, op.newClass? = none ∧ op.newFunction? = none ∧ op.counted? = none) :
    Balanced ops := by
  have hclasses : newClasses ops = [] := List.filterMap_eq_nil_iff.mpr fun op hop => (h op hop).1
  have hfunctions : newFunctions ops = [] :=
    List.filterMap_eq_nil_iff.mpr fun op hop => (h op hop).2.1
  have hcounts : countsOf ops = [] := List.filterMap_eq_nil_iff.mpr fun op hop => (h op hop).2.2
  constructor
  · rw [hclasses, hcounts]
    rfl
  · rw [hfunctions, hcounts]
    rfl
  · rw [hfunctions, hcounts]
    rfl

/-- Other kinds may be counted alone. -/
lemma count {kind : Counted} (h : kind ∉ [.classes, .methods, .functions]) :
    Balanced [.count kind] := by
  cases kind <;> first | exact ⟨rfl, rfl, rfl⟩ | exact absurd (by decide) h

lemma addClass (c : ClassLike) : Balanced [.addClass c, .count .classes] := ⟨rfl, rfl, rfl⟩

/-- A function of no class is counted as a function. -/
lemma addFunction {f : FunctionLike} (h : f.fqsen.owner? = none) :
    Balanced [.addFunction f, .count .functions] := by
  have hfunction : f.isFunction = true := Fqsen.className?_isNone_iff.mpr h
  have hnew : newFunctions [.addFunction f, .count .functions] = [f] := rfl
  refine ⟨rfl, ?_, ?_⟩
  all_goals
    rw [hnew]
    simp only [List.filter_cons, hfunction]
    rfl

/-- A function of some class is counted as a method. -/
lemma addMethod {f : FunctionLike} (h : f.fqsen.owner? ≠ none) :
    Balanced [.addFunction f, .count .methods] := by
  have hmethod : f.isFunction = false :=
    Bool.eq_false_iff.mpr fun hf => h (Fqsen.className?_isNone_iff.mp hf)
  have hnew : newFunctions [.addFunction f, .count .methods] = [f] := rfl
  refine ⟨rfl, ?_, ?_⟩
  all_goals
    rw [hnew]
    simp only [List.filter_cons, hmethod]
    rfl

end Balanced

end PhpIndex
