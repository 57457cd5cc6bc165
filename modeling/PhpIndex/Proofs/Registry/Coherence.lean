import Mathlib.Data.List.Nodup
import PhpIndex.Proofs.Registry.Operations

/-!
The classes and the methods of a registry fit each other, whatever is done to it.

* `Registry.Coherent`: every declaration is stored under its own identity, and a method is stored
  exactly when its class has it in its list, where it then stands once;
* `Registry.Coherent.perform`: no operation, accepted or refused, breaks this, provided that
  classes are added without methods;
* `Registry.Coherent.nodup_entries`, `mem_entries`: functions and the methods of all classes
  together are every stored function, once;
* `Registry.Coherent.increasing_classList`, `increasing_functionList`: both lists are in order;
* `Registry.RefusesCleanly`: why a declaration is refused, and that this changes nothing;
* `Registry.Reliable`, `Registry.reliable_performAll_empty`: all of this together, and that it
  holds of a registry on which any operations have been performed.
-/

namespace PhpIndex

/-- Identities in strictly increasing order. -/
def Increasing (names : List Fqsen) : Prop := names.Pairwise fun k l => compare k l = .lt

/-! ### The values of a map -/

lemma values_eq_map_toList {κ α : Type} [Ord κ] [Std.TransOrd κ] (t : Std.ExtTreeMap κ α) :
    t.values = t.toList.map Prod.snd := by
  obtain ⟨t⟩ := t
  induction t using Std.ExtDTreeMap.inductionOn with
  | mk t =>
      show t.inner.values = (Std.DTreeMap.Internal.Impl.Const.toList t.inner).map Prod.snd
      rw [Std.DTreeMap.Internal.Impl.values_eq_map_snd,
        Std.DTreeMap.Internal.Impl.Const.toList_eq_toListModel_map, List.map_map]
      rfl

section

variable {κ α : Type} [Ord κ] [Std.TransOrd κ] [Std.LawfulEqOrd κ] {t : Std.ExtTreeMap κ α}

lemma mem_values {a : α} : a ∈ t.values ↔ ∃ k : κ, t[k]? = some a := by
  simp [values_eq_map_toList, Std.ExtTreeMap.mem_toList_iff_getElem?_eq_some]

/-- Values that are stored under keys of their own come in the order of these. -/
lemma map_values_eq_keys {key : α → κ} (h : ∀ (k : κ) a, t[k]? = some a → key a = k) :
    t.values.map key = t.keys := by
  rw [values_eq_map_toList, List.map_map, ← Std.ExtTreeMap.map_fst_toList_eq_keys]
  refine List.map_congr_left fun ⟨k, a⟩ hmem => ?_
  exact h k a (Std.ExtTreeMap.mem_toList_iff_getElem?_eq_some.mp hmem)

end

/-- An identity without a class is one that no class owns. -/
lemma Fqsen.className?_isNone_iff {k : Fqsen} : k.className?.isNone = true ↔ k.owner? = none := by
  obtain ⟨path, element, alternate⟩ := k
  cases element <;> simp [className?, Element.className?, owner?]

namespace Registry

/-! ### Coherence -/

/-- The declarations of a registry fit each other. -/
structure Coherent (r : Registry) : Prop where
  class_key : ∀ k c, r.class? k = some c → c.fqsen = k
  function_key : ∀ k f, r.function? k = some f → f.fqsen = k
  /-- The class of a stored method is registered and has it in its list once. -/
  listed : ∀ k owner, r.hasFunction k = true → k.owner? = some owner →
    ∃ c, r.class? owner = some c ∧ c.methods.count k = 1
  /-- What is in the list of a class is stored and belongs to the class. -/
  stored : ∀ owner c k, r.class? owner = some c → k ∈ c.methods →
    r.hasFunction k = true ∧ k.owner? = some owner

namespace Coherent

variable {r r' : Registry}

lemma empty : Registry.empty.Coherent where
  class_key k c h := by simp [class?, Registry.empty] at h
  function_key k f h := by simp [function?, Registry.empty] at h
  listed k owner h := by simp [hasFunction, Registry.empty] at h
  stored owner c k h := by simp [class?, Registry.empty] at h

lemma addClass (h : r.Coherent) {c : ClassLike} (hmethods : c.methods = [])
    (hok : r.addClass c = .ok r') : r'.Coherent := by
  have hfree := (addClass_eq_ok_iff.mp hok).1
  have hclass := class?_of_addClass hok
  have hfunction := function?_of_addClass hok
  refine ⟨fun k d hd => ?_, fun k f hf => ?_, fun k owner hk howner => ?_,
    fun owner d k hd hk => ?_⟩
  · rw [hclass] at hd
    split at hd
    · cases hd; assumption
    · exact h.class_key k d hd
  · rw [hfunction] at hf
    exact h.function_key k f hf
  · rw [hasFunction_eq_isSome, hfunction, ← hasFunction_eq_isSome] at hk
    obtain ⟨d, hd, hcount⟩ := h.listed k owner hk howner
    have hne := ne_of_class? hfree hd
    exact ⟨d, by rw [hclass, if_neg hne, hd], hcount⟩
  · rw [hasFunction_eq_isSome, hfunction, ← hasFunction_eq_isSome]
    rw [hclass] at hd
    split at hd
    · cases hd
      rw [hmethods] at hk
      cases hk
    · exact h.stored owner d k hd hk

lemma addFunction (h : r.Coherent) {f : FunctionLike} (hok : r.addFunction f = .ok r') :
    r'.Coherent := by
  obtain ⟨hfree, hregistered, -⟩ := addFunction_eq_ok_iff.mp hok
  have hclass := class?_of_addFunction hok
  have hfunction := function?_of_addFunction hok
  have hhas (k : Fqsen) : r'.hasFunction k = true ↔ f.fqsen = k ∨ r.hasFunction k = true := by
    rw [hasFunction_eq_isSome, hfunction, hasFunction_eq_isSome]
    split <;> simp_all
  refine ⟨fun k d hd => ?_, fun k g hg => ?_, fun k owner hk howner => ?_,
    fun owner d k hd hk => ?_⟩
  · rw [hclass] at hd
    split at hd
    · obtain ⟨c, hc, rfl⟩ := Option.map_eq_some_iff.mp hd
      exact h.class_key k c hc
    · exact h.class_key k d hd
  · rw [hfunction] at hg
    split at hg
    · cases hg; assumption
    · exact h.function_key k g hg
  · -- a new method is last in the list of its class, where it was not before
    by_cases hnew : f.fqsen = k
    · subst hnew
      have hown := hregistered owner howner
      obtain ⟨c, hc⟩ := hasClass_iff.mp hown
      refine ⟨c.addMethod f.fqsen, by rw [hclass, if_pos howner, hc, Option.map_some], ?_⟩
      have hout : f.fqsen ∉ c.methods := fun hmem => by
        have := (h.stored owner c f.fqsen hc hmem).1
        rw [hfree] at this
        cases this
      simp [ClassLike.addMethod, List.count_append, List.count_eq_zero_of_not_mem hout]
    · have hold := ((hhas k).mp hk).resolve_left hnew
      obtain ⟨c, hc, hcount⟩ := h.listed k owner hold howner
      rw [hclass, hc]
      split
      · exact ⟨_, rfl, by simp [ClassLike.addMethod, List.count_append, hcount, hnew]⟩
      · exact ⟨c, rfl, hcount⟩
  · rw [hhas]
    rw [hclass] at hd
    split at hd
    · rename_i howner
      obtain ⟨c, hc, rfl⟩ := Option.map_eq_some_iff.mp hd
      rcases List.mem_append.mp (show k ∈ c.methods ++ [f.fqsen] from hk) with hk | hk
      · exact ⟨.inr (h.stored owner c k hc hk).1, (h.stored owner c k hc hk).2⟩
      · rw [List.mem_singleton.mp hk]
        exact ⟨.inl rfl, howner⟩
    · exact ⟨.inr (h.stored owner d k hd hk).1, (h.stored owner d k hd hk).2⟩

/-- A class can be changed as long as it keeps its identity and its methods. -/
lemma modifyClass (h : r.Coherent) (name : Fqsen) {change : ClassLike → ClassLike}
    (hfqsen : ∀ c, (change c).fqsen = c.fqsen) (hmethods : ∀ c, (change c).methods = c.methods) :
    (r.modifyClass name change).Coherent := by
  -- every class of the new registry stands for one of the old with the same identity and methods
  have hback (k : Fqsen) (d : ClassLike) (hd : (r.modifyClass name change).class? k = some d) :
      ∃ c, r.class? k = some c ∧ d.fqsen = c.fqsen ∧ d.methods = c.methods := by
    rw [class?_modifyClass] at hd
    split at hd
    · obtain ⟨c, hc, rfl⟩ := Option.map_eq_some_iff.mp hd
      exact ⟨c, hc, hfqsen c, hmethods c⟩
    · exact ⟨d, hd, rfl, rfl⟩
  refine ⟨fun k d hd => ?_, h.function_key, fun k owner hk howner => ?_, fun owner d k hd hk => ?_⟩
  · obtain ⟨c, hc, hsame, -⟩ := hback k d hd
    rw [hsame]
    exact h.class_key k c hc
  · obtain ⟨c, hc, hcount⟩ := h.listed k owner hk howner
    rw [class?_modifyClass, hc]
    split
    · exact ⟨_, rfl, by rw [hmethods, hcount]⟩
    · exact ⟨c, rfl, hcount⟩
  · obtain ⟨c, hc, -, hsame⟩ := hback owner d hd
    exact h.stored owner c k hc (hsame ▸ hk)

/-- A function can be changed as long as it keeps its identity. -/
lemma modifyFunction (h : r.Coherent) (name : Fqsen) {change : FunctionLike → FunctionLike}
    (hfqsen : ∀ f, (change f).fqsen = f.fqsen) : (r.modifyFunction name change).Coherent := by
  refine ⟨h.class_key, fun k g hg => ?_, fun k owner hk => ?_, fun owner c k hc hk => ?_⟩
  · rw [function?_modifyFunction] at hg
    split at hg
    · obtain ⟨f, hf, rfl⟩ := Option.map_eq_some_iff.mp hg
      rw [hfqsen]
      exact h.function_key k f hf
    · exact h.function_key k g hg
  · rw [hasFunction_modifyFunction] at hk
    exact h.listed k owner hk
  · rw [hasFunction_modifyFunction]
    exact h.stored owner c k hc hk

/-- No operation breaks the coherence of a registry. -/
theorem perform (h : r.Coherent) {op : Operation}
    (hop : ∀ c, op = .addClass c → c.methods = []) : (op.perform r).Coherent := by
  cases op with
  | addClass c =>
      cases hok : r.addClass c with
      | ok r' =>
          rw [Operation.perform_addClass hok]
          exact h.addClass (hop c rfl) hok
      | error e =>
          rwa [Operation.perform_of_refused (e := e)]
          rw [Operation.update, Update.outcome_registerClass, hok]
  | addFunction f =>
      cases hok : r.addFunction f with
      | ok r' =>
          rw [Operation.perform_addFunction hok]
          exact h.addFunction hok
      | error e =>
          rwa [Operation.perform_of_refused (e := e)]
          rw [Operation.update, Update.outcome_registerFunction, hok]
  | count kind => exact ⟨h.class_key, h.function_key, h.listed, h.stored⟩
  | editClass name edit => exact h.modifyClass name edit.fqsen_apply edit.methods_apply
  | acceptAny name => exact h.modifyFunction name fun _ => rfl

/-- Nor does a row of operations. -/
theorem performAll (h : r.Coherent) {ops : List Operation}
    (hops : ∀ c, Operation.addClass c ∈ ops → c.methods = []) : (performAll ops r).Coherent := by
  induction ops generalizing r with
  | nil => exact h
  | cons op ops ih =>
      refine ih (h.perform fun c hc => hops c ?_) fun c hc => hops c (List.mem_cons_of_mem _ hc)
      exact hc ▸ List.mem_cons_self

/-! ### The lists of a coherent registry -/

lemma map_fqsen_classList (h : r.Coherent) : r.classList.map (·.fqsen) = r.classes.keys :=
  map_values_eq_keys h.class_key

lemma increasing_classList (h : r.Coherent) : Increasing (r.classList.map (·.fqsen)) := by
  rw [h.map_fqsen_classList]
  exact Std.ExtTreeMap.ordered_keys

lemma increasing_functionList (h : r.Coherent) : Increasing (r.functionList.map (·.fqsen)) := by
  have hsub : (r.functionList.map (·.fqsen)).Sublist r.functions.keys := by
    rw [← map_values_eq_keys h.function_key]
    exact List.filter_sublist.map _
  exact Std.ExtTreeMap.ordered_keys.sublist hsub

lemma mem_classList (h : r.Coherent) {c : ClassLike} :
    c ∈ r.classList ↔ r.class? c.fqsen = some c := by
  refine mem_values.trans ⟨?_, fun hc => ⟨_, hc⟩⟩
  rintro ⟨k, hk⟩
  rwa [h.class_key k c hk]

lemma mem_functionList (h : r.Coherent) {f : FunctionLike} :
    f ∈ r.functionList ↔ r.function? f.fqsen = some f ∧ f.fqsen.owner? = none := by
  rw [functionList, List.mem_filter, FunctionLike.isFunction, Fqsen.className?_isNone_iff]
  refine and_congr_left fun _ => mem_values.trans ⟨?_, fun hf => ⟨_, hf⟩⟩
  rintro ⟨k, hk⟩
  rwa [h.function_key k f hk]

/-- The methods of a class are found under the identities in its list. -/
lemma map_fqsen_methodsOf (h : r.Coherent) {c : ClassLike} (hc : r.class? c.fqsen = some c) :
    (r.methodsOf c.fqsen).map (·.fqsen) = c.methods := by
  rw [methodsOf, hc, Option.map_some, Option.getD_some, List.map_filterMap]
  refine (List.filterMap_congr fun k hk => ?_).trans List.filterMap_some
  have hstored := (h.stored c.fqsen c k hc hk).1
  obtain ⟨f, hf⟩ := hasFunction_iff.mp hstored
  rw [hf, Option.map_some, h.function_key k f hf]

lemma nodup_methods (h : r.Coherent) {owner : Fqsen} {c : ClassLike}
    (hc : r.class? owner = some c) : c.methods.Nodup := by
  refine List.nodup_iff_count_le_one.mpr fun k => ?_
  by_cases hk : k ∈ c.methods
  · obtain ⟨hstored, howner⟩ := h.stored owner c k hc hk
    obtain ⟨d, hd, hcount⟩ := h.listed k owner hstored howner
    cases hc.symm.trans hd
    exact Nat.le_of_eq hcount
  · simp [List.count_eq_zero_of_not_mem hk]

end Coherent

/-- The functions outside classes and the methods of all classes. -/
def entries (r : Registry) : List FunctionLike :=
  r.functionList ++ r.classList.flatMap fun c => r.methodsOf c.fqsen

namespace Coherent

variable {r : Registry}

/-- The entries are exactly what is stored. -/
lemma mem_entries (h : r.Coherent) {f : FunctionLike} :
    f ∈ r.entries ↔ r.function? f.fqsen = some f := by
  rw [entries, List.mem_append, h.mem_functionList, List.mem_flatMap]
  constructor
  · rintro (⟨hf, -⟩ | ⟨c, hc, hf⟩)
    · exact hf
    · rw [h.mem_classList] at hc
      rw [methodsOf, hc, Option.map_some, Option.getD_some] at hf
      obtain ⟨k, -, hk⟩ := List.mem_filterMap.mp hf
      rwa [h.function_key k f hk]
  · intro hf
    cases howner : f.fqsen.owner? with
    | none => exact .inl ⟨hf, rfl⟩
    | some owner =>
        have hstored : r.hasFunction f.fqsen = true := hasFunction_iff.mpr ⟨f, hf⟩
        obtain ⟨c, hc, hcount⟩ := h.listed f.fqsen owner hstored howner
        have hkey := h.class_key owner c hc
        subst hkey
        refine .inr ⟨c, h.mem_classList.mpr hc, ?_⟩
        rw [methodsOf, hc, Option.map_some, Option.getD_some]
        exact List.mem_filterMap.mpr ⟨f.fqsen, List.count_pos_iff.mp (by omega), hf⟩

/-- No identity occurs twice among the entries. -/
lemma nodup_entries (h : r.Coherent) : (r.entries.map (·.fqsen)).Nodup := by
  have hmethods : (r.classList.flatMap fun c => r.methodsOf c.fqsen).map (·.fqsen) =
      r.classList.flatMap (·.methods) := by
    rw [List.map_flatMap]
    exact List.flatMap_congr fun c hc => h.map_fqsen_methodsOf (h.mem_classList.mp hc)
  have hclass (c : ClassLike) (hc : c ∈ r.classList) {k : Fqsen} (hk : k ∈ c.methods) :
      k.owner? = some c.fqsen := (h.stored c.fqsen c k (h.mem_classList.mp hc) hk).2
  rw [entries, List.map_append, hmethods]
  refine List.Nodup.append ?_ (List.nodup_flatMap.mpr ⟨fun c hc => ?_, ?_⟩) ?_
  · exact h.increasing_functionList.imp fun hlt heq => by simp [heq] at hlt
  · exact h.nodup_methods (h.mem_classList.mp hc)
  · -- methods of two classes have two owners
    have hclasses : r.classList.Pairwise fun c d => c.fqsen ≠ d.fqsen := by
      refine (List.pairwise_map.mp h.increasing_classList).imp fun hlt heq => ?_
      simp [heq] at hlt
    refine hclasses.imp_of_mem fun hc hd hne k hkc hkd => hne ?_
    exact Option.some.inj ((hclass _ hc hkc).symm.trans (hclass _ hd hkd))
  · intro k hf hm
    obtain ⟨f, hmem, rfl⟩ := List.mem_map.mp hf
    obtain ⟨c, hc, hk⟩ := List.mem_flatMap.mp hm
    rw [h.mem_functionList, hclass c hc hk] at hmem
    cases hmem.2

end Coherent

/-! ### Refusals -/

/-- A declaration is refused only for one of the known reasons, and then nothing is changed. -/
structure RefusesCleanly (r : Registry) : Prop where
  class_refused : ∀ c e r', (Update.registerClass c).outcome r = (.error e, r') ↔
    r' = r ∧ r.hasClass c.fqsen = true ∧ e = .duplicateClass c.fqsen
  function_refused : ∀ f e r', (Update.registerFunction f).outcome r = (.error e, r') ↔
    r' = r ∧
      (r.hasFunction f.fqsen = true ∧ e = .duplicateFunction f.fqsen ∨
        r.hasFunction f.fqsen = false ∧
          ∃ owner, f.fqsen.owner? = some owner ∧ r.hasClass owner = false ∧
            e = .unknownClass owner)

theorem refusesCleanly (r : Registry) : r.RefusesCleanly where
  class_refused c e r' := by
    rw [Update.outcome_registerClass, ← addClass_eq_error_iff]
    cases r.addClass c <;> simp [and_comm, eq_comm]
  function_refused f e r' := by
    rw [Update.outcome_registerFunction, ← addFunction_eq_error_iff]
    cases r.addFunction f <;> simp [and_comm, eq_comm]

/-! ### Any operations -/

/-- What one can rely on in a registry: its declarations fit each other, its lists are complete
and in order, and it refuses a declaration without a trace. -/
structure Reliable (r : Registry) : Prop extends Coherent r, RefusesCleanly r where
  /-- Among the functions and the methods of all classes none is listed twice. -/
  entries_nodup : (r.entries.map (·.fqsen)).Nodup
  /-- What is listed there is what is stored. -/
  entries_stored : ∀ f, f ∈ r.entries ↔ r.function? f.fqsen = some f
  classes_increasing : Increasing (r.classList.map (·.fqsen))
  functions_increasing : Increasing (r.functionList.map (·.fqsen))

/-- **Registries are reliable**: whatever operations are performed on the registry of nothing, in
any order and with any refusals among them, if only the classes that are added have no methods
yet. -/
theorem reliable_performAll_empty (ops : List Operation)
    (hops : ∀ c, Operation.addClass c ∈ ops → c.methods = []) :
    (performAll ops .empty).Reliable := by
  have h := Coherent.empty.performAll hops
  exact ⟨h, refusesCleanly _, h.nodup_entries, fun _ => h.mem_entries, h.increasing_classList,
    h.increasing_functionList⟩

/-- A class and a method of it, each declared twice, and a method of a class that is not there. -/
def collidingOperations : List Operation :=
  let user := Fqsen.ofClass "App" "User"
  let save (owner : Fqsen) : FunctionLike := { fqsen := owner.member "save", name := "save" }
  [.addClass (.ofName user "User" {} {}), .addFunction (save user), .addFunction (save user),
    .addFunction (save (user.withAlternate 1)), .addClass (.ofName user "User" {} {}),
    .editClass user .noteParentCall]

/-- Of the colliding operations the first of each name counts. -/
theorem reliable_performAll_collidingOperations :
    (∀ c, Operation.addClass c ∈ collidingOperations → c.methods = []) ∧
      (performAll collidingOperations .empty).Reliable ∧
      (performAll collidingOperations .empty).entries.map (·.fqsen.text) = ["App\\User::save"] := by
  have hops : ∀ c, Operation.addClass c ∈ collidingOperations → c.methods = [] := by
    intro c hc
    simp only [collidingOperations, List.mem_cons, Operation.addClass.injEq, reduceCtorEq,
      List.not_mem_nil, false_or, or_false] at hc
    rcases hc with rfl | rfl <;> rfl
  exact ⟨hops, reliable_performAll_empty _ hops, by decide +kernel⟩

end Registry

end PhpIndex
