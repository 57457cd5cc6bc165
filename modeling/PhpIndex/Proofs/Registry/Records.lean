import Mathlib.Data.List.DropRight
import PhpIndex.Proofs.Registry.Operations

/-!
What operations make of a registered class or function.

* `lastOfEach`: one entry for each key, in the order in which the keys first occur and each the last
  of its key; `foldl_replaceOrAppend`: this is what entries make that are put in the place of one
  of the same key, or at the end, with `find?_foldl_replaceOrAppend` for a single key;
  `foldl_addNew`: and what is made of entries that are added unless they are there already;
* `Operation.on`: what an operation does to the class of an identity; `class?_performAll_of_some`:
  **a registered class is in the end what the operations on it have made of it**, one after the
  other;
* `Operation.method?`, `Operation.edit?`: the method and the change that an operation has for a
  class; `methods_foldl_on`, `foldl_on_eq`: so each of its lists is made of what is added to it;
* `type_foldl_on`, `foldl_add_typeName?`: its type is what it was, or that with `callable` added;
* `ConstructorState.after`: what a change tells about a call of the parent's constructor;
  `foldl_after_eq_called_iff`, `foldl_after_eq_notRequired_iff`: the order of changes does not
  matter to it;
* `Operation.opens`, `function?_performAll_of_some`: **a registered function is in the end as it was
  or takes any number of arguments**, and the latter if one of the operations says so.
-/

namespace PhpIndex

/-! ### The last entry of each key -/

section

variable {α κ : Type} [DecidableEq κ] (key : α → κ)

lemma eraseDups_concat (ks : List κ) (k : κ) :
    (ks ++ [k]).eraseDups = if k ∈ ks then ks.eraseDups else ks.eraseDups ++ [k] := by
  rw [List.eraseDups_append]
  by_cases hk : k ∈ ks
  · simp [List.removeAll, hk]
  · simp [List.removeAll, hk, List.eraseDups_cons]

lemma nodup_eraseDups (ks : List κ) : ks.eraseDups.Nodup := by
  induction ks using List.reverseRecOn with
  | nil => simp
  | append_singleton ks k ih =>
      rw [eraseDups_concat]
      split
      · exact ih
      · rename_i hk
        have hne : ∀ l ∈ ks, l ≠ k := fun l hl => ne_of_mem_of_not_mem hl hk
        simpa [List.nodup_append, ih, List.mem_eraseDups] using hne

/-- The last entry of a key. -/
def lastOf (l : List α) (k : κ) : Option α := (l.filter (key · = k)).getLast?

/-- One entry for each key: the keys are in the order in which they first occur, and the entries
are the last of their keys. -/
def lastOfEach (l : List α) : List α := (l.map key).eraseDups.filterMap (lastOf key l)

lemma lastOf_concat (l : List α) (a : α) (k : κ) :
    lastOf key (l ++ [a]) k = if key a = k then some a else lastOf key l k := by
  rw [lastOf, lastOf, List.filter_append, List.filter_singleton]
  by_cases hk : key a = k <;> simp [hk]

lemma key_of_lastOf {l : List α} {k : κ} {a : α} (h : lastOf key l k = some a) : key a = k := by
  have hmem := List.mem_of_getLast? h
  simpa using (List.mem_filter.mp hmem).2

lemma isSome_lastOf {l : List α} {k : κ} (h : k ∈ l.map key) : (lastOf key l k).isSome = true := by
  obtain ⟨a, ha, rfl⟩ := List.mem_map.mp h
  have hne : l.filter (key · = key a) ≠ [] :=
    List.ne_nil_of_mem (List.mem_filter.mpr ⟨ha, by simp⟩)
  rw [lastOf, List.getLast?_eq_some_getLast hne]
  rfl

/-- No key occurs twice. -/
lemma map_key_lastOfEach (l : List α) : (lastOfEach key l).map key = (l.map key).eraseDups := by
  have hkey : ∀ k ∈ (l.map key).eraseDups, (lastOf key l k).map key = some k := by
    intro k hk
    obtain ⟨a, ha⟩ := Option.isSome_iff_exists.mp (isSome_lastOf key (List.mem_eraseDups.mp hk))
    rw [ha, Option.map_some, key_of_lastOf key ha]
  rw [lastOfEach, List.map_filterMap, List.filterMap_congr hkey, List.filterMap_some]

/-- No key is lost. -/
lemma exists_mem_lastOfEach_iff {l : List α} {k : κ} :
    (∃ a ∈ lastOfEach key l, key a = k) ↔ ∃ a ∈ l, key a = k := by
  rw [← List.mem_map, map_key_lastOfEach, List.mem_eraseDups, List.mem_map]

/-- In a list without two entries of one key a new entry takes the place of that of its key. -/
lemma replaceOrAppend_of_mem {l : List α} (h : (l.map key).Nodup) {a : α}
    (ha : key a ∈ l.map key) :
    replaceOrAppend key a l = l.map fun b => if key b = key a then a else b := by
  induction l with
  | nil => cases ha
  | cons b rest ih =>
      obtain ⟨hb, hrest⟩ := List.nodup_cons.mp h
      rw [replaceOrAppend, List.map_cons]
      by_cases heq : key b = key a
      · have hsame : rest.map (fun c => if key c = key a then a else c) = rest := by
          refine (List.map_congr_left fun c hc => if_neg fun hkey => hb ?_).trans
            (List.map_id' rest)
          rw [heq, ← hkey]
          exact List.mem_map_of_mem hc
        rw [if_pos heq, if_pos heq, hsame]
      · have harest : key a ∈ rest.map key := (List.mem_cons.mp ha).resolve_left (Ne.symm heq)
        rw [if_neg heq, if_neg heq, ih hrest harest]

lemma replaceOrAppend_of_notMem {l : List α} {a : α} (ha : key a ∉ l.map key) :
    replaceOrAppend key a l = l ++ [a] := by
  induction l with
  | nil => rfl
  | cons b rest ih =>
      obtain ⟨hb, hrest⟩ := not_or.mp (List.mem_cons.not.mp ha)
      rw [replaceOrAppend, if_neg (Ne.symm hb), ih hrest, List.cons_append]

lemma lastOfEach_concat (l : List α) (a : α) :
    lastOfEach key (l ++ [a]) = replaceOrAppend key a (lastOfEach key l) := by
  have hkeys := map_key_lastOfEach key l
  rw [lastOfEach, List.map_append, List.map_singleton, eraseDups_concat]
  by_cases ha : key a ∈ l.map key
  · have hmem : key a ∈ (lastOfEach key l).map key := hkeys ▸ List.mem_eraseDups.mpr ha
    rw [if_pos ha, replaceOrAppend_of_mem key (hkeys ▸ nodup_eraseDups _) hmem, lastOfEach,
      List.map_filterMap]
    refine List.filterMap_congr fun k hk => ?_
    obtain ⟨b, hb⟩ := Option.isSome_iff_exists.mp (isSome_lastOf key (List.mem_eraseDups.mp hk))
    rw [lastOf_concat, hb, Option.map_some, key_of_lastOf key hb]
    by_cases heq : key a = k
    · rw [if_pos heq, if_pos heq.symm]
    · rw [if_neg heq, if_neg (Ne.symm heq)]
  · have hmem : key a ∉ (lastOfEach key l).map key := hkeys ▸ fun h => ha (List.mem_eraseDups.mp h)
    have hothers : (l.map key).eraseDups.filterMap (lastOf key (l ++ [a])) = lastOfEach key l := by
      refine List.filterMap_congr fun k hk => ?_
      rw [lastOf_concat, if_neg]
      rintro rfl
      exact ha (List.mem_eraseDups.mp hk)
    rw [if_neg ha, replaceOrAppend_of_notMem key hmem, List.filterMap_append, hothers]
    simp [lastOf_concat]

/-- Entries that are added unless they are there already are in the order in which they first
occur. -/
lemma foldl_addNew (l : List κ) :
    l.foldl (fun entries a => if a ∈ entries then entries else entries ++ [a]) [] =
      l.eraseDups := by
  induction l using List.reverseRecOn with
  | nil => simp
  | append_singleton l a ih =>
      rw [List.foldl_append, ih, eraseDups_concat, List.foldl_cons, List.foldl_nil]
      simp only [List.mem_eraseDups]

/-- **Entries that replace one another** leave the last of each key where the first was. -/
theorem foldl_replaceOrAppend (l : List α) :
    l.foldl (fun entries a => replaceOrAppend key a entries) [] = lastOfEach key l := by
  induction l using List.reverseRecOn with
  | nil => rfl
  | append_singleton l a ih =>
      rw [List.foldl_append, ih, lastOfEach_concat]
      rfl

/-- An entry that is put into a list is found under its key, and other keys are not affected. -/
lemma find?_replaceOrAppend (a : α) (l : List α) (k : κ) :
    (replaceOrAppend key a l).find? (key · == k) =
      if key a = k then some a else l.find? (key · == k) := by
  induction l with
  | nil => by_cases ha : key a = k <;> simp [replaceOrAppend, ha]
  | cons b rest ih =>
      rw [replaceOrAppend]
      by_cases hb : key b = key a
      · by_cases ha : key a = k <;> simp [hb, ha]
      · by_cases ha : key a = k
        · have hbk : key b ≠ k := fun h => hb (h.trans ha.symm)
          rw [if_neg hb, List.find?_cons_of_neg (by simpa using hbk), ih, if_pos ha, if_pos ha]
        · simp [List.find?_cons, hb, ha, ih]

/-- Of entries that replace one another the last of a key is found, or else what was there. -/
lemma find?_foldl_replaceOrAppend (l entries : List α) (k : κ) :
    (l.foldl (fun entries a => replaceOrAppend key a entries) entries).find? (key · == k) =
      (lastOf key l k).or (entries.find? (key · == k)) := by
  induction l using List.reverseRecOn with
  | nil => rfl
  | append_singleton l a ih =>
      rw [List.foldl_append, List.foldl_cons, List.foldl_nil, find?_replaceOrAppend, lastOf_concat,
        ih]
      by_cases ha : key a = k <;> simp [ha]

end

/-! ### Operations on a class -/

namespace Operation

/-- What an operation that succeeds makes of the class of an identity. -/
def on (k : Fqsen) : Operation → ClassLike → ClassLike
  | addFunction f, c => if f.fqsen.owner? = some k then c.addMethod f.fqsen else c
  | editClass name e, c => if name = k then e.apply c else c
  | _, c => c

/-- The method that the operation adds to the class. -/
def method? (k : Fqsen) : Operation → Option Fqsen
  | addFunction f => if f.fqsen.owner? = some k then some f.fqsen else none
  | _ => none

/-- The change that the operation is for the class. -/
def edit? (k : Fqsen) : Operation → Option ClassEdit
  | editClass name e => if name = k then some e else none
  | _ => none

variable {r : Registry} {k : Fqsen} {c : ClassLike}

/-- A class that is registered has a taken identity, so that no other takes its place. -/
lemma class?_perform_of_some {op : Operation} (h : op.Succeeds r) (hc : r.class? k = some c) :
    (op.perform r).class? k = some (op.on k c) := by
  cases op with
  | addClass d =>
      obtain ⟨r', hok⟩ := h
      have hne := Registry.ne_of_class? (Registry.addClass_eq_ok_iff.mp hok).1 hc
      rw [perform_addClass hok, Registry.class?_of_addClass hok, if_neg hne, hc]
      rfl
  | addFunction f =>
      obtain ⟨r', hok⟩ := h
      rw [perform_addFunction hok, Registry.class?_of_addFunction hok, hc, on]
      split <;> rfl
  | count kind => exact hc
  | editClass name e =>
      refine (r.class?_modifyClass name k e.apply).trans ?_
      rw [hc, on]
      split <;> rfl
  | acceptAny name => exact hc

end Operation

/-- **A registered class is in the end what the operations have made of it.** -/
theorem class?_performAll_of_some {ops : List Operation} {r : Registry} {k : Fqsen} {c : ClassLike}
    (h : AllSucceed ops r) (hc : r.class? k = some c) :
    (performAll ops r).class? k = some (ops.foldl (fun c op => op.on k c) c) := by
  induction ops generalizing r c with
  | nil => exact hc
  | cons op ops ih => exact ih h.2 (Operation.class?_perform_of_some h.1 hc)

/-- What is made of a part of a class, where each change may add an entry to it and methods do
not matter to it: the entries are added in order. -/
lemma foldl_on_eq {α β : Type} {get : ClassLike → β} {item? : ClassEdit → Option α}
    {add : β → α → β}
    (edit : ∀ e c, get (ClassEdit.apply e c) = ((item? e).map (add (get c))).getD (get c))
    (method : ∀ c name, get (ClassLike.addMethod c name) = get c) (k : Fqsen)
    (ops : List Operation) (c : ClassLike) :
    get (ops.foldl (fun c op => op.on k c) c) =
      ((ops.filterMap (Operation.edit? k)).filterMap item?).foldl add (get c) := by
  induction ops generalizing c with
  | nil => rfl
  | cons op ops ih =>
      rw [List.foldl_cons, ih, List.filterMap_cons]
      cases op with
      | addFunction f =>
          simp only [Operation.on, Operation.edit?]
          split
          · rw [method]
          · rfl
      | editClass name e =>
          rw [Operation.on, Operation.edit?]
          by_cases hname : name = k
          · rw [if_pos hname, if_pos hname, edit]
            dsimp only
            rw [List.filterMap_cons]
            cases item? e <;> rfl
          · rw [if_neg hname, if_neg hname]
      | _ => rfl

/-- Its methods are those that the operations add to it. -/
lemma methods_foldl_on (k : Fqsen) (ops : List Operation) (c : ClassLike) :
    (ops.foldl (fun c op => op.on k c) c).methods =
      c.methods ++ ops.filterMap (Operation.method? k) := by
  induction ops generalizing c with
  | nil => simp
  | cons op ops ih =>
      rw [List.foldl_cons, ih, List.filterMap_cons]
      cases op with
      | addFunction f =>
          rw [Operation.on, Operation.method?]
          split
          · simp [ClassLike.addMethod]
          · rfl
      | editClass name e =>
          simp only [Operation.on, Operation.method?]
          split
          · rw [ClassEdit.methods_apply]
          · rfl
      | _ => rfl

/-! ### The lists of a class -/

namespace ClassEdit

/-- The trait that the change adds. -/
def trait? : ClassEdit → Option Fqsen
  | addTrait name => some name
  | _ => none

/-- The property that it declares. -/
def property? : ClassEdit → Option Property
  | addProperty p => some p
  | _ => none

/-- The constant that it declares. -/
def constant? : ClassEdit → Option ClassConstant
  | addConstant k => some k
  | _ => none

/-- The name that it adds to the type of the class. -/
def typeName? : ClassEdit → Option String
  | markCallable => some "callable"
  | _ => none

end ClassEdit

section

variable (k : Fqsen) (ops : List Operation) {c : ClassLike}

/-- The properties of a class are the last ones of their names. -/
lemma properties_foldl_on (h : c.properties = []) :
    (ops.foldl (fun c op => op.on k c) c).properties =
      lastOfEach Property.name
        ((ops.filterMap (Operation.edit? k)).filterMap ClassEdit.property?) := by
  rw [← foldl_replaceOrAppend, ← h]
  refine foldl_on_eq (fun e c => ?_) (fun c name => rfl) k ops c
  cases e <;> simp only [ClassEdit.apply, ClassLike.addTrait, ClassLike.requireParentCall] <;>
    first | rfl | (split <;> rfl)

/-- So are its constants. -/
lemma constants_foldl_on (h : c.constants = []) :
    (ops.foldl (fun c op => op.on k c) c).constants =
      lastOfEach ClassConstant.name
        ((ops.filterMap (Operation.edit? k)).filterMap ClassEdit.constant?) := by
  rw [← foldl_replaceOrAppend, ← h]
  refine foldl_on_eq (fun e c => ?_) (fun c name => rfl) k ops c
  cases e <;> simp only [ClassEdit.apply, ClassLike.addTrait, ClassLike.requireParentCall] <;>
    first | rfl | (split <;> rfl)

/-- Each of its traits is there once, in the order in which they first occur. -/
lemma traits_foldl_on (h : c.traits = []) :
    (ops.foldl (fun c op => op.on k c) c).traits =
      ((ops.filterMap (Operation.edit? k)).filterMap ClassEdit.trait?).eraseDups := by
  rw [← foldl_addNew, ← h]
  refine foldl_on_eq (fun e c => ?_) (fun c name => rfl) k ops c
  cases e <;> simp only [ClassEdit.apply, ClassLike.addTrait, ClassLike.requireParentCall] <;>
    first | rfl | (split <;> simp [ClassEdit.trait?, *])

end

/-! ### The type of a class -/

/-- A name is added to a type once. -/
lemma UnionType.add_add (u : UnionType) (name : String) : (u.add name).add name = u.add name := by
  refine UnionType.ext_names fun n => ?_
  rw [mem_names_add, or_iff_left_of_imp fun h => mem_names_add.mpr (.inr h)]

/-- The changes of a class leave its type as it is, or make it callable if one of them says so. -/
lemma foldl_add_typeName? (u : UnionType) (edits : List ClassEdit) :
    (.markCallable ∈ edits →
        (edits.filterMap ClassEdit.typeName?).foldl UnionType.add u = u.add "callable") ∧
      (.markCallable ∉ edits → (edits.filterMap ClassEdit.typeName?).foldl UnionType.add u = u) := by
  induction edits generalizing u with
  | nil => simp
  | cons e edits ih =>
      cases e with
      | markCallable =>
          obtain ⟨hmarked, hunmarked⟩ := ih (u.add "callable")
          refine ⟨fun _ => ?_, fun h => absurd List.mem_cons_self h⟩
          rw [List.filterMap_cons_some (f := ClassEdit.typeName?) rfl, List.foldl_cons]
          by_cases h : .markCallable ∈ edits
          · rw [hmarked h, UnionType.add_add]
          · exact hunmarked h
      | _ => simpa [List.filterMap_cons, ClassEdit.typeName?] using ih u

/-- To the type of a class the names are added that the operations on it add. -/
lemma type_foldl_on (k : Fqsen) (ops : List Operation) (c : ClassLike) :
    (ops.foldl (fun c op => op.on k c) c).type =
      ((ops.filterMap (Operation.edit? k)).filterMap ClassEdit.typeName?).foldl UnionType.add
        c.type := by
  refine foldl_on_eq (fun e c => ?_) (fun c name => rfl) k ops c
  cases e <;> simp only [ClassEdit.apply, ClassLike.addTrait, ClassLike.requireParentCall] <;>
    first | rfl | (split <;> rfl)

/-! ### Constructors and calls -/

namespace ConstructorState

/-- What is known after a change of the class. -/
def after : ConstructorState → ClassEdit → ConstructorState
  | _, .noteParentCall => called
  | notRequired, .requireParentCall => notCalled
  | s, _ => s

/-- A call is known if there has been one, whatever else there has been before or since. -/
lemma foldl_after_eq_called_iff (s : ConstructorState) (edits : List ClassEdit) :
    edits.foldl after s = called ↔ s = called ∨ .noteParentCall ∈ edits := by
  induction edits generalizing s with
  | nil => simp
  | cons e edits ih =>
      rw [List.foldl_cons, ih]
      cases e <;> cases s <;> simp [after]

lemma foldl_after_eq_notRequired_iff (s : ConstructorState) (edits : List ClassEdit) :
    edits.foldl after s = notRequired ↔
      s = notRequired ∧ .noteParentCall ∉ edits ∧ .requireParentCall ∉ edits := by
  induction edits generalizing s with
  | nil => simp
  | cons e edits ih =>
      rw [List.foldl_cons, ih]
      cases e <;> cases s <;> simp [after]

end ConstructorState

/-- What is known of a class after some operations is what the changes tell one after the other. -/
lemma constructorState_foldl_on (k : Fqsen) (ops : List Operation) (c : ClassLike) :
    (ops.foldl (fun c op => op.on k c) c).constructorState =
      (ops.filterMap (Operation.edit? k)).foldl ConstructorState.after c.constructorState := by
  rw [← List.filterMap_some (l := ops.filterMap (Operation.edit? k))]
  refine foldl_on_eq (fun e c => ?_) (fun c name => rfl) k ops c
  cases e <;> simp only [ClassEdit.apply, ClassLike.addTrait, ClassLike.requireParentCall] <;>
    first | rfl | (split <;> simp [ConstructorState.after, *])

/-! ### Operations on a function -/

namespace Operation

/-- Whether the operation lets the function of an identity take any number of arguments. -/
def opens (k : Fqsen) : Operation → Bool
  | acceptAny name => decide (name = k)
  | _ => false

/-- A function that is registered has a taken identity, so that no other takes its place. -/
lemma function?_perform_of_some {op : Operation} {r : Registry} {k : Fqsen} {f : FunctionLike}
    (h : op.Succeeds r) (hf : r.function? k = some f) :
    (op.perform r).function? k = some (if op.opens k then f.acceptAny else f) := by
  cases op with
  | addClass c =>
      obtain ⟨r', hok⟩ := h
      rw [perform_addClass hok, Registry.function?_of_addClass hok, hf]
      rfl
  | addFunction g =>
      obtain ⟨r', hok⟩ := h
      have hne := Registry.ne_of_function? (Registry.addFunction_eq_ok_iff.mp hok).1 hf
      rw [perform_addFunction hok, Registry.function?_of_addFunction hok, if_neg hne, hf]
      rfl
  | count kind => exact hf
  | editClass name e => exact hf
  | acceptAny name =>
      refine (r.function?_modifyFunction name k FunctionLike.acceptAny).trans ?_
      rw [hf, opens]
      by_cases hname : name = k <;> simp [hname]

end Operation

/-- **A registered function takes any number of arguments in the end** if it does so already or one
of the operations says so, and is as it was if none does. -/
theorem function?_performAll_of_some {ops : List Operation} {r : Registry} {k : Fqsen}
    {f : FunctionLike} (h : AllSucceed ops r) (hf : r.function? k = some f) :
    (performAll ops r).function? k =
      some (if ops.any (Operation.opens k) then f.acceptAny else f) := by
  induction ops generalizing r f with
  | nil => exact hf
  | cons op ops ih =>
      rw [performAll_cons, ih h.2 (Operation.function?_perform_of_some h.1 hf), List.any_cons]
      -- to be opened once more makes no difference
      cases op.opens k <;> cases ops.any (Operation.opens k) <;> rfl

end PhpIndex
