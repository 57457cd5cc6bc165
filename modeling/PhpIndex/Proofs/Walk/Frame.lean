import Mathlib.Tactic.Common
import PhpIndex.Proofs.Registry.Operations
import PhpIndex.Scope.Basic

/-!
What can happen to a registry in a scope.

* `Scope.Grounded`: the class and the function around a place are registered, and the methods of
  the class lead back to it;
* `Operation.Within`: an operation on no other declarations than those around a place;
* `Scope.Frame`: such operations keep everything else as it is; `Scope.frame_performAll`;
* `Scope.Encloses`: the declarations around an inner place are those around the outer one or new,
  so that what the inner scope keeps the outer one keeps too (`Scope.Frame.enclosing`);
* `Scope.edit`: changes of the class around a place.
-/

namespace PhpIndex

namespace Scope

/-- The class and the function around a place are registered. -/
structure Grounded (s : Scope) (r : Registry) : Prop where
  class_registered : ∀ k, s.class? = some k → r.hasClass k = true
  /-- A method is one of the class around the place, whichever declaration of its name it is. -/
  member_owner : ∀ k, s.class? = some k → ∀ name, (k.member name).owner? = some k
  function_registered : ∀ k, s.function? = some k → r.hasFunction k = true

/-- What keeps all declarations but the class and the function around a place. -/
structure Frame (s : Scope) (r r' : Registry) : Prop where
  class_kept : ∀ k c, s.class? ≠ some k → r.class? k = some c → r'.class? k = some c
  function_kept : ∀ k f, s.function? ≠ some k → r.function? k = some f → r'.function? k = some f
  /-- Those around the place are kept as well, if not as they are. -/
  hasClass : ∀ k, r.hasClass k = true → r'.hasClass k = true
  hasFunction : ∀ k, r.hasFunction k = true → r'.hasFunction k = true
  tally_le : ∀ kind, r.tally.of kind ≤ r'.tally.of kind

/-- The class and the function around an inner place are those around the outer one, or not yet
registered. -/
structure Encloses (s : Scope) (r : Registry) (s' : Scope) : Prop where
  class_eq_or_new : ∀ k, s'.class? = some k → s.class? = some k ∨ r.hasClass k = false
  function_eq_or_new : ∀ k, s'.function? = some k → s.function? = some k ∨ r.hasFunction k = false

variable {s s' : Scope} {r r' r'' : Registry}

/-! ### Frames -/

namespace Frame

lemma refl (s : Scope) (r : Registry) : s.Frame r r :=
  ⟨fun _ _ _ h => h, fun _ _ _ h => h, fun _ h => h, fun _ h => h, fun _ => Nat.le_refl _⟩

lemma trans (h : s.Frame r r') (h' : s.Frame r' r'') : s.Frame r r'' where
  class_kept k c hk hc := h'.class_kept k c hk (h.class_kept k c hk hc)
  function_kept k f hk hf := h'.function_kept k f hk (h.function_kept k f hk hf)
  hasClass k hk := h'.hasClass k (h.hasClass k hk)
  hasFunction k hk := h'.hasFunction k (h.hasFunction k hk)
  tally_le kind := Nat.le_trans (h.tally_le kind) (h'.tally_le kind)

/-- What comes after a change in a scope, and keeps all but what is around an inner place, keeps
all but what is around the scope. -/
lemma enclosing (h : s.Frame r r') (hs : s.Encloses r s') (h' : s'.Frame r' r'') :
    s.Frame r r'' where
  class_kept k c hk hc := by
    refine h'.class_kept k c (fun hin => ?_) (h.class_kept k c hk hc)
    have hnew := (hs.class_eq_or_new k hin).resolve_left hk
    exact Registry.ne_of_class? hnew hc rfl
  function_kept k f hk hf := by
    refine h'.function_kept k f (fun hin => ?_) (h.function_kept k f hk hf)
    have hnew := (hs.function_eq_or_new k hin).resolve_left hk
    exact Registry.ne_of_function? hnew hf rfl
  hasClass k hk := h'.hasClass k (h.hasClass k hk)
  hasFunction k hk := h'.hasFunction k (h.hasFunction k hk)
  tally_le kind := Nat.le_trans (h.tally_le kind) (h'.tally_le kind)

end Frame

/-- A scope stays grounded in a registry that loses nothing, and so does one of the same
declarations. -/
lemma Grounded.mono (hs : s.Grounded r) (hclass : s'.class? = s.class?)
    (hfunction : s'.function? = s.function?) (h : s.Frame r r') : s'.Grounded r' where
  class_registered k hk := h.hasClass k (hs.class_registered k (hclass ▸ hk))
  member_owner k hk := hs.member_owner k (hclass ▸ hk)
  function_registered k hk := h.hasFunction k (hs.function_registered k (hfunction ▸ hk))

/-- Outside all declarations there is nothing to be registered. -/
lemma grounded_of_eq_none (hclass : s.class? = none) (hfunction : s.function? = none) :
    s.Grounded r where
  class_registered k hk := by rw [hclass] at hk; cases hk
  member_owner k hk := by rw [hclass] at hk; cases hk
  function_registered k hk := by rw [hfunction] at hk; cases hk

lemma encloses_of_eq (hclass : s'.class? = s.class?) (hfunction : s'.function? = s.function?) :
    s.Encloses r s' :=
  ⟨fun _ hk => .inl (hclass ▸ hk), fun _ hk => .inl (hfunction ▸ hk)⟩

/-! ### Inside a new declaration -/

section

variable {k : Fqsen} (range : LineRange)

lemma grounded_enterClass {name : String} (helement : k.element = .classLike name)
    (hk : r'.hasClass k = true) : ((s.enterClass k).withRange range).Grounded r' where
  class_registered := by rintro _ ⟨⟩; exact hk
  member_owner := by rintro _ ⟨⟩; exact Fqsen.owner?_member helement
  function_registered _ h := nomatch h

lemma encloses_enterClass (hk : r.hasClass k = false) :
    s.Encloses r ((s.enterClass k).withRange range) where
  class_eq_or_new := by rintro _ ⟨⟩; exact .inr hk
  function_eq_or_new _ h := nomatch h

lemma Grounded.enterFunction (hs : s.Grounded r) (h : s.Frame r r')
    (hk : r'.hasFunction k = true) : ((s.enterFunction k).withRange range).Grounded r' where
  class_registered l hl := h.hasClass l (hs.class_registered l hl)
  member_owner := hs.member_owner
  function_registered := by rintro _ ⟨⟩; exact hk

lemma encloses_enterFunction (hk : r.hasFunction k = false) :
    s.Encloses r ((s.enterFunction k).withRange range) where
  class_eq_or_new _ h := .inl h
  function_eq_or_new := by rintro _ ⟨⟩; exact .inr hk

end

end Scope

/-! ### Operations within a scope -/

/-- An operation that changes no other declarations than those around a place. -/
def Operation.Within (s : Scope) : Operation → Prop
  | addClass _ | count _ => True
  | addFunction f => ∀ owner, f.fqsen.owner? = some owner → s.class? = some owner
  | editClass name _ => s.class? = some name
  | acceptAny name => s.function? = some name

namespace Operation

variable {s : Scope} {r : Registry} {op : Operation}

/-- A class that is not around the place stays as it is: a new one has another identity, and a
change is one of the class around the place. -/
lemma class?_perform (hwithin : op.Within s) (h : op.Succeeds r) {k : Fqsen} {c : ClassLike}
    (hk : s.class? ≠ some k) (hc : r.class? k = some c) :
    (op.perform r).class? k = some c := by
  cases op with
  | addClass d =>
      obtain ⟨r', hok⟩ := h
      have hfree := (Registry.addClass_eq_ok_iff.mp hok).1
      have hne := Registry.ne_of_class? hfree hc
      rw [perform_addClass hok, Registry.class?_of_addClass hok, if_neg hne, hc]
  | addFunction f =>
      obtain ⟨r', hok⟩ := h
      have hne : f.fqsen.owner? ≠ some k := fun howner => hk (hwithin k howner)
      rw [perform_addFunction hok, Registry.class?_of_addFunction hok, if_neg hne, hc]
  | editClass name edit =>
      have hne : name ≠ k := fun heq => hk (heq ▸ hwithin)
      exact (r.class?_modifyClass name k edit.apply).trans ((if_neg hne).trans hc)
  | count kind => exact hc
  | acceptAny name => exact hc

lemma function?_perform (hwithin : op.Within s) (h : op.Succeeds r) {k : Fqsen}
    {f : FunctionLike} (hk : s.function? ≠ some k) (hf : r.function? k = some f) :
    (op.perform r).function? k = some f := by
  cases op with
  | addClass c =>
      obtain ⟨r', hok⟩ := h
      rw [perform_addClass hok, Registry.function?_of_addClass hok, hf]
  | addFunction g =>
      obtain ⟨r', hok⟩ := h
      have hfree := (Registry.addFunction_eq_ok_iff.mp hok).1
      have hne := Registry.ne_of_function? hfree hf
      rw [perform_addFunction hok, Registry.function?_of_addFunction hok, if_neg hne, hf]
  | acceptAny name =>
      have hne : name ≠ k := fun heq => hk (heq ▸ hwithin)
      exact (r.function?_modifyFunction name k _).trans ((if_neg hne).trans hf)
  | count kind => exact hf
  | editClass name edit => exact hf

lemma tally_le_perform (h : op.Succeeds r) (kind : Counted) :
    r.tally.of kind ≤ (op.perform r).tally.of kind := by
  cases op with
  | addClass c =>
      obtain ⟨r', hok⟩ := h
      exact Nat.le_of_eq (by rw [perform_addClass hok, Registry.tally_of_addClass hok])
  | addFunction f =>
      obtain ⟨r', hok⟩ := h
      exact Nat.le_of_eq (by rw [perform_addFunction hok, Registry.tally_of_addFunction hok])
  | count kind' =>
      show r.tally.of kind ≤ (r.tally.add kind').of kind
      rw [Tally.of_add]
      omega
  | editClass name edit => exact Nat.le_refl _
  | acceptAny name => exact Nat.le_refl _

end Operation

namespace Scope

variable {s : Scope} {r : Registry}

/-- What is done within a scope keeps all but the declarations around the place. -/
lemma frame_perform {op : Operation} (hwithin : op.Within s) (h : op.Succeeds r) :
    s.Frame r (op.perform r) where
  class_kept _ _ hk hc := Operation.class?_perform hwithin h hk hc
  function_kept _ _ hk hf := Operation.function?_perform hwithin h hk hf
  hasClass k hk := (Operation.hasClass_perform h k).mpr (.inl hk)
  hasFunction k hk := (Operation.hasFunction_perform h k).mpr (.inl hk)
  tally_le := Operation.tally_le_perform h

/-- So does a row of operations. -/
theorem frame_performAll {ops : List Operation} (hwithin : ∀ op ∈ ops, op.Within s)
    (h : AllSucceed ops r) : s.Frame r (performAll ops r) := by
  induction ops generalizing r with
  | nil => exact .refl s r
  | cons op ops ih =>
      obtain ⟨hop, hops⟩ := List.forall_mem_cons.mp hwithin
      exact (frame_perform hop h.1).trans (ih hops h.2)

/-! ### Changes of the class around a place -/

/-- Changes of the class around a place. -/
def edit (s : Scope) (edits : List ClassEdit) : List Operation :=
  match s.class? with
  | none => []
  | some owner => edits.map (.editClass owner)

lemma edit_eq {owner : Fqsen} (h : s.class? = some owner) (edits : List ClassEdit) :
    s.edit edits = edits.map (.editClass owner) := by
  rw [edit, h]

lemma edit_eq_nil (h : s.class? = none) (edits : List ClassEdit) : s.edit edits = [] := by
  rw [edit, h]

lemma edit_nil (s : Scope) : s.edit [] = [] := by
  rw [edit]
  split <;> rfl

/-- Changes of a class leave all functions as they are. -/
lemma function?_performAll_edit (s : Scope) (edits : List ClassEdit) (r : Registry) (k : Fqsen) :
    (performAll (s.edit edits) r).function? k = r.function? k := by
  rw [edit]
  split
  · rfl
  · rw [performAll_editClass]
    rfl

lemma within_edit (edits : List ClassEdit) : ∀ op ∈ s.edit edits, op.Within s := by
  intro op hop
  cases hclass : s.class? with
  | none => rw [edit_eq_nil hclass] at hop; cases hop
  | some owner =>
      rw [edit_eq hclass] at hop
      obtain ⟨e, -, rfl⟩ := List.mem_map.mp hop
      exact hclass

lemma allSucceed_edit (hs : s.Grounded r) (edits : List ClassEdit) :
    AllSucceed (s.edit edits) r := by
  cases hclass : s.class? with
  | none => rw [edit_eq_nil hclass]; exact allSucceed_nil r
  | some owner =>
      rw [edit_eq hclass]
      exact allSucceed_editClass (hs.class_registered owner hclass)

end Scope

end PhpIndex
