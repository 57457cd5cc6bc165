import Mathlib.Data.List.Forall2
import PhpIndex.Proofs.Registry.Operations

/-!
Registries that hold the same declarations under other alternate ids.

* `Fqsen.bare`, `ClassLike.bare`, `FunctionLike.bare`: identities and declarations without alternate
  ids;
* `Matching`: a one-to-one pairing of the entries of two tables that are alike;
  `Matching.insert`, `Matching.change`: what keeps it;
* `Registry.Matches`: two registries of which classes and functions are paired;
* `Operation.Alike`: operations that differ in alternate ids only;
  `Registry.Matches.performAll`: they keep a pairing and add the new declarations to it.
-/

namespace PhpIndex

/-! ### Without alternate ids -/

/-- The element without the alternate id of its class. -/
def Element.bare : Element → Element
  | method owner _ name => method owner 0 name
  | e => e

/-- The identity without alternate ids. -/
def Fqsen.bare (k : Fqsen) : Fqsen where
  path := k.path
  element := k.element.bare

/-- The class without the alternate ids of its own identity and of its methods. -/
def ClassLike.bare (c : ClassLike) : ClassLike :=
  { c with fqsen := c.fqsen.bare, methods := c.methods.map Fqsen.bare }

/-- The function without the alternate ids of its identity. -/
def FunctionLike.bare (f : FunctionLike) : FunctionLike := { f with fqsen := f.fqsen.bare }

namespace Fqsen

lemma bare_member (k : Fqsen) (name : String) :
    (k.member name).bare = (k.bare.member name).bare := by
  obtain ⟨path, element, alternate⟩ := k
  cases element <;> rfl

/-- The members of one name that two classes of one name have. -/
lemma bare_member_congr {k l : Fqsen} (h : k.bare = l.bare) (name : String) :
    (k.member name).bare = (l.member name).bare := by
  rw [bare_member, h, ← bare_member]

/-- Whether an identity is one of a class does not depend on alternate ids. -/
lemma isSome_owner?_bare (k : Fqsen) : k.bare.owner?.isSome = k.owner?.isSome := by
  obtain ⟨path, element, alternate⟩ := k
  cases element <;> rfl

end Fqsen

namespace ClassLike

lemma bare_addMethod (c : ClassLike) (name : Fqsen) :
    (c.addMethod name).bare = c.bare.addMethod name.bare := by
  simp [addMethod, bare]

end ClassLike

/-- Changes of a class do not look at alternate ids. -/
lemma ClassEdit.bare_apply (e : ClassEdit) (c : ClassLike) :
    (e.apply c).bare = e.apply c.bare := by
  cases e with
  | addTrait name =>
      by_cases hname : name ∈ c.traits <;> simp [apply, ClassLike.addTrait, ClassLike.bare, hname]
  | requireParentCall =>
      cases hstate : c.constructorState <;>
        simp [apply, ClassLike.requireParentCall, ClassLike.bare, hstate]
  | _ => rfl

/-! ### Tables that match -/

/-- A one-to-one pairing of the entries of two tables, in which they are the same without alternate
ids. -/
structure Matching {α : Type} (bare : α → α) (pairs : List (Fqsen × Fqsen))
    (f g : Fqsen → Option α) : Prop where
  key_eq : ∀ p ∈ pairs, p.1.bare = p.2.bare
  one_to_one : ∀ p ∈ pairs, ∀ q ∈ pairs, p.1 = q.1 ↔ p.2 = q.2
  entry_eq : ∀ p ∈ pairs, ∃ a b, f p.1 = some a ∧ g p.2 = some b ∧ bare a = bare b

namespace Matching

variable {α : Type} {bare : α → α} {pairs : List (Fqsen × Fqsen)} {f g f' g' : Fqsen → Option α}

lemma nil : Matching bare [] f g :=
  ⟨fun _ h => (nomatch h), fun _ h => (nomatch h), fun _ h => (nomatch h)⟩

variable (h : Matching bare pairs f g)

include h

/-- New entries under identities that were free are one more pair. -/
lemma insert {k l : Fqsen} {a b : α} (hk : f k = none) (hl : g l = none) (hkl : k.bare = l.bare)
    (hab : bare a = bare b) (hf' : ∀ x, f' x = if k = x then some a else f x)
    (hg' : ∀ x, g' x = if l = x then some b else g x) :
    Matching bare (pairs ++ [(k, l)]) f' g' := by
  -- both identities of the new pair are none of those before
  have hnew : ∀ p ∈ pairs, k ≠ p.1 ∧ l ≠ p.2 := by
    intro p hp
    obtain ⟨a, b, ha, hb, -⟩ := h.entry_eq p hp
    constructor
    · rintro rfl
      rw [hk] at ha
      cases ha
    · rintro rfl
      rw [hl] at hb
      cases hb
  refine ⟨?_, ?_, ?_⟩
  · exact List.forall_mem_append.mpr ⟨h.key_eq, List.forall_mem_singleton.mpr hkl⟩
  · intro p hp q hq
    rcases List.mem_append.mp hp with hp | hp <;> rcases List.mem_append.mp hq with hq | hq
    · exact h.one_to_one p hp q hq
    · rw [List.mem_singleton.mp hq]
      exact iff_of_false (hnew p hp).1.symm (hnew p hp).2.symm
    · rw [List.mem_singleton.mp hp]
      exact iff_of_false (hnew q hq).1 (hnew q hq).2
    · rw [List.mem_singleton.mp hp, List.mem_singleton.mp hq]
      exact iff_of_true rfl rfl
  · refine List.forall_mem_append.mpr ⟨fun p hp => ?_, List.forall_mem_singleton.mpr ?_⟩
    · rw [hf', hg', if_neg (hnew p hp).1, if_neg (hnew p hp).2]
      exact h.entry_eq p hp
    · exact ⟨a, b, by rw [hf', if_pos rfl], by rw [hg', if_pos rfl], hab⟩

/-- A change of both entries of a pair that does not look at alternate ids keeps the pairing. -/
lemma change {k l : Fqsen} (hkl : (k, l) ∈ pairs) {φ ψ : α → α}
    (hφ : ∀ a b, bare a = bare b → bare (φ a) = bare (ψ b))
    (hf' : ∀ x, f' x = if k = x then (f x).map φ else f x)
    (hg' : ∀ x, g' x = if l = x then (g x).map ψ else g x) :
    Matching bare pairs f' g' := by
  refine ⟨h.key_eq, h.one_to_one, fun p hp => ?_⟩
  obtain ⟨a, b, ha, hb, hab⟩ := h.entry_eq p hp
  have hone := h.one_to_one (k, l) hkl p hp
  rw [hf', hg', ha, hb]
  by_cases hkp : k = p.1
  · rw [if_pos hkp, if_pos (hone.mp hkp)]
    exact ⟨φ a, ψ b, rfl, rfl, hφ a b hab⟩
  · rw [if_neg hkp, if_neg (mt hone.mpr hkp)]
    exact ⟨a, b, rfl, rfl, hab⟩

lemma congr (hf' : ∀ x, f' x = f x) (hg' : ∀ x, g' x = g x) : Matching bare pairs f' g' := by
  obtain rfl : f' = f := funext hf'
  obtain rfl : g' = g := funext hg'
  exact h

end Matching

/-! ### Registries that match -/

/-- Two registries of which some classes and some functions are paired. -/
structure Registry.Matches (classes functions : List (Fqsen × Fqsen)) (r r' : Registry) :
    Prop where
  classes : Matching ClassLike.bare classes r.class? r'.class?
  functions : Matching FunctionLike.bare functions r.function? r'.function?

/-- Two identities that are paired, or none. -/
abbrev Paired (pairs : List (Fqsen × Fqsen)) : Option Fqsen → Option Fqsen → Prop :=
  Option.Rel fun k l => (k, l) ∈ pairs

lemma Paired.none_or_some {pairs : List (Fqsen × Fqsen)} {k? l? : Option Fqsen}
    (h : Paired pairs k? l?) :
    k? = none ∧ l? = none ∨ ∃ k l, k? = some k ∧ l? = some l ∧ (k, l) ∈ pairs := by
  cases h with
  | some h => exact .inr ⟨_, _, rfl, rfl, h⟩
  | none => exact .inl ⟨rfl, rfl⟩

lemma Paired.mono {pairs pairs' : List (Fqsen × Fqsen)} (hsub : pairs ⊆ pairs')
    {k? l? : Option Fqsen} (h : Paired pairs k? l?) : Paired pairs' k? l? := by
  cases h with
  | some h => exact .some (hsub h)
  | none => exact .none

/-- Operations on paired declarations, or on new ones that differ in alternate ids only. -/
inductive Operation.Alike (classes functions : List (Fqsen × Fqsen)) :
    Operation → Operation → Prop where
  | addClass {c d : ClassLike} (h : c.bare = d.bare) :
      Alike classes functions (.addClass c) (.addClass d)
  | addFunction {f g : FunctionLike} (h : f.bare = g.bare)
      (howner : Paired classes f.fqsen.owner? g.fqsen.owner?) :
      Alike classes functions (.addFunction f) (.addFunction g)
  | count (kind : Counted) : Alike classes functions (.count kind) (.count kind)
  | editClass {k l : Fqsen} (h : (k, l) ∈ classes) (e : ClassEdit) :
      Alike classes functions (.editClass k e) (.editClass l e)
  | acceptAny {k l : Fqsen} (h : (k, l) ∈ functions) :
      Alike classes functions (.acceptAny k) (.acceptAny l)

/-- The identities of the classes that two rows of operations register, in pairs. -/
def newClassPairs (ops ops' : List Operation) : List (Fqsen × Fqsen) :=
  ((newClasses ops).map (·.fqsen)).zip ((newClasses ops').map (·.fqsen))

/-- The same for functions and methods. -/
def newFunctionPairs (ops ops' : List Operation) : List (Fqsen × Fqsen) :=
  ((newFunctions ops).map (·.fqsen)).zip ((newFunctions ops').map (·.fqsen))

namespace Operation.Alike

lemma mono {classes functions classes' functions' : List (Fqsen × Fqsen)}
    (hclasses : classes ⊆ classes') (hfunctions : functions ⊆ functions') {op op' : Operation}
    (h : Alike classes functions op op') : Alike classes' functions' op op' := by
  cases h with
  | addClass h => exact .addClass h
  | addFunction h howner => exact .addFunction h (howner.mono hclasses)
  | count kind => exact .count kind
  | editClass h e => exact .editClass (hclasses h) e
  | acceptAny h => exact .acceptAny (hfunctions h)

end Operation.Alike

namespace Registry.Matches

variable {classes functions : List (Fqsen × Fqsen)} {r r' q q' : Registry}

lemma nil : r.Matches [] [] r' := ⟨.nil, .nil⟩

variable (h : r.Matches classes functions r')

include h

lemma addClass {c d : ClassLike} (hcd : c.bare = d.bare) (hc : r.addClass c = .ok q)
    (hd : r'.addClass d = .ok q') :
    q.Matches (classes ++ [(c.fqsen, d.fqsen)]) functions q' where
  classes := h.classes.insert
    (class?_eq_none_iff.mpr (addClass_eq_ok_iff.mp hc).1)
    (class?_eq_none_iff.mpr (addClass_eq_ok_iff.mp hd).1)
    (congrArg ClassLike.fqsen hcd) hcd (class?_of_addClass hc) (class?_of_addClass hd)
  functions := h.functions.congr (function?_of_addClass hc) (function?_of_addClass hd)

lemma addFunction {f g : FunctionLike} (hfg : f.bare = g.bare)
    (howner : Paired classes f.fqsen.owner? g.fqsen.owner?) (hf : r.addFunction f = .ok q)
    (hg : r'.addFunction g = .ok q') :
    q.Matches classes (functions ++ [(f.fqsen, g.fqsen)]) q' where
  classes := by
    have hq := class?_of_addFunction hf
    have hq' := class?_of_addFunction hg
    have hkey : f.fqsen.bare = g.fqsen.bare := congrArg FunctionLike.fqsen hfg
    revert hq hq'
    generalize f.fqsen.owner? = k?, g.fqsen.owner? = l? at howner
    intro hq hq'
    cases howner with
    | none => exact h.classes.congr hq hq'
    | some hkl =>
        simp only [Option.some_inj] at hq hq'
        refine h.classes.change hkl (fun a b hab => ?_) hq hq'
        rw [ClassLike.bare_addMethod, ClassLike.bare_addMethod, hab, hkey]
  functions := h.functions.insert
    (function?_eq_none_iff.mpr (addFunction_eq_ok_iff.mp hf).1)
    (function?_eq_none_iff.mpr (addFunction_eq_ok_iff.mp hg).1)
    (congrArg FunctionLike.fqsen hfg) hfg (function?_of_addFunction hf)
    (function?_of_addFunction hg)

lemma count (kind : Counted) : (r.count kind).Matches classes functions (r'.count kind) :=
  ⟨h.classes, h.functions⟩

lemma editClass {k l : Fqsen} (hkl : (k, l) ∈ classes) (e : ClassEdit) :
    (r.modifyClass k e.apply).Matches classes functions (r'.modifyClass l e.apply) where
  classes := by
    refine h.classes.change hkl (fun a b hab => ?_) (fun x => r.class?_modifyClass k x _)
      fun x => r'.class?_modifyClass l x _
    rw [e.bare_apply, e.bare_apply, hab]
  functions := h.functions

lemma acceptAny {k l : Fqsen} (hkl : (k, l) ∈ functions) :
    (r.modifyFunction k FunctionLike.acceptAny).Matches classes functions
      (r'.modifyFunction l FunctionLike.acceptAny) where
  classes := h.classes
  functions := by
    refine h.functions.change hkl (fun f g hfg => ?_) (fun x => r.function?_modifyFunction k x _)
      fun x => r'.function?_modifyFunction l x _
    exact congrArg FunctionLike.acceptAny hfg

/-- **Alike operations keep registries alike**, and what they register is paired. -/
theorem performAll {ops ops' : List Operation}
    (hops : List.Forall₂ (Operation.Alike classes functions) ops ops') (hs : AllSucceed ops r)
    (hs' : AllSucceed ops' r') :
    (performAll ops r).Matches (classes ++ newClassPairs ops ops')
      (functions ++ newFunctionPairs ops ops') (performAll ops' r') := by
  induction ops generalizing classes functions r r' ops' with
  | nil =>
      cases hops
      simpa [newClassPairs, newFunctionPairs, newClasses, newFunctions] using h
  | cons op rest ih =>
      obtain ⟨op', rest', hop, hrest, rfl⟩ := List.forall₂_cons_left_iff.mp hops
      -- later operations may also be on what this one registers
      have hlater (more more' : List (Fqsen × Fqsen)) :
          List.Forall₂ (Operation.Alike (classes ++ more) (functions ++ more')) rest rest' :=
        hrest.imp fun _ _ => .mono (List.subset_append_left _ _) (List.subset_append_left _ _)
      cases hop with
      | addClass hcd =>
          obtain ⟨⟨q, hc⟩, hs⟩ := hs
          obtain ⟨⟨q', hd⟩, hs'⟩ := hs'
          rw [Operation.perform_addClass hc] at hs
          rw [Operation.perform_addClass hd] at hs'
          have hall := ih (h.addClass hcd hc hd) (by simpa using hlater [_] []) hs hs'
          rw [performAll_cons, performAll_cons, Operation.perform_addClass hc,
            Operation.perform_addClass hd]
          rwa [List.append_assoc] at hall
      | addFunction hfg howner =>
          obtain ⟨⟨q, hf⟩, hs⟩ := hs
          obtain ⟨⟨q', hg⟩, hs'⟩ := hs'
          rw [Operation.perform_addFunction hf] at hs
          rw [Operation.perform_addFunction hg] at hs'
          have hall := ih (h.addFunction hfg howner hf hg) (by simpa using hlater [] [_]) hs hs'
          rw [performAll_cons, performAll_cons, Operation.perform_addFunction hf,
            Operation.perform_addFunction hg]
          rwa [List.append_assoc] at hall
      | count kind => exact ih (h.count kind) hrest hs.2 hs'.2
      | editClass hkl e => exact ih (h.editClass hkl e) hrest hs.2 hs'.2
      | acceptAny hkl => exact ih (h.acceptAny hkl) hrest hs.2 hs'.2

end Registry.Matches

/-! ### What alike operations register and count -/

section

variable {classes functions : List (Fqsen × Fqsen)} {ops ops' : List Operation}
variable (h : List.Forall₂ (Operation.Alike classes functions) ops ops')

include h

lemma counted_eq_of_alike :
    ops.filterMap Operation.counted? = ops'.filterMap Operation.counted? := by
  induction h with
  | nil => rfl
  | cons hop _ ih =>
      cases hop with
      | count kind => exact congrArg (kind :: ·) ih
      | _ => exact ih

lemma forall₂_newClassPairs :
    List.Forall₂ (fun k l => (k, l) ∈ newClassPairs ops ops') ((newClasses ops).map (·.fqsen))
      ((newClasses ops').map (·.fqsen)) := by
  have hlength : (newClasses ops).length = (newClasses ops').length := by
    induction h with
    | nil => rfl
    | cons hop _ ih =>
        cases hop with
        | addClass _ => exact congrArg (· + 1) ih
        | _ => exact ih
  exact List.forall₂_iff_zip.mpr ⟨by simpa using hlength, fun h => h⟩

lemma forall₂_newFunctionPairs :
    List.Forall₂ (fun k l => (k, l) ∈ newFunctionPairs ops ops')
      ((newFunctions ops).map (·.fqsen)) ((newFunctions ops').map (·.fqsen)) := by
  have hlength : (newFunctions ops).length = (newFunctions ops').length := by
    induction h with
    | nil => rfl
    | cons hop _ ih =>
        cases hop with
        | addFunction _ _ => exact congrArg (· + 1) ih
        | _ => exact ih
  exact List.forall₂_iff_zip.mpr ⟨by simpa using hlength, fun h => h⟩

end

end PhpIndex
