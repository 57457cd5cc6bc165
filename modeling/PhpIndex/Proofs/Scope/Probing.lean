import Mathlib.Data.Nat.Init
import PhpIndex.Proofs.Registry.Alternates
import PhpIndex.Scope.Naming

/-!
The search for the identity of a new declaration.

* `Scope.candidate?`, `Registry.taken`: the identity with which the search begins, and the
  identities that it passes over;
* `Probes`: a search that tries one alternate id after another, and that ends before there are no
  more of them; `Probes.isLeastFree`, `Probes.unique`: it finds the least that is free, and no
  other; `exists_probes_iff`: it ends if there is one;
* `Registry.Admits`: an identity under which no declaration is refused as a duplicate;
* `Scope.SearchesIdentity`, `Scope.searchesIdentity`: **the identity of a new declaration is what
  the search finds**, whatever is registered.
-/

namespace PhpIndex

open Text

/-! ### The search -/

/-- How many alternate ids there are, which are kept in words of 32 bits. -/
def alternateIds : Nat := UInt32.size

/-- The search for a free identity. One that is taken is left for the next alternate of its name, as
long as there are any. -/
inductive Probes (taken : Fqsen → Bool) : Fqsen → Fqsen → Prop
  | free {k : Fqsen} (h : taken k = false) : Probes taken k k
  | next {k found : Fqsen} (h : taken k = true) (bound : k.alternate + 1 < alternateIds)
      (rest : Probes taken (k.withAlternate (k.alternate + 1)) found) : Probes taken k found

namespace Probes

variable {taken : Fqsen → Bool} {k found : Fqsen}

lemma primary_eq (h : Probes taken k found) : found.primary = k.primary := by
  induction h with
  | free => rfl
  | next _ _ _ ih => exact ih

lemma free_found (h : Probes taken k found) : taken found = false := by
  induction h with
  | free h => exact h
  | next _ _ _ ih => exact ih

/-- The alternate ids do not run out. -/
lemma alternate_lt (h : Probes taken k found) (hk : k.alternate < alternateIds) :
    found.alternate < alternateIds := by
  induction h with
  | free => exact hk
  | next _ bound _ ih => exact ih bound

/-- What is passed over is taken. -/
lemma taken_of_lt (h : Probes taken k found) {i : Nat} (hk : k.alternate ≤ i)
    (hi : i < found.alternate) : taken (found.withAlternate i) = true := by
  induction h with
  | free => omega
  | @next k found htaken _ rest ih =>
      obtain heq | hlt := Nat.eq_or_lt_of_le hk
      · have hname : k = found.withAlternate i :=
          heq ▸ Fqsen.eq_withAlternate_of_primary rest.primary_eq.symm
        rwa [← hname]
      · exact ih hlt hi

/-- From the first declaration of a name the search finds the least alternate that is free. -/
theorem isLeastFree (h : Probes taken k found) (hk : k.alternate = 0) :
    IsLeastFree taken found where
  free := h.free_found
  before_taken _ hi := h.taken_of_lt (hk ▸ Nat.zero_le _) hi

/-- There is one way for it to end. -/
theorem unique (h : Probes taken k found) {found' : Fqsen} (h' : Probes taken k found') :
    found = found' := by
  induction h with
  | free hfree =>
      cases h' with
      | free => rfl
      | next htaken => exact absurd (hfree.symm.trans htaken) Bool.false_ne_true
  | next htaken _ _ ih =>
      cases h' with
      | free hfree => exact absurd (hfree.symm.trans htaken) Bool.false_ne_true
      | next _ _ rest => exact ih rest

/-- From any alternate before it the least that is free is found. -/
theorem of_isLeastFree (h : IsLeastFree taken k) (hk : k.alternate < alternateIds) {i : Nat}
    (hi : i ≤ k.alternate) : Probes taken (k.withAlternate i) k := by
  induction hi using Nat.decreasingInduction with
  | self => exact .free h.free
  | of_succ i hi ih => exact .next (h.before_taken i hi) (Nat.lt_of_le_of_lt hi hk) ih

end Probes

/-- The search finds a free identity if there is one that is the least. -/
lemma Probes.of_isLeastFree_of_primary {taken : Fqsen → Bool} {start k : Fqsen}
    (h : IsLeastFree taken k) (hk : k.alternate < alternateIds) (hstart : start.alternate = 0)
    (hname : start.primary = k.primary) : Probes taken start k := by
  have hzero : start = k.withAlternate 0 := hstart ▸ Fqsen.eq_withAlternate_of_primary hname
  rw [hzero]
  exact .of_isLeastFree h hk (Nat.zero_le _)

/-- The search ends if any alternate id is free. -/
theorem exists_probes_iff {taken : Fqsen → Bool} {start : Fqsen} (hstart : start.alternate = 0) :
    (∃ found, Probes taken start found) ↔
      ∃ i < alternateIds, taken (start.withAlternate i) = false := by
  constructor
  · rintro ⟨found, h⟩
    refine ⟨found.alternate, h.alternate_lt (hstart ▸ by decide), ?_⟩
    rw [← Fqsen.eq_withAlternate_of_primary h.primary_eq]
    exact h.free_found
  · rintro ⟨i, hi, hfree⟩
    have hleast : IsLeastFree taken (Registry.leastFree taken i start) :=
      Registry.leastFree_spec ⟨i, Nat.le_refl i, hfree⟩
    exact ⟨_, .of_isLeastFree_of_primary hleast (Nat.lt_of_le_of_lt (hleast.alternate_le hfree) hi)
      hstart rfl⟩

/-! ### The identity of a declaration -/

/-- The identity with which the search for that of a new declaration begins. A method needs a class
around it. -/
def Scope.candidate? (s : Scope) (name : String) : DeclarationKind → Option Fqsen
  | .classLike => some { path := segments s.space, element := .classLike name }
  | .function => some { path := segments s.space, element := .function (lowercase name) }
  | .method => s.class?.map (·.member name)

namespace Registry

/-- Whether an identity is taken for declarations of a kind. -/
def taken (r : Registry) : DeclarationKind → Fqsen → Bool
  | .classLike => r.hasClass
  | .function | .method => r.hasFunction

/-- An identity under which no declaration of a kind is refused as a duplicate. -/
def Admits (r : Registry) (k : Fqsen) : DeclarationKind → Prop
  | .classLike => ∀ c : ClassLike, c.fqsen = k → ∃ r', r.addClass c = .ok r'
  | .function | .method => ∀ f : FunctionLike, f.fqsen = k →
      r.addFunction f ≠ .error (.duplicateFunction k)

variable {r : Registry} {k : Fqsen}

/-- What is not taken is admitted. -/
theorem admits_of_free {kind : DeclarationKind} (h : r.taken kind k = false) : r.Admits k kind := by
  have hfunction (hfree : r.hasFunction k = false) (f : FunctionLike) (hf : f.fqsen = k) :
      r.addFunction f ≠ .error (.duplicateFunction k) := by
    intro herror
    obtain ⟨htaken, -⟩ | ⟨-, owner, -, -, hother⟩ := addFunction_eq_error_iff.mp herror
    · rw [hf, hfree] at htaken
      cases htaken
    · cases hother
  cases kind with
  | classLike =>
      rintro c rfl
      cases hadd : r.addClass c with
      | ok r' => exact ⟨r', rfl⟩
      | error e =>
          have htaken := (addClass_eq_error_iff.mp hadd).1
          exact absurd (h.symm.trans htaken) Bool.false_ne_true
  | function => exact hfunction h
  | method => exact hfunction h

end Registry

namespace Scope

variable {s : Scope} {r : Registry} {name : String} {kind : DeclarationKind} {start k : Fqsen}

lemma alternate_of_candidate? (h : s.candidate? name kind = some start) : start.alternate = 0 := by
  cases kind with
  | classLike => obtain rfl := Option.some.inj h; rfl
  | function => obtain rfl := Option.some.inj h; rfl
  | method =>
      obtain ⟨owner, -, rfl⟩ := Option.map_eq_some_iff.mp h
      rfl

/-- A declaration is given the least identity of its name that is free. -/
lemma exists_newIdentity (r : Registry) (h : s.candidate? name kind = some start) :
    ∃ k, s.newIdentity r name kind = .ok k ∧ k.primary = start.primary ∧
      IsLeastFree (r.taken kind) k := by
  cases kind with
  | classLike =>
      obtain rfl := Option.some.inj h
      exact ⟨_, rfl, rfl, r.freeClass_isLeastFree _⟩
  | function =>
      obtain rfl := Option.some.inj h
      exact ⟨_, rfl, rfl, r.freeFunction_isLeastFree _⟩
  | method =>
      obtain ⟨owner, howner, rfl⟩ := Option.map_eq_some_iff.mp h
      refine ⟨r.freeFunction (owner.member name), ?_, rfl, r.freeFunction_isLeastFree _⟩
      rw [newIdentity, howner]

/-- Only a method without a class is given none. -/
lemma newIdentity_eq_error_iff {e : Issue} :
    s.newIdentity r name kind = .error e ↔
      kind = .method ∧ s.class? = none ∧ e = .methodOutsideClass name := by
  cases kind with
  | classLike => simp [newIdentity]
  | function => simp [newIdentity]
  | method =>
      rw [newIdentity]
      cases s.class? with
      | none => simp [eq_comm]
      | some owner => simp

/-- An identity that is given to a declaration as the one that is found from where the search
begins. -/
structure Finds (s : Scope) (r : Registry) (name : String) (kind : DeclarationKind)
    (start k : Fqsen) : Prop where
  given : s.newIdentity r name kind = .ok k
  /-- The search ends there, and nowhere else. -/
  probes_iff : ∀ found, Probes (r.taken kind) start found ↔ found = k
  /-- It is the candidate but for its alternate id, which is the least that is free. -/
  eq_withAlternate : k = start.withAlternate k.alternate
  alternate_lt : k.alternate < alternateIds
  least : IsLeastFree (r.taken kind) k
  /-- A declaration under it is no duplicate. -/
  admits : r.Admits k kind

/-- The identities of new declarations are searched for. -/
structure SearchesIdentity (s : Scope) (r : Registry) (name : String) (kind : DeclarationKind) :
    Prop where
  /-- One is found if there is any alternate id left. -/
  finds : ∀ start, s.candidate? name kind = some start →
    (∃ i < alternateIds, r.taken kind (start.withAlternate i) = false) →
      ∃ k, s.Finds r name kind start k
  /-- The search cannot begin for a method without a class, and that is the only failure. -/
  error_iff : ∀ e, s.newIdentity r name kind = .error e ↔
    kind = .method ∧ s.class? = none ∧ e = .methodOutsideClass name

/-- **The identity of a new declaration is what the search finds**, whatever is registered. -/
theorem searchesIdentity (s : Scope) (r : Registry) (name : String) (kind : DeclarationKind) :
    s.SearchesIdentity r name kind where
  finds start hstart := by
    rintro ⟨i, hi, hfree⟩
    have hzero := alternate_of_candidate? hstart
    obtain ⟨k, hgiven, hname, hleast⟩ := exists_newIdentity r hstart
    have hk : k = start.withAlternate k.alternate := Fqsen.eq_withAlternate_of_primary hname
    have hlt : k.alternate < alternateIds := by
      refine Nat.lt_of_le_of_lt (hleast.alternate_le ?_) hi
      rwa [hk, Fqsen.withAlternate_withAlternate]
    have hprobes : Probes (r.taken kind) start k :=
      .of_isLeastFree_of_primary hleast hlt hzero hname.symm
    refine ⟨k, hgiven, fun found => ⟨fun h => h.unique hprobes, ?_⟩, hk, hlt, hleast, ?_⟩
    · rintro rfl
      exact hprobes
    · exact Registry.admits_of_free hleast.free
  error_iff _ := newIdentity_eq_error_iff

end Scope

end PhpIndex
