import Mathlib.Logic.Relation
import PhpIndex.Proofs.UnionType.Names

/-!
Unions of types, and types that are equal up to the case of ASCII letters.

* `UnionType.merge_assoc`, `merge_comm`, `merge_self`, `merge_unknown`, `unknown_merge`: the laws of
  unions; `pairwise_lt_toList`: the names of a type are listed in increasing order;
* `hasName_iff_mem_folded`, `isEquivalentTo_iff_folded_eq`: that a type has a name, and that two
  types are equivalent, is read off their names in lower case;
* `folded_merge`, `isEquivalentTo_merge`: **the names in lower case of a union are those of both
  types**, so that unions of equivalent types are equivalent;
* `isEquivalentTo_iff_hasName`: equivalent types are those that have the names of each other;
* `UnionType.SemilatticeUpToCase`, `UnionType.semilatticeUpToCase`: all of this together.
-/

namespace PhpIndex

open Text

namespace UnionType

variable {u u' v v' : UnionType} {n : String}

/-! ### Unions -/

/-- The names of a type are listed in increasing order, and so none of them twice. -/
lemma pairwise_lt_toList (u : UnionType) : u.toList.Pairwise (· < ·) := by
  have hordered : u.names.toList.Pairwise fun m n => compare m n = .lt :=
    Std.ExtTreeSet.ordered_toList
  exact hordered.imp compareOfLessAndEq_eq_lt.mp

lemma merge_assoc (u v w : UnionType) : (u.merge v).merge w = u.merge (v.merge w) :=
  ext_names fun n => by simp only [mem_names_merge, or_assoc]

lemma merge_comm (u v : UnionType) : u.merge v = v.merge u :=
  ext_names fun n => by rw [mem_names_merge, mem_names_merge, or_comm]

@[simp] lemma merge_self (u : UnionType) : u.merge u = u :=
  ext_names fun n => by rw [mem_names_merge, or_self_iff]

@[simp] lemma merge_unknown (u : UnionType) : u.merge unknown = u :=
  ext_names fun n => by rw [mem_names_merge, or_iff_left notMem_names_unknown]

@[simp] lemma unknown_merge (u : UnionType) : unknown.merge u = u := by
  rw [merge_comm, merge_unknown]

/-! ### Names in lower case -/

/-- The search for a name finds those whose lower case is among the names in lower case. -/
lemma hasName_iff_mem_folded : u.hasName n = true ↔ asciiLower n ∈ u.folded := by
  rw [hasName_iff, mem_folded_iff]

lemma hasName_of_mem (hn : n ∈ u.toList) : u.hasName n = true :=
  hasName_iff.mpr ⟨n, mem_toList.mp hn, rfl⟩

lemma isUnknown_iff_folded_eq_empty : u.isUnknown = true ↔ u.folded = ∅ := by
  rw [isUnknown_iff, Std.ExtTreeSet.eq_empty_iff_forall_not_mem]
  simp only [mem_folded_iff, not_exists, not_and]
  exact ⟨fun h _ m hm _ => h m hm, fun h n hn => h _ n hn rfl⟩

/-- **The names in lower case of a union are those of both types.** -/
theorem folded_merge (u v : UnionType) : (u.merge v).folded = u.folded ∪ v.folded := by
  refine Std.ExtTreeSet.ext_mem fun n => ?_
  rw [Std.ExtTreeSet.mem_union_iff, mem_folded_iff, mem_folded_iff, mem_folded_iff]
  simp only [mem_names_merge, or_and_right, exists_or]

/-! ### Equivalent types -/

lemma isEquivalentTo_iff_folded_eq : u.isEquivalentTo v = true ↔ u.folded = v.folded := by
  rw [isEquivalentTo, decide_eq_true_eq]

lemma equivalence_isEquivalentTo :
    Equivalence fun u v : UnionType => u.isEquivalentTo v = true := by
  simp only [isEquivalentTo_iff_folded_eq]
  exact eq_equivalence.comap folded

lemma isEquivalentTo_merge (hu : u.isEquivalentTo u' = true) (hv : v.isEquivalentTo v' = true) :
    (u.merge v).isEquivalentTo (u'.merge v') = true := by
  rw [isEquivalentTo_iff_folded_eq] at hu hv ⊢
  rw [folded_merge, folded_merge, hu, hv]

/-- The sets of names in lower case need not be compared: it is enough to look for the names of
either type in the other, without regard to case. -/
lemma isEquivalentTo_iff_hasName :
    u.isEquivalentTo v = true ↔
      (∀ n ∈ u.toList, v.hasName n = true) ∧ ∀ n ∈ v.toList, u.hasName n = true := by
  simp only [isEquivalentTo_iff, hasName_iff, mem_toList]
  exact ⟨fun h => ⟨h.left, h.right⟩, fun h => ⟨h.1, h.2⟩⟩

/-- Types are equivalent if they have the same names, whatever the case of these. -/
lemma isEquivalentTo_iff_forall_hasName_eq :
    u.isEquivalentTo v = true ↔ ∀ n, u.hasName n = v.hasName n := by
  constructor
  · intro h n
    rw [Bool.eq_iff_iff, hasName_iff_mem_folded, hasName_iff_mem_folded,
      isEquivalentTo_iff_folded_eq.mp h]
  · intro h
    refine isEquivalentTo_iff_hasName.mpr ⟨fun n hn => ?_, fun n hn => ?_⟩
    · rw [← h n]
      exact hasName_of_mem hn
    · rw [h n]
      exact hasName_of_mem hn

lemma isUnknown_eq_of_isEquivalentTo (h : u.isEquivalentTo v = true) :
    u.isUnknown = v.isUnknown := by
  rw [Bool.eq_iff_iff, isUnknown_iff_folded_eq_empty, isUnknown_iff_folded_eq_empty,
    isEquivalentTo_iff_folded_eq.mp h]

/-- Of equivalent types with stored names both are `null`, which is their one spelling of it, or
neither is. -/
lemma Stored.isNull_eq (hu : u.Stored) (hv : v.Stored) (h : u.isEquivalentTo v = true) :
    u.isNull = v.isNull := by
  rw [Bool.eq_iff_iff, hu.isNull_iff, hv.isNull_iff, isEquivalentTo_iff_folded_eq,
    isEquivalentTo_iff_folded_eq, isEquivalentTo_iff_folded_eq.mp h]

/-- Types are a semilattice under union, and equivalence agrees with it and with all that is asked
of types. -/
structure SemilatticeUpToCase : Prop where
  merge_assoc : ∀ u v w : UnionType, (u.merge v).merge w = u.merge (v.merge w)
  merge_comm : ∀ u v : UnionType, u.merge v = v.merge u
  merge_self : ∀ u : UnionType, u.merge u = u
  merge_unknown : ∀ u : UnionType, u.merge unknown = u
  unknown_merge : ∀ u : UnionType, unknown.merge u = u
  /-- A union has the names of either type and no others. -/
  mem_toList_merge : ∀ (u v : UnionType) (n : String),
    n ∈ (u.merge v).toList ↔ n ∈ u.toList ∨ n ∈ v.toList
  /-- They are in increasing order, and so none of them is there twice. -/
  pairwise_lt_toList_merge : ∀ u v : UnionType, (u.merge v).toList.Pairwise (· < ·)
  /-- Equivalence is an equivalence relation; equal types are equivalent by its first law. -/
  equivalence : Equivalence fun u v : UnionType => u.isEquivalentTo v = true
  /-- Either side of a union may be exchanged for an equivalent type. -/
  merge_equivalent : ∀ u u' v v' : UnionType, u.isEquivalentTo u' = true →
    v.isEquivalentTo v' = true → (u.merge v).isEquivalentTo (u'.merge v') = true
  /-- Equivalent types are those that have the names of each other. -/
  equivalent_iff : ∀ u v : UnionType, u.isEquivalentTo v = true ↔
    (∀ n ∈ u.toList, v.hasName n = true) ∧ ∀ n ∈ v.toList, u.hasName n = true
  /-- They are also those that no search for a name tells apart. -/
  equivalent_iff_hasName_eq : ∀ u v : UnionType,
    u.isEquivalentTo v = true ↔ ∀ n, u.hasName n = v.hasName n
  isUnknown_eq : ∀ u v : UnionType, u.isEquivalentTo v = true → u.isUnknown = v.isUnknown
  /-- Whether they are `null` is the same for types that can be made. -/
  isNull_eq : ∀ u v : UnionType, Built u → Built v → u.isEquivalentTo v = true →
    u.isNull = v.isNull

/-- **Types are a semilattice under union, which equivalence respects.** -/
theorem semilatticeUpToCase : SemilatticeUpToCase where
  merge_assoc := merge_assoc
  merge_comm := merge_comm
  merge_self := merge_self
  merge_unknown := merge_unknown
  unknown_merge := unknown_merge
  mem_toList_merge u v n := by simp only [mem_toList, mem_names_merge]
  pairwise_lt_toList_merge u v := pairwise_lt_toList (u.merge v)
  equivalence := equivalence_isEquivalentTo
  merge_equivalent _ _ _ _ := isEquivalentTo_merge
  equivalent_iff _ _ := isEquivalentTo_iff_hasName
  equivalent_iff_hasName_eq _ _ := isEquivalentTo_iff_forall_hasName_eq
  isUnknown_eq _ _ := isUnknown_eq_of_isEquivalentTo
  isNull_eq _ _ hu hv := hu.stored.isNull_eq hv.stored

-- Equivalent types can have different numbers of names.
example : (ofNames ["Foo", "foo"]).isEquivalentTo (ofName "FOO") = true ∧
    (ofNames ["Foo", "foo"]).toList = ["Foo", "foo"] := by
  decide +kernel

-- A name that is not stored in lower case is equivalent to `null` without being it.
example : (UnionType.mk (.ofList ["NULL"])).isEquivalentTo (ofName "null") = true ∧
    (UnionType.mk (.ofList ["NULL"])).isNull = false := by
  decide +kernel

end UnionType

end PhpIndex
