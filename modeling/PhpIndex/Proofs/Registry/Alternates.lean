import Mathlib.Data.List.Nodup
import PhpIndex.Registry.Basic

/-!
The alternate ids that tell apart the declarations of one name.

* `IsLeastFree`: an identity that is free while all alternates before it are taken;
  `Registry.freeClass_isLeastFree`, `Registry.freeFunction_isLeastFree`: the identities that a
  registry gives out are of this kind. They exist because a map has fewer entries than the number
  of alternates tried (`exists_contains_eq_false`);
* `family`, `Numbered`: the identities of one name in a row of identities, and the rows in which
  each family has the alternates `0, 1, …` in this order;
* `Numbered.append`: a row stays so when the identity that comes next is the least free one;
* `Registry.map_alternatesOf`: a registry that holds the identities of such a row gives the
  classes of a family in the order of the row.
-/

namespace PhpIndex

/-! ### Identities that are free -/

/-- A map has at least as many entries as it holds keys of a row that never repeats. -/
lemma le_size_of_injective {κ α : Type} [Ord κ] [Std.TransOrd κ] [Std.LawfulEqOrd κ]
    {t : Std.ExtTreeMap κ α} {f : Nat → κ} (hf : Function.Injective f) {n : Nat}
    (h : ∀ i < n, f i ∈ t) : n ≤ t.size := by
  have hsub : (List.range n).map f ⊆ t.keys := by
    intro k hk
    obtain ⟨i, hi, rfl⟩ := List.mem_map.mp hk
    exact Std.ExtTreeMap.mem_keys.mpr (h i (List.mem_range.mp hi))
  have hle := (List.nodup_range.map hf).length_le_of_subset hsub
  rwa [List.length_map, List.length_range, Std.ExtTreeMap.length_keys] at hle

/-- Of more keys than a map has entries one is not in it. -/
lemma exists_contains_eq_false {κ α : Type} [Ord κ] [Std.TransOrd κ] [Std.LawfulEqOrd κ]
    (t : Std.ExtTreeMap κ α) {f : Nat → κ} (hf : Function.Injective f) :
    ∃ i ≤ t.size, t.contains (f i) = false := by
  by_contra hall
  simp only [not_exists, not_and, Bool.not_eq_false, Std.ExtTreeMap.contains_iff_mem] at hall
  have := le_size_of_injective hf fun i (hi : i < t.size + 1) => hall i (Nat.le_of_lt_succ hi)
  omega

namespace Fqsen

lemma withAlternate_alternate (k : Fqsen) : k.withAlternate k.alternate = k := rfl

/-- Identities of one name differ in their alternates alone. -/
lemma eq_withAlternate_of_primary {k l : Fqsen} (h : k.primary = l.primary) :
    k = l.withAlternate k.alternate := by
  have := congrArg (·.withAlternate k.alternate) h
  simpa [primary, withAlternate_alternate] using this

end Fqsen

/-- An identity that is free while all alternates of its name before it are taken. -/
structure IsLeastFree (taken : Fqsen → Bool) (k : Fqsen) : Prop where
  free : taken k = false
  before_taken : ∀ i < k.alternate, taken (k.withAlternate i) = true

/-- Where any alternate is free the least one comes no later. -/
lemma IsLeastFree.alternate_le {taken : Fqsen → Bool} {k : Fqsen} (h : IsLeastFree taken k)
    {i : Nat} (hfree : taken (k.withAlternate i) = false) : k.alternate ≤ i := by
  by_contra hlt
  rw [h.before_taken i (by omega)] at hfree
  cases hfree

/-- Where the same alternates of a name are taken the same one is the first to be free. -/
lemma IsLeastFree.eq_of_primary {taken taken' : Fqsen → Bool} {k l : Fqsen}
    (h : IsLeastFree taken k) (h' : IsLeastFree taken' l) (hname : k.primary = l.primary)
    (hsame : ∀ i, taken (k.withAlternate i) = taken' (k.withAlternate i)) : k = l := by
  have hk := Fqsen.eq_withAlternate_of_primary hname
  have hl := Fqsen.eq_withAlternate_of_primary hname.symm
  have hle : k.alternate ≤ l.alternate := h.alternate_le <| by
    rw [hsame, ← hl]
    exact h'.free
  have hge : l.alternate ≤ k.alternate := h'.alternate_le <| by
    rw [← hk]
    exact (hsame k.alternate).symm.trans h.free
  rw [hk, Nat.le_antisymm hle hge, l.withAlternate_alternate]

namespace Registry

/-- Where a free alternate is among those that are tried, the one that is chosen is the least. -/
lemma leastFree_spec {taken : Fqsen → Bool} {bound : Nat} {name : Fqsen}
    (h : ∃ i ≤ bound, taken (name.withAlternate i) = false) :
    IsLeastFree taken (leastFree taken bound name) := by
  obtain ⟨i, hi, hfree⟩ := h
  cases hfind : (List.range (bound + 1)).find? fun i => ! taken (name.withAlternate i) with
  | none =>
      have hall := List.find?_range_eq_none.mp hfind i (by omega)
      simp [hfree] at hall
  | some n =>
      obtain ⟨hn, -, hlt⟩ := List.find?_range_eq_some.mp hfind
      rw [leastFree, hfind]
      exact ⟨by simpa using hn, fun j hj => by simpa using hlt j hj⟩

variable (r : Registry) (name : Fqsen)

/-- The identity for a class is the first alternate under which no class is registered. -/
theorem freeClass_isLeastFree : IsLeastFree r.hasClass (r.freeClass name) := by
  exact leastFree_spec (exists_contains_eq_false r.classes fun _ _ => name.withAlternate_injective)

/-- The identity for a function or method is the first alternate under which none is
registered. -/
theorem freeFunction_isLeastFree : IsLeastFree r.hasFunction (r.freeFunction name) := by
  exact leastFree_spec
    (exists_contains_eq_false r.functions fun _ _ => name.withAlternate_injective)

end Registry

/-! ### Rows of identities -/

/-- The identities of a name in a row of identities, in order. -/
def family (row : List Fqsen) (name : Fqsen) : List Fqsen :=
  row.filter (·.primary = name.primary)

/-- A row of identities in which those of each name have the alternates from zero on, in order. -/
def Numbered (row : List Fqsen) : Prop :=
  ∀ name, (family row name).map Fqsen.alternate = List.range (family row name).length

lemma numbered_nil : Numbered [] := fun _ => rfl

lemma mem_family {row : List Fqsen} {name k : Fqsen} :
    k ∈ family row name ↔ k ∈ row ∧ k.primary = name.primary := by
  simp [family]

namespace Numbered

variable {row : List Fqsen}

/-- The alternates in a row are those below the number of identities of the name. -/
lemma withAlternate_mem_iff (h : Numbered row) {name : Fqsen} {i : Nat} :
    name.withAlternate i ∈ row ↔ i < (family row name).length := by
  rw [← List.mem_range, ← h name, List.mem_map]
  constructor
  · exact fun hi => ⟨_, mem_family.mpr ⟨hi, rfl⟩, rfl⟩
  · rintro ⟨k, hk, rfl⟩
    obtain ⟨hk, hprimary⟩ := mem_family.mp hk
    rwa [← Fqsen.eq_withAlternate_of_primary hprimary]

/-- The identities of a name in a row, written as its alternates. -/
lemma family_eq (h : Numbered row) (name : Fqsen) :
    family row name = (List.range (family row name).length).map name.withAlternate := by
  conv_rhs => rw [← h name, List.map_map]
  refine (List.map_id _).symm.trans (List.map_congr_left fun k hk => ?_)
  exact Fqsen.eq_withAlternate_of_primary (mem_family.mp hk).2

/-- No identity is twice in the row. -/
lemma nodup (h : Numbered row) : row.Nodup := by
  refine List.nodup_iff_count_le_one.mpr fun k => ?_
  have hfamily : (family row k).Nodup := by
    refine List.Nodup.of_map Fqsen.alternate ?_
    rw [h k]
    exact List.nodup_range
  have hcount : (family row k).count k = row.count k := List.count_filter (by simp)
  exact hcount ▸ List.nodup_iff_count_le_one.mp hfamily k

/-- The least free identity goes on with the numbers of its name. -/
lemma append (h : Numbered row) {taken : Fqsen → Bool} (htaken : ∀ k, taken k = true ↔ k ∈ row)
    {k : Fqsen} (hk : IsLeastFree taken k) : Numbered (row ++ [k]) := by
  have hfree : k.withAlternate k.alternate ∉ row := by
    rw [Fqsen.withAlternate_alternate, ← htaken, hk.free]
    exact Bool.false_ne_true
  rw [h.withAlternate_mem_iff] at hfree
  have hnext : k.alternate = (family row k).length := by
    by_contra hne
    have hlt : (family row k).length < k.alternate := by omega
    have hmem := (htaken _).mp (hk.before_taken _ hlt)
    exact absurd (h.withAlternate_mem_iff.mp hmem) (Nat.lt_irrefl _)
  intro name
  by_cases hname : k.primary = name.primary
  · have hsame : family row k = family row name := by rw [family, family, hname]
    have hrow : family (row ++ [k]) name = family row name ++ [k] := by
      simp [family, List.filter_append, hname]
    rw [hrow, List.map_append, h name, List.length_append, List.length_singleton,
      List.range_succ, List.map_singleton, hnext, hsame]
  · have hrow : family (row ++ [k]) name = family row name := by
      simp [family, List.filter_append, hname]
    rw [hrow]
    exact h name

end Numbered

/-! ### The classes of a name -/

/-- Of the first numbers those are taken that come before the first one to fail a test. -/
lemma takeWhile_map_range {α : Type} {p : α → Bool} {f : Nat → α} {m n : Nat} (hle : n ≤ m)
    (h : ∀ i, p (f i) = true ↔ i < n) :
    ((List.range m).map f).takeWhile p = (List.range n).map f := by
  obtain ⟨k, rfl⟩ := Nat.exists_eq_add_of_le hle
  have hstop : (((List.range k).map (n + ·)).map f).takeWhile p = [] := by
    cases k with
    | zero => rfl
    | succ k =>
        have hn : p (f n) = false := by
          rw [← Bool.not_eq_true, h]
          exact Nat.lt_irrefl n
        simp [List.range_succ_eq_map, hn]
  rw [List.range_add, List.map_append, List.takeWhile_append_of_pos, hstop, List.append_nil]
  intro a ha
  obtain ⟨i, hi, rfl⟩ := List.mem_map.mp ha
  exact (h i).mpr (List.mem_range.mp hi)

namespace Registry

/-- If the classes of a registry have the identities of a row, those of a name are found in the
order of the row, whichever alternate of the name is asked for. -/
theorem map_alternatesOf {r : Registry} {row : List Fqsen} (h : Numbered row)
    (hrow : ∀ k, r.hasClass k = true ↔ k ∈ row) (name : Fqsen) :
    (r.alternatesOf name).map some = (family row name).map r.class? := by
  have hlookup (i : Nat) :
      (r.class? (name.withAlternate i)).isSome = true ↔ i < (family row name).length := by
    rw [← h.withAlternate_mem_iff, ← hrow, hasClass_iff, Option.isSome_iff_exists]
  -- the family is no larger than the registry, so the search sees all of it
  have hle : (family row name).length ≤ r.classCount := by
    refine le_size_of_injective (fun _ _ => name.withAlternate_injective) fun i hi => ?_
    rw [← Std.ExtTreeMap.contains_iff_mem]
    exact (hrow _).mpr (h.withAlternate_mem_iff.mpr hi)
  rw [alternatesOf, takeWhile_map_range hle hlookup, List.filterMap_map, List.map_filterMap]
  conv_rhs => rw [h.family_eq, List.map_map, ← List.filterMap_eq_map]
  refine List.filterMap_congr fun i hi => ?_
  obtain ⟨c, hc⟩ := Option.isSome_iff_exists.mp ((hlookup i).mpr (List.mem_range.mp hi))
  simp [hc]

end Registry

end PhpIndex
