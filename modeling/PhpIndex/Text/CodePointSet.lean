/-!
Sets of characters given by tables of code point ranges.

* `CodePointSet`: closed ranges of code points, from the lowest up;
* `CodePointSet.contains`: membership, which stops at the first range above the character;
* `CodePointSet.contains_eq_true_iff`: on an ordered table a character is a member exactly
  when some range covers it.
-/

namespace PhpIndex.Text

/-- A set of characters, written as closed ranges of code points from the lowest up. -/
structure CodePointSet where
  ranges : List (Nat × Nat)

namespace CodePointSet

/-- Whether one of the ranges covers the code point, where the ranges are in increasing
order: a range that begins above the code point ends the search. -/
def covers : List (Nat × Nat) → Nat → Bool
  | [], _ => false
  | (lo, hi) :: rest, n => if n < lo then false else n ≤ hi || covers rest n

/-- Whether the character is in the set. -/
def contains (s : CodePointSet) (c : Char) : Bool := covers s.ranges c.toNat

/-- The ranges follow one another without overlap. -/
def Ordered : List (Nat × Nat) → Prop
  | [] => True
  | (lo, hi) :: rest => lo ≤ hi ∧ (∀ r ∈ rest, hi < r.1) ∧ Ordered rest

/-- What the search finds is in a range, however the table is ordered. -/
theorem exists_of_covers {rs : List (Nat × Nat)} {n : Nat} (h : covers rs n = true) :
    ∃ r ∈ rs, r.1 ≤ n ∧ n ≤ r.2 := by
  induction rs with
  | nil => cases h
  | cons r rest ih =>
      obtain ⟨lo, hi⟩ := r
      rw [covers] at h
      split at h
      · cases h
      next hlo =>
        rcases Bool.or_eq_true_iff.mp h with hhi | hrest
        · exact ⟨(lo, hi), List.mem_cons_self, Nat.le_of_not_lt hlo, of_decide_eq_true hhi⟩
        · obtain ⟨r, hr, hr'⟩ := ih hrest
          exact ⟨r, List.mem_cons_of_mem _ hr, hr'⟩

/-- The early end of the search loses nothing on an ordered table. -/
theorem covers_eq_true_iff {rs : List (Nat × Nat)} (h : Ordered rs) (n : Nat) :
    covers rs n = true ↔ ∃ r ∈ rs, r.1 ≤ n ∧ n ≤ r.2 := by
  refine ⟨exists_of_covers, ?_⟩
  rintro ⟨r, hr, hlow, hhigh⟩
  induction rs with
  | nil => cases hr
  | cons first rest ih =>
      obtain ⟨lo, hi⟩ := first
      obtain ⟨hle, hlt, hrest⟩ := h
      rw [covers]
      rcases List.mem_cons.mp hr with rfl | hr'
      · rw [if_neg (Nat.not_lt.mpr hlow), decide_eq_true hhigh, Bool.true_or]
      · have hbelow := hlt r hr'
        rw [if_neg (by omega), ih hrest hr', Bool.or_true]

theorem exists_of_contains {s : CodePointSet} {c : Char} (h : s.contains c = true) :
    ∃ r ∈ s.ranges, r.1 ≤ c.toNat ∧ c.toNat ≤ r.2 :=
  exists_of_covers h

theorem contains_eq_true_iff {s : CodePointSet} (h : Ordered s.ranges) (c : Char) :
    s.contains c = true ↔ ∃ r ∈ s.ranges, r.1 ≤ c.toNat ∧ c.toNat ≤ r.2 :=
  covers_eq_true_iff h c.toNat

end CodePointSet

end PhpIndex.Text
