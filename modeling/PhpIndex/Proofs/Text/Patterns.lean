import Mathlib.Tactic.Common
import PhpIndex.Text.Leading
import PhpIndex.Text.WordChar

/-!
Patterns of texts.

A pattern can match a text in several ways: a row of characters may be cut short, and a part that
may be missing may be left out. Of these ways the first counts; long rows are tried before short
ones, and parts are left out last.

* `Pattern`, `Pattern.run`: patterns and the ways in which they match at the start of a text;
* `Pattern.taken_append_rest`: a match and what it leaves over make up the text;
* `Pattern.findAll`: the matches in a text, from the left and without overlaps;
* `Pattern.Rejects`: what a pattern cannot begin with;
* `Pattern.read?_many_seq`, `Pattern.read?_group_many_seq_opt`, `Pattern.read?_opt_word_seq`: where
  the first way to match a part is the only one that can be continued, so that nothing has to be
  tried again.
-/

namespace PhpIndex.Text

/-! ### Patterns -/

/-- A pattern for the start of a text. -/
inductive Pattern where
  | word (word : List Char)
  /-- A row of characters of a class, as long as possible but not empty. -/
  | many (p : Char → Bool)
  | seq (first second : Pattern)
  /-- A part that is left out only if it has to be. -/
  | opt (part : Pattern)
  /-- A part that is remembered under a number. -/
  | group (i : Nat) (part : Pattern)
  /-- The place between a word character and one that is none, or an end of the text. -/
  | boundary

/-- A way in which a pattern matches at the start of a text. -/
structure Match where
  taken : List Char
  /-- The parts that are remembered. -/
  groups : List (Nat × List Char) := []
  rest : List Char

namespace Match

/-- A match and one of what it leaves over as one match. -/
def followedBy (m m' : Match) : Match where
  taken := m.taken ++ m'.taken
  groups := m.groups ++ m'.groups
  rest := m'.rest

/-- What can be seen of a match: the parts that it remembers and what it leaves over. -/
def found (m : Match) : List (Nat × List Char) × List Char := (m.groups, m.rest)

/-- The last character before what a match leaves over. -/
def last? (m : Match) (before : Option Char) : Option Char := m.taken.getLast?.or before

/-- Nothing can be seen of a match that remembers nothing if another follows it. -/
lemma found_comp_followedBy {m : Match} (h : m.groups = []) :
    found ∘ m.followedBy = found := by
  funext m'
  simp only [Function.comp_apply, found, followedBy, h, List.nil_append]

/-- A match of nothing. -/
def nothing (cs : List Char) : Match where
  taken := []
  rest := cs

end Match

/-- The rows of characters of a class at the start of a text, long ones first. -/
def rows (p : Char → Bool) : List Char → List Match
  | [] => []
  | c :: cs =>
      let single : Match := { taken := [c], rest := cs }
      if p c then (rows p cs).map single.followedBy ++ [single] else []

namespace Pattern

/-- The ways in which a pattern matches at the start of a text, in the order in which they are
tried. What stands before the text matters for the boundary of a word. -/
def run : Pattern → Option Char → List Char → List Match
  | .word w, _, cs => ((afterWord? w cs).map fun rest => { taken := w, rest := rest }).toList
  | .many p, _, cs => rows p cs
  | .seq a b, before, cs =>
      (a.run before cs).flatMap fun m => (b.run (m.last? before) m.rest).map m.followedBy
  | .opt a, before, cs => a.run before cs ++ [.nothing cs]
  | .group i a, before, cs =>
      (a.run before cs).map fun m => { m with groups := (i, m.taken) :: m.groups }
  | .boundary, before, cs =>
      if before.any isWordChar = cs.head?.any isWordChar then [] else [.nothing cs]

/-- The way in which a pattern is taken to match. -/
def read? (a : Pattern) (before : Option Char) (cs : List Char) : Option Match :=
  (a.run before cs).head?

end Pattern

/-- A row and what it leaves over make up the text. -/
lemma taken_append_rest_of_mem_rows {p : Char → Bool} {cs : List Char} {m : Match}
    (h : m ∈ rows p cs) : m.taken ++ m.rest = cs := by
  induction cs generalizing m with
  | nil => cases h
  | cons c cs ih =>
      rw [rows] at h
      split at h
      · obtain hlong | hsingle := List.mem_append.mp h
        · obtain ⟨row, hrow, rfl⟩ := List.mem_map.mp hlong
          exact congrArg (c :: ·) (ih hrow)
        · obtain rfl := List.mem_singleton.mp hsingle
          rfl
      · cases h

namespace Pattern

/-- **A match and what it leaves over make up the text.** -/
theorem taken_append_rest {a : Pattern} {before : Option Char} {cs : List Char} {m : Match}
    (h : m ∈ a.run before cs) : m.taken ++ m.rest = cs := by
  induction a generalizing before cs m with
  | word w =>
      obtain ⟨rest, hrest, rfl⟩ := Option.map_eq_some_iff.mp (Option.mem_toList.mp h)
      exact (afterWord?_eq_some_iff.mp hrest).symm
  | many p => exact taken_append_rest_of_mem_rows h
  | seq a b iha ihb =>
      obtain ⟨first, hfirst, h⟩ := List.mem_flatMap.mp h
      obtain ⟨second, hsecond, rfl⟩ := List.mem_map.mp h
      rw [Match.followedBy, List.append_assoc, ihb hsecond, iha hfirst]
  | opt a ih =>
      obtain hpart | hnothing := List.mem_append.mp h
      · exact ih hpart
      · obtain rfl := List.mem_singleton.mp hnothing
        rfl
  | group i a ih =>
      obtain ⟨part, hpart, rfl⟩ := List.mem_map.mp h
      exact ih (m := part) hpart
  | boundary =>
      rw [run] at h
      split at h
      · cases h
      · obtain rfl := List.mem_singleton.mp h
        rfl

/-! ### All matches in a text -/

/-- Whether a pattern does not match nothing. -/
def Consumes (a : Pattern) : Prop :=
  ∀ (before : Option Char) (cs : List Char), ∀ m ∈ a.run before cs, m.rest.length < cs.length

/-- A pattern that begins with a word does not. -/
lemma consumes_word_seq {w : List Char} (hw : w ≠ []) (b : Pattern) :
    ((Pattern.word w).seq b).Consumes := by
  intro before cs m hm
  obtain ⟨first, hfirst, hm⟩ := List.mem_flatMap.mp hm
  obtain ⟨rest, hrest, rfl⟩ := Option.map_eq_some_iff.mp (Option.mem_toList.mp hfirst)
  obtain ⟨second, hsecond, rfl⟩ := List.mem_map.mp hm
  have hcs := congrArg List.length (afterWord?_eq_some_iff.mp hrest)
  have hlength := congrArg List.length (taken_append_rest hsecond)
  have hword := List.length_pos_iff.mpr hw
  simp only [Match.followedBy, List.length_append] at hcs hlength ⊢
  omega

/-- The matches in a text, from the left. After a match the search goes on behind it, otherwise at
the next character. -/
def findAll (a : Pattern) (ha : a.Consumes) (before : Option Char) (cs : List Char) :
    List Match :=
  match _h : a.read? before cs with
  | some m => m :: findAll a ha (m.last? before) m.rest
  | none =>
      match cs with
      | [] => []
      | c :: rest => findAll a ha (some c) rest
termination_by cs.length
decreasing_by
  · exact ha before cs m (List.mem_of_head? _h)
  · simp

section

variable {a : Pattern} {ha : a.Consumes} {before : Option Char} {cs : List Char}

lemma findAll_of_some {m : Match} (h : a.read? before cs = some m) :
    a.findAll ha before cs = m :: a.findAll ha (m.last? before) m.rest := by
  rw [findAll]
  split <;> simp_all

lemma findAll_of_none {c : Char} (h : a.read? before (c :: cs) = none) :
    a.findAll ha before (c :: cs) = a.findAll ha (some c) cs := by
  rw [findAll]
  split <;> simp_all

/-- In no text there is no match. -/
lemma read?_nil (ha : a.Consumes) (before : Option Char) : a.read? before [] = none := by
  cases h : a.read? before [] with
  | none => rfl
  | some m => exact absurd (ha before [] m (List.mem_of_head? h)) (Nat.not_lt_zero _)

lemma findAll_nil : a.findAll ha before [] = [] := by
  have hnone := read?_nil ha before
  rw [findAll]
  split <;> simp_all

/-- The first match in a text is one at its start, or else the first in the rest. -/
lemma head?_findAll_cons (c : Char) : (a.findAll ha before (c :: cs)).head? =
    (a.read? before (c :: cs)).or (a.findAll ha (some c) cs).head? := by
  cases hread : a.read? before (c :: cs) with
  | none => rw [findAll_of_none hread, Option.none_or]
  | some m => rw [findAll_of_some hread, List.head?_cons, Option.some_or]

end

end Pattern

/-! ### Ways that cannot be continued -/

/-- The longest row of characters of a class at the start of a text. -/
def longest? (p : Char → Bool) (cs : List Char) : Option Match :=
  match cs.takeWhile p with
  | [] => none
  | c :: row => some { taken := c :: row, rest := cs.dropWhile p }

/-- The longest row is tried first. -/
lemma head?_rows (p : Char → Bool) (cs : List Char) : (rows p cs).head? = longest? p cs := by
  induction cs with
  | nil => rfl
  | cons c cs ih =>
      rw [rows, longest?, List.takeWhile_cons, List.dropWhile_cons]
      cases hc : p c with
      | false => rfl
      | true =>
          simp only [if_true, List.head?_append, List.head?_map, ih, longest?]
          cases htake : cs.takeWhile p with
          | nil =>
              have hdrop : cs.dropWhile p = cs := by
                have h := List.takeWhile_append_dropWhile (p := p) (l := cs)
                rwa [htake, List.nil_append] at h
              rw [hdrop]
              rfl
          | cons d row => rfl

/-- A row remembers nothing. -/
lemma groups_of_longest? {p : Char → Bool} {cs : List Char} {m : Match}
    (h : longest? p cs = some m) : m.groups = [] := by
  rw [longest?] at h
  split at h <;> cases h
  rfl

/-- Behind a row that has been cut short there is a character of its class. -/
lemma rest_of_mem_tail_rows {p : Char → Bool} {cs : List Char} {m : Match}
    (h : m ∈ (rows p cs).tail) : ∃ c rest, m.rest = c :: rest ∧ p c = true := by
  induction cs generalizing m with
  | nil => cases h
  | cons c cs ih =>
      rw [rows] at h
      split at h
      · cases cs with
        | nil => cases h
        | cons d cs =>
            cases hrows : rows p (d :: cs) with
            | nil =>
                rw [hrows] at h
                cases h
            | cons row shorter =>
                rw [hrows, List.map_cons, List.cons_append, List.tail_cons] at h
                obtain hlong | hsingle := List.mem_append.mp h
                · obtain ⟨row', hrow', rfl⟩ := List.mem_map.mp hlong
                  exact ih (m := row') (hrows ▸ hrow')
                · obtain rfl := List.mem_singleton.mp hsingle
                  refine ⟨d, cs, rfl, ?_⟩
                  by_contra hd
                  rw [rows, if_neg hd] at hrows
                  cases hrows
      · cases h

namespace Pattern

/-- Whether a pattern matches no text that begins with a character. -/
def Rejects (a : Pattern) (c : Char) : Prop :=
  ∀ (before : Option Char) (rest : List Char), a.run before (c :: rest) = []

section

variable {a b : Pattern} {p : Char → Bool} {c : Char} {w : List Char}

lemma Rejects.seq (h : a.Rejects c) : (a.seq b).Rejects c := by
  intro before rest
  rw [run, h, List.flatMap_nil]

lemma Rejects.group {i : Nat} (h : a.Rejects c) : (a.group i).Rejects c := by
  intro before rest
  rw [run, h, List.map_nil]

lemma rejects_many (h : p c = false) : (many p).Rejects c := by
  intro before rest
  rw [run, rows, h]
  rfl

lemma rejects_word (h : w.head? ≠ some c) (hw : w ≠ []) : (Pattern.word w).Rejects c := by
  intro before rest
  cases w with
  | nil => exact absurd rfl hw
  | cons d w =>
      have hd : d ≠ c := fun hd => h (congrArg some hd)
      rw [run, afterWord?, if_neg hd]
      rfl

/-- If a part can be left out, neither it nor what follows it may match. -/
lemma Rejects.opt_seq (ha : a.Rejects c) (hb : b.Rejects c) : (a.opt.seq b).Rejects c := by
  intro before rest
  rw [run, run, ha, List.nil_append, List.flatMap_singleton, Match.nothing, hb, List.map_nil]

variable (before : Option Char) (cs : List Char)

/-- A word can be matched in one way. -/
lemma read?_word_seq : ((Pattern.word w).seq b).read? before cs =
    (afterWord? w cs).bind fun rest =>
      (b.read? (w.getLast?.or before) rest).map
        (Match.followedBy { taken := w, rest := rest }) := by
  rw [read?, run, run]
  cases afterWord? w cs with
  | none => rfl
  | some rest =>
      simp only [Option.map_some, Option.toList_some, List.flatMap_singleton, List.head?_map]
      rfl

/-- A row is not cut short if what follows it cannot begin with a character of its class. -/
theorem read?_many_seq (h : ∀ c, p c = true → b.Rejects c) :
    ((many p).seq b).read? before cs =
      (longest? p cs).bind fun m => (b.read? (m.last? before) m.rest).map m.followedBy := by
  rw [read?, run, run, ← head?_rows]
  cases hrows : rows p cs with
  | nil => rfl
  | cons m shorter =>
      have hshorter : (shorter.flatMap fun m =>
          (b.run (m.last? before) m.rest).map m.followedBy) = [] := by
        refine List.flatMap_eq_nil_iff.mpr fun m' hm' => ?_
        have htail : m' ∈ (rows p cs).tail := by
          rw [hrows]
          exact hm'
        obtain ⟨c, rest, hrest, hc⟩ := rest_of_mem_tail_rows htail
        rw [hrest, h c hc, List.map_nil]
      rw [List.flatMap_cons, hshorter, List.append_nil, List.head?_map]
      rfl

/-- A row that is remembered. -/
lemma read?_group_many (i : Nat) : ((many p).group i).read? before cs =
    (longest? p cs).map fun m => { m with groups := (i, m.taken) :: m.groups } := by
  rw [read?, run, run, List.head?_map, head?_rows]

/-- A part that may be left out is matched if it can be. -/
lemma read?_opt : a.opt.read? before cs = some ((a.read? before cs).getD (.nothing cs)) := by
  rw [read?, read?, run, List.head?_append]
  cases (a.run before cs).head? <;> rfl

/-- Nor is a row cut short if what follows it may be left out. -/
theorem read?_group_many_seq_opt (i : Nat) : (((many p).group i).seq b.opt).read? before cs =
    (((many p).group i).read? before cs).bind fun m =>
      (b.opt.read? (m.last? before) m.rest).map m.followedBy := by
  rw [read?, read?, run]
  cases ((many p).group i).run before cs with
  | nil => rfl
  | cons m shorter =>
      have hopt := b.read?_opt (m.last? before) m.rest
      rw [List.flatMap_cons, List.head?_append, List.head?_map, ← read?, List.head?_cons,
        Option.bind_some, hopt]
      rfl

/-- A word that may be left out is not if the text begins with it and what follows the word cannot
begin as it does. -/
theorem read?_opt_word_seq (h : b.Rejects c) :
    ((Pattern.word (c :: w)).opt.seq b).read? before cs =
      match afterWord? (c :: w) cs with
      | some rest => (b.read? ((c :: w).getLast?.or before) rest).map
          (Match.followedBy { taken := c :: w, rest := rest })
      | none => b.read? before cs := by
  rw [read?, run, run, run]
  cases hword : afterWord? (c :: w) cs with
  | none =>
      simp only [Option.map_none, Option.toList_none, List.nil_append, List.flatMap_singleton]
      exact congrArg List.head? (List.map_id _)
  | some rest =>
      have hnothing : b.run before cs = [] := by
        rw [afterWord?_eq_some_iff.mp hword, List.cons_append, h]
      simp only [Option.map_some, Option.toList_some, List.singleton_append, List.flatMap_cons,
        List.flatMap_nil, List.append_nil]
      rw [show b.run ((Match.nothing cs).last? before) (Match.nothing cs).rest = [] from hnothing,
        List.map_nil, List.append_nil, List.head?_map]
      rfl

end

end Pattern

end PhpIndex.Text
