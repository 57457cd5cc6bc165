/-!
The flag words of names and of `use` declarations.

* `NameKind`: whether a name is written from the root, from the current namespace, or neither;
* `ImportKind`: what a `use` declaration imports;
* `NameKind.ofWord`, `ImportKind.ofWord?`: reading a flag word;
* `NameKind.ofWord_toWord`, `ImportKind.ofWord?_toWord`: a word that was written reads back.
-/

namespace PhpIndex

/-- How a name is written. -/
inductive NameKind where
  /-- From the root, as in `\A\B`; the separator at the start is not part of the stored name. -/
  | fullyQualified
  /-- As in `B` or `A\B`. -/
  | unmarked
  /-- From the current namespace, as in `namespace\B`; the word and its separator are not part of
  the stored name. -/
  | relative
deriving DecidableEq

namespace NameKind

/-- The kind in the flag word of a name; unknown words say nothing of it. -/
def ofWord (word : Nat) : NameKind :=
  if word = 0 then fullyQualified
  else if word = 2 then relative
  else unmarked

/-- The flag word for a kind. -/
def toWord : NameKind → Nat
  | fullyQualified => 0
  | unmarked => 1
  | relative => 2

@[simp] theorem ofWord_toWord (k : NameKind) : ofWord k.toWord = k := by
  cases k <;> rfl

end NameKind

/-- What a `use` declaration imports. -/
inductive ImportKind where
  /-- A class, interface, trait or namespace. -/
  | classLike
  | function
  | constant
deriving DecidableEq

namespace ImportKind

/-- The kind in a flag word. Another word gives no kind, as in an element of a group that takes
the kind of the group. -/
def ofWord? (word : Nat) : Option ImportKind :=
  if word = 1 then some classLike
  else if word = 2 then some function
  else if word = 4 then some constant
  else none

/-- The flag word for a kind. -/
def toWord : ImportKind → Nat
  | classLike => 1
  | function => 2
  | constant => 4

@[simp] theorem ofWord?_toWord (k : ImportKind) : ofWord? k.toWord = some k := by
  cases k <;> rfl

end ImportKind

end PhpIndex
