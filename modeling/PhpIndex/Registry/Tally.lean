/-!
Counts of the declarations that have been seen.

* `Tally`: a count for each kind of declaration;
* `Counted`, `Tally.add`: the kinds that are counted, and the count of one more;
* `Tally.total`: the count of all kinds but branches;
* `Tally.text`: the written form;
* `Tally.of_add`: one more of a kind adds one to the count of that kind and to no other.
-/

namespace PhpIndex

/-- The kinds of declarations that are counted. -/
inductive Counted where
  | classes
  | methods
  | functions
  | closures
  | traits
  | conditionals
deriving DecidableEq

/-- Counts of what has been seen, a declaration counting each time it is seen. -/
structure Tally where
  classes : Nat := 0
  methods : Nat := 0
  functions : Nat := 0
  closures : Nat := 0
  traits : Nat := 0
  conditionals : Nat := 0
deriving DecidableEq

namespace Tally

/-- The count of a kind. -/
def of (t : Tally) : Counted → Nat
  | .classes => t.classes
  | .methods => t.methods
  | .functions => t.functions
  | .closures => t.closures
  | .traits => t.traits
  | .conditionals => t.conditionals

/-- The counts with one more of a kind. -/
def add (t : Tally) : Counted → Tally
  | .classes => { t with classes := t.classes + 1 }
  | .methods => { t with methods := t.methods + 1 }
  | .functions => { t with functions := t.functions + 1 }
  | .closures => { t with closures := t.closures + 1 }
  | .traits => { t with traits := t.traits + 1 }
  | .conditionals => { t with conditionals := t.conditionals + 1 }

/-- The count of all declarations; a branch is none. -/
def total (t : Tally) : Nat := t.classes + t.methods + t.functions + t.closures + t.traits

/-- The written form. -/
def text (t : Tally) : String :=
  "classes=" ++ toString t.classes ++ " methods=" ++ toString t.methods ++
    " functions=" ++ toString t.functions ++ " closures=" ++ toString t.closures ++
    " traits=" ++ toString t.traits ++ " conditionals=" ++ toString t.conditionals

/-- One more of a kind adds one to the count of that kind and to no other. -/
theorem of_add (t : Tally) (k l : Counted) :
    (t.add k).of l = t.of l + if k = l then 1 else 0 := by
  cases k <;> cases l <;> simp [add, of]

end Tally

end PhpIndex
