import PhpIndex.Flags
import PhpIndex.Location
import PhpIndex.UnionType

/-!
Properties and constants of classes.

* `Property`: a property with the type of its default value and the one its doc comment
  declares;
* `Property.effective`: the type that counts, which is the declared one if there is one;
* `ClassConstant`: a constant with the type of its value;
* `replaceOrAppend`: a list with an entry put in the place of the one of the same key, or at the
  end, with `keys_replaceOrAppend` saying which keys it has.
-/

namespace PhpIndex

/-- A property of a class. -/
structure Property where
  name : String
  /-- The type of the default value. -/
  inferred : UnionType
  /-- The type that a doc comment gives. -/
  declared : Option UnionType := none
  modifiers : Modifiers
  location : Location
deriving DecidableEq

/-- The type that counts: the declared one if there is one. -/
def Property.effective (p : Property) : UnionType := p.declared.getD p.inferred

/-- A constant of a class. -/
structure ClassConstant where
  name : String
  type : UnionType
  modifiers : Modifiers
  location : Location
deriving DecidableEq

/-! ### Lists with one entry for each key -/

/-- The list with the entry in the place of the first one of the same key, or at the end if
there is none. -/
def replaceOrAppend {α κ : Type} [DecidableEq κ] (key : α → κ) (a : α) : List α → List α
  | [] => [a]
  | b :: rest => if key b = key a then a :: rest else b :: replaceOrAppend key a rest

/-- A key that is there already keeps its place; a new one comes last. -/
theorem keys_replaceOrAppend {α κ : Type} [DecidableEq κ] (key : α → κ) (a : α) (l : List α) :
    (replaceOrAppend key a l).map key =
      if key a ∈ l.map key then l.map key else l.map key ++ [key a] := by
  induction l with
  | nil => simp [replaceOrAppend]
  | cons b rest ih =>
      rw [replaceOrAppend]
      by_cases h : key b = key a
      · simp [h]
      · simp only [h, if_false, List.map_cons, ih, List.mem_cons, eq_comm (a := key a) (b := key b),
          false_or]
        split <;> simp

end PhpIndex
