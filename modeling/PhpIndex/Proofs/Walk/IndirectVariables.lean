import Mathlib.Tactic.Common
import PhpIndex.Compatibility
import PhpIndex.Tree.Build

/-!
Elements of variables that other variables name, as in `$$a['b']`.

* `Node.Leads`: the row of nodes in which each is the first child of the one before;
  `Node.Leads.innermost_eq`: this is the row that is followed to the name;
* `Node.NamedThrough`: variables that name each other, down to one that holds a name;
  `Node.Leads.namedThrough_iff`: they are the rows in which there are only variables;
* `Node.IndirectElement`, `Node.indirectElement`: **an element of such a variable is written with a
  dollar sign for each variable** and the name. Other rows are followed as if they were variables,
  too, and then the form that is written names a variable that is not there:
  `Node.calledName_not_namedThrough`.
-/

namespace PhpIndex

namespace Node

/-! ### Rows of first children -/

/-- The row of nodes that begins with a node and goes on with its first child as long as this is a
node, too. -/
inductive Leads : Node → List Node → Prop
  | last {n : Node} (h : n.childNode? 0 = none) : Leads n [n]
  | on {n m : Node} {row : List Node} (h : n.childNode? 0 = some m) (rest : Leads m row) :
      Leads n (n :: row)

/-- The first child of a node is one of its subtrees. -/
lemma mem_childNodes_of_childNode? {n m : Node} {i : Nat} (h : n.childNode? i = some m) :
    m ∈ n.childNodes := by
  obtain ⟨c, hc, hm⟩ := Option.bind_eq_some_iff.mp h
  exact List.mem_filterMap.mpr ⟨c, List.mem_of_getElem? hc, hm⟩

/-- From every node there is such a row. -/
lemma exists_leads (n : Node) : ∃ row, n.Leads row := by
  induction n using inductionOn with
  | h n ih =>
      cases h : n.childNode? 0 with
      | none => exact ⟨[n], .last h⟩
      | some m =>
          obtain ⟨row, hrow⟩ := ih m (mem_childNodes_of_childNode? h)
          exact ⟨n :: row, .on h hrow⟩

namespace Leads

variable {n : Node} {row : List Node} (h : n.Leads row)

include h

lemma ne_nil : row ≠ [] := by
  cases h <;> exact List.cons_ne_nil _ _

/-- It is the row that is followed to the name. -/
lemma innermost_eq {last : Node} (hlast : row.getLast? = some last) :
    n.innermost = (row.length, last) := by
  induction h with
  | last hnone =>
      obtain rfl := Option.some.inj hlast
      rw [Node.innermost_eq, hnone]
      rfl
  | on hsome rest ih =>
      obtain ⟨x, row, rfl⟩ := List.exists_cons_of_ne_nil rest.ne_nil
      rw [List.getLast?_cons_cons] at hlast
      rw [Node.innermost_eq, hsome]
      simp only [ih hlast]
      rfl

end Leads

/-! ### Variables that name each other -/

/-- A variable that is named through some variables: the last of them holds the name, and each
before it holds the next one. -/
inductive NamedThrough : Node → Nat → String → Prop
  | name {n : Node} {name : String} (hkind : n.kind = .var) (hname : n.childText? 0 = some name) :
      NamedThrough n 1 name
  | through {n m : Node} {count : Nat} {name : String} (hkind : n.kind = .var)
      (hchild : n.childNode? 0 = some m) (h : NamedThrough m count name) :
      NamedThrough n (count + 1) name

/-- A slot with a string in it has no node. -/
lemma childNode?_eq_none_of_childText? {n : Node} {i : Nat} {text : String}
    (h : n.childText? i = some text) : n.childNode? i = none := by
  obtain ⟨c, hc, htext⟩ := Option.bind_eq_some_iff.mp h
  rw [childNode?, hc]
  cases c <;> first | rfl | cases htext

/-- The rows of such variables are those in which there are only variables, and a name in the
last. -/
lemma Leads.namedThrough_iff {n last : Node} {row : List Node} (h : n.Leads row)
    (hlast : row.getLast? = some last) {count : Nat} {name : String} :
    n.NamedThrough count name ↔
      count = row.length ∧ (∀ m ∈ row, m.kind = .var) ∧ last.childText? 0 = some name := by
  induction h generalizing count with
  | @last n hnone =>
      obtain rfl := Option.some.inj hlast
      constructor
      · intro hnamed
        cases hnamed with
        | name hkind hname => exact ⟨rfl, List.forall_mem_singleton.mpr hkind, hname⟩
        | through _ hchild => simp [hnone] at hchild
      · rintro ⟨rfl, hkind, hname⟩
        exact .name (hkind n List.mem_cons_self) hname
  | @on n m row hsome rest ih =>
      obtain ⟨x, row, rfl⟩ := List.exists_cons_of_ne_nil rest.ne_nil
      rw [List.getLast?_cons_cons] at hlast
      rw [List.forall_mem_cons, List.length_cons]
      constructor
      · intro hnamed
        cases hnamed with
        | name _ hname => simp [childNode?_eq_none_of_childText? hname] at hsome
        | through hkind hchild hnamed =>
            obtain rfl := Option.some.inj (hsome.symm.trans hchild)
            obtain ⟨rfl, hkinds, hname⟩ := (ih hlast).mp hnamed
            exact ⟨rfl, ⟨hkind, hkinds⟩, hname⟩
      · rintro ⟨rfl, ⟨hkind, hkinds⟩, hname⟩
        exact .through hkind hsome ((ih hlast).mpr ⟨rfl, hkinds, hname⟩)

/-! ### Elements of what they name -/

/-- The form in which an element of what a chain of nodes names is written. -/
def indirectText (count : Nat) (name : String) : String := "".pushn '$' count ++ name ++ "[]"

/-- An element whose base is a variable with a node in the place of its name, as it is reported. -/
structure IndirectElement (n base : Node) : Prop where
  /-- Where the base is named through variables these are counted and the name is found. -/
  counted : ∀ count name, base.NamedThrough count name →
    2 ≤ count ∧ n.ambiguousExpression? = some (indirectText count name)
  /-- The row of first children is followed to its end whatever its nodes are, so that all of them
  count for variables, and the string that the last one holds for the name. -/
  followed : ∃ row last, base.Leads row ∧ row.getLast? = some last ∧
    n.ambiguousExpression? = some (indirectText row.length ((last.childText? 0).getD "")) ∧
    ∀ count name, base.NamedThrough count name ↔
      count = row.length ∧ (∀ m ∈ row, m.kind = .var) ∧ last.childText? 0 = some name

/-- **An element of a variable that other variables name is written with a dollar sign for each of
them** and the name. So is, with one for each node, whatever else stands in the place of a name. -/
theorem indirectElement {n base inner : Node} (hkind : n.kind = .dim)
    (hbase : n.childNode? 0 = some base) (hvar : base.kind = .var)
    (hinner : base.childNode? 0 = some inner) : n.IndirectElement base := by
  obtain ⟨row, hrow⟩ := base.exists_leads
  obtain ⟨last, hlast⟩ : ∃ last, row.getLast? = some last :=
    ⟨_, List.getLast?_eq_some_getLast hrow.ne_nil⟩
  have htext : n.ambiguousExpression? =
      some (indirectText row.length ((last.childText? 0).getD "")) := by
    rw [ambiguousExpression?, hkind]
    simp only [hbase, Option.bind_some, ambiguousElement?, hvar, hinner, Option.map_some,
      indirectName, hrow.innermost_eq hlast]
    rfl
  refine ⟨fun count name h => ?_,
    ⟨row, last, hrow, hlast, htext, fun _ _ => hrow.namedThrough_iff hlast⟩⟩
  obtain ⟨rfl, -, hname⟩ := (hrow.namedThrough_iff hlast).mp h
  refine ⟨?_, by rw [htext, hname, Option.getD_some]⟩
  -- behind the base there is at least the node in the place of its name
  cases hrow with
  | last hnone => simp [hinner] at hnone
  | on _ rest =>
      have := List.length_pos_iff.mpr rest.ne_nil
      rw [List.length_cons]
      omega

/-- Three variables, of which the last has a name. -/
theorem indirectElement_threefold :
    let base := varVar (varVar (varOf "x"))
    let n := dimOf base (.str "k")
    (n.kind = .dim ∧ n.childNode? 0 = some base ∧ base.kind = .var ∧
        base.childNode? 0 = some (varVar (varOf "x"))) ∧
      n.IndirectElement base ∧ base.NamedThrough 3 "x" ∧ n.ambiguousExpression? = some "$$$x[]" :=
  ⟨⟨rfl, rfl, rfl, rfl⟩, indirectElement rfl rfl rfl rfl,
    .through rfl rfl (.through rfl rfl (.name rfl rfl)), by decide +kernel⟩

/-- Where a call gives the name there are no variables to be counted, and yet the name of what is
called is reported as that of a variable. -/
theorem calledName_not_namedThrough :
    let base := varVar (callOf "f" [])
    (¬ ∃ count name, base.NamedThrough count name) ∧
      (dimOf base (.str "k")).ambiguousExpression? = some "$$$f[]" := by
  refine ⟨?_, by decide +kernel⟩
  rintro ⟨count, name, h⟩
  -- the base holds a call, which is no variable
  cases h with
  | name _ hname => exact nomatch hname
  | through _ hchild h =>
      cases hchild
      cases h with
      | name hkind => exact nomatch hkind
      | through hkind => exact nomatch hkind

end Node

end PhpIndex
