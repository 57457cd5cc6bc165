import Mathlib.Algebra.GroupWithZero.Nat
import PhpIndex.Proofs.Registry.Sizes
import PhpIndex.Proofs.SourceUnit.Outcomes
import PhpIndex.Proofs.Walk.Failures

/-!
The totals of a run.

* `Moment.counted?`, `Moment.countsOf_operations`: what is counted at a moment, which is the node
  that is visited there unless its declaration fails;
* `Moment.balanced_operations`: each declaration that is registered at a moment is counted there
  under its kind, and no other is;
* `Registered.noteAll_eq`, `sum_registered`: the counts of units are those of the operations in
  them;
* `AddsUp`, `addsUp`: **the counts, the outcomes of the units and the declarations of the registry
  agree**, whatever the units are.
-/

namespace PhpIndex

/-! ### What is counted at a moment -/

namespace Scope

variable (s : Scope) (edits : List ClassEdit)

/-- A change of a class neither registers nor counts anything. -/
lemma idle_edit : ∀ op ∈ s.edit edits,
    op.newClass? = none ∧ op.newFunction? = none ∧ op.counted? = none := by
  intro op hop
  cases hclass : s.class? with
  | none =>
      rw [edit_eq_nil hclass] at hop
      cases hop
  | some owner =>
      rw [edit_eq hclass] at hop
      obtain ⟨e, -, rfl⟩ := List.mem_map.mp hop
      exact ⟨rfl, rfl, rfl⟩

lemma countsOf_edit : countsOf (s.edit edits) = [] :=
  List.filterMap_eq_nil_iff.mpr fun op hop => (s.idle_edit edits op hop).2.2

lemma balanced_edit : Balanced (s.edit edits) := .of_idle (s.idle_edit edits)

end Scope

namespace Moment

variable (options : Options) (m : Moment Findings)

/-- The kind of which one more is counted at a moment. -/
def counted? : Option Counted :=
  match m.node.kind with
  | .classDecl => (m.newClass? options).map fun _ => .classes
  | .methodDecl => (m.newFunction? options).map fun _ => .methods
  | .functionDecl => (m.newFunction? options).map fun _ => .functions
  | .traitUse => if m.failure? options = none then some .traits else none
  | .closure => some .closures
  | .ifStmt => some .conditionals
  | _ => none

/-- All closures and branches are counted. -/
lemma counted?_eq_closures : m.counted? options = some .closures ↔ m.node.kind = .closure := by
  rw [counted?]
  split <;> simp_all

lemma counted?_eq_conditionals :
    m.counted? options = some .conditionals ↔ m.node.kind = .ifStmt := by
  rw [counted?]
  split <;> simp_all

/-- Of the uses of traits those that do not fail are. -/
lemma counted?_eq_traits : m.counted? options = some .traits ↔
    m.node.kind = .traitUse ∧ m.failure? options = none := by
  rw [counted?]
  split <;> simp_all

variable {m} (hs : m.scope.Grounded m.state.registry)

include hs

/-- Traits are used at a moment unless their use fails there. -/
lemma operations_traitUse (hkind : m.node.kind = .traitUse) :
    m.failure? options = none ∧
        (∃ edits, m.operations options = m.scope.edit edits ++ [.count .traits]) ∨
      m.failure? options ≠ none ∧ m.operations options = [] := by
  simp only [failure?, operations, Scope.operations, hkind, useTraits]
  cases hclass : m.scope.class? with
  | none => exact .inr ⟨Option.some_ne_none _, rfl⟩
  | some owner =>
      cases m.node.childOfKind? 0 .nameList with
      | none => exact .inr ⟨Option.some_ne_none _, rfl⟩
      | some names =>
          simp only [hs.class_registered owner hclass, if_true]
          exact .inl ⟨rfl, _, rfl⟩

/-- This is all that is counted there. -/
theorem countsOf_operations : countsOf (m.operations options) = (m.counted? options).toList := by
  have hedit := m.scope.countsOf_edit
  have htraits := m.operations_traitUse options hs
  rw [counted?]
  split
  all_goals rename_i hkind
  · simp only [operations, Scope.operations, newClass?, hkind, if_true]
    cases m.scope.newClass? options m.state.registry m.node <;> rfl
  · simp only [operations, Scope.operations, newFunction?, hkind]
    cases m.scope.newMethod? options m.state.registry m.node with
    | none => rfl
    | some f =>
        rw [countsOf, List.filterMap_append, ← countsOf, ← countsOf, hedit]
        rfl
  · simp only [operations, Scope.operations, newFunction?, hkind]
    cases m.scope.newFunction? options m.state.registry m.node <;> rfl
  · obtain ⟨hnone, edits, hops⟩ | ⟨hsome, hops⟩ := htraits hkind
    · rw [hops, if_pos hnone, countsOf, List.filterMap_append, ← countsOf, hedit]
      rfl
    · rw [hops, if_neg hsome]
      rfl
  · simp only [operations, Scope.operations, hkind]
    rfl
  · simp only [operations, Scope.operations, hkind]
    rfl
  · rw [operations, Scope.operations]
    split
    case h_1 | h_2 | h_3 | h_4 | h_7 | h_8 => contradiction
    case h_5 | h_6 => exact hedit _
    case h_9 =>
      split
      · cases m.scope.function? <;> rfl
      · rfl
    case h_10 =>
      split
      · exact hedit _
      · rfl
    case h_11 => rfl

/-- What is registered there is counted, and nothing else as if it were. -/
theorem balanced_operations : Balanced (m.operations options) := by
  have htraits := m.operations_traitUse options hs
  rw [operations, Scope.operations]
  split
  all_goals rename_i hkind
  · split
    · exact .nil
    · exact .addClass _
  · split
    · exact .nil
    · rename_i f hnew
      obtain ⟨-, owner, -, howner⟩ := Scope.newMethod?_spec hs hnew
      refine (Balanced.addMethod ?_).append (m.scope.balanced_edit _)
      rw [howner]
      exact Option.some_ne_none owner
  · split
    · exact .nil
    · rename_i f hnew
      exact .addFunction (Scope.newFunction?_spec hnew).2
  · split
    · exact (m.scope.balanced_edit _).append (.count (by decide))
    · exact .nil
  · exact m.scope.balanced_edit _
  · exact m.scope.balanced_edit _
  · exact .count (by decide)
  · exact .count (by decide)
  · split
    · cases m.scope.function? with
      | none => exact .nil
      | some name => exact .of_idle (List.forall_mem_singleton.mpr ⟨rfl, rfl, rfl⟩)
    · exact .nil
  · split
    · exact m.scope.balanced_edit _
    · exact .nil
  · exact .nil

end Moment

/-! ### What units count -/

/-- The counts of a walk's own declarations go up by what operations count. -/
theorem Registered.noteAll_eq (n : Registered) (ops : List Operation) :
    n.noteAll ops =
      { classes := n.classes + (countsOf ops).count .classes
        methods := n.methods + (countsOf ops).count .methods
        functions := n.functions + (countsOf ops).count .functions } := by
  induction ops generalizing n with
  | nil => rfl
  | cons op ops ih =>
      rw [noteAll, List.foldl_cons, ← noteAll, ih]
      cases op with
      | count kind =>
          have hcounts : countsOf (.count kind :: ops) = kind :: countsOf ops := rfl
          rw [hcounts]
          cases kind <;> simp [note, Nat.add_assoc, Nat.add_comm 1]
      | _ => rfl

section

variable (options : Options) (files : SourceFiles)

/-- All that the registration of units does to a registry. -/
def operationsOfAll (us : List SourceUnit) (r : Registry) : List Operation :=
  (momentsOfAll options files us r).flatMap (·.operations options)

lemma operationsOfAll_cons (u : SourceUnit) (us : List SourceUnit) (r : Registry) :
    operationsOfAll options files (u :: us) r =
      u.operations options files r ++
        operationsOfAll options files us (u.index options files r).2 :=
  List.flatMap_append

/-- The counts of all units together are those of the operations in them. -/
theorem sum_registered (us : List SourceUnit) (r : Registry) :
    ((outcomesOfAll options files us r).map (·.registered.classes)).sum =
        (countsOf (operationsOfAll options files us r)).count .classes ∧
      ((outcomesOfAll options files us r).map (·.registered.methods)).sum =
        (countsOf (operationsOfAll options files us r)).count .methods ∧
      ((outcomesOfAll options files us r).map (·.registered.functions)).sum =
        (countsOf (operationsOfAll options files us r)).count .functions := by
  induction us generalizing r with
  | nil => exact ⟨rfl, rfl, rfl⟩
  | cons u us ih =>
      obtain ⟨hclasses, hmethods, hfunctions⟩ := ih (u.index options files r).2
      have hregistered := (u.answers options files r).2
      rw [Registered.noteAll_eq] at hregistered
      have hcounts : countsOf (operationsOfAll options files (u :: us) r) =
          countsOf (u.operations options files r) ++
            countsOf (operationsOfAll options files us (u.index options files r).2) := by
        rw [operationsOfAll_cons]
        exact List.filterMap_append
      rw [outcomesOfAll, hcounts]
      simp only [List.map_cons, List.sum_cons, List.count_append, hclasses, hmethods, hfunctions,
        hregistered, Nat.zero_add, and_self]

/-- A kind is counted as often as there are moments at which it is. -/
lemma count_operationsOfAll (us : List SourceUnit) (r : Registry) (kind : Counted) :
    (countsOf (operationsOfAll options files us r)).count kind =
      (momentsOfAll options files us r).countP (·.counted? options = some kind) := by
  have hgrounded := grounded_of_mem_momentsOfAll options files us r
  rw [operationsOfAll]
  generalize momentsOfAll options files us r = ms at hgrounded ⊢
  induction ms with
  | nil => rfl
  | cons m ms ih =>
      obtain ⟨hm, hms⟩ := List.forall_mem_cons.mp hgrounded
      rw [List.flatMap_cons, countsOf, List.filterMap_append, ← countsOf, ← countsOf,
        List.count_append, ih hms, Moment.countsOf_operations options hm, List.countP_cons,
        Nat.add_comm]
      cases m.counted? options <;> simp [List.count_singleton]

/-! ### Counts, outcomes and contents -/

/-- A registry whose counts are those of its declarations. -/
structure Registry.Tallied (r : Registry) : Prop where
  classes : r.tally.classes = r.classCount
  functions : r.tally.functions = r.functionList.length
  methods : r.tally.methods + r.tally.functions = r.functionCount

lemma Registry.tallied_empty : Registry.empty.Tallied where
  classes := rfl
  functions := by
    rw [length_functionList]
    rfl
  methods := rfl

/-- Whether the counts that a run adds to a registry, what its units tell and the declarations that
are new to the registry agree. -/
structure AddsUp (us : List SourceUnit) (r : Registry) : Prop where
  /-- The classes that units tell of are counted, and are stored. -/
  classes : (indexAll options files us r).2.tally.classes =
    r.tally.classes + ((outcomesOfAll options files us r).map (·.registered.classes)).sum
  classCount : (indexAll options files us r).2.classCount =
    r.classCount + ((outcomesOfAll options files us r).map (·.registered.classes)).sum
  methods : (indexAll options files us r).2.tally.methods =
    r.tally.methods + ((outcomesOfAll options files us r).map (·.registered.methods)).sum
  functions : (indexAll options files us r).2.tally.functions =
    r.tally.functions + ((outcomesOfAll options files us r).map (·.registered.functions)).sum
  /-- The functions are listed, and are stored together with the methods. -/
  functionList : (indexAll options files us r).2.functionList.length =
    r.functionList.length + ((outcomesOfAll options files us r).map (·.registered.functions)).sum
  functionCount : (indexAll options files us r).2.functionCount =
    r.functionCount + (((outcomesOfAll options files us r).map (·.registered.methods)).sum +
      ((outcomesOfAll options files us r).map (·.registered.functions)).sum)
  /-- Closures and branches are counted wherever they are visited. -/
  closures : (indexAll options files us r).2.tally.closures =
    r.tally.closures + (momentsOfAll options files us r).countP (·.node.kind = .closure)
  conditionals : (indexAll options files us r).2.tally.conditionals =
    r.tally.conditionals + (momentsOfAll options files us r).countP (·.node.kind = .ifStmt)
  /-- Uses of traits are counted unless they fail. -/
  traits : (indexAll options files us r).2.tally.traits =
    r.tally.traits + (momentsOfAll options files us r).countP
      fun m => m.node.kind = .traitUse ∧ m.failure? options = none
  /-- The report is made up of those of the units in their order. -/
  diagnostics : (indexInto options files us ({}, r)).1.diagnostics =
    (outcomesOfAll options files us r).flatMap (·.report)
  /-- Its flag is raised when one of the units has a fatal diagnostic. -/
  hasFatal : (indexInto options files us ({}, r)).1.hasFatal = true ↔
    ∃ o ∈ outcomesOfAll options files us r, ∃ d ∈ o.report, d.category = .fatal
  /-- But for the flag this is the registration of the units. -/
  sameRun : ((indexInto options files us ({}, r)).1.diagnostics,
    (indexInto options files us ({}, r)).2) = indexAll options files us r

/-- Each function that is registered is counted as a function or as a method. -/
lemma Balanced.length_newFunctions {ops : List Operation} (h : Balanced ops) :
    (newFunctions ops).length =
      (countsOf ops).count .methods + (countsOf ops).count .functions := by
  rw [← h.methods, ← h.functions, Nat.add_comm]
  exact List.length_eq_length_filter_add FunctionLike.isFunction

/-- Counts and contents of a registry that fit each other still do so after a run. -/
lemma AddsUp.tallied {us : List SourceUnit} {r : Registry} (h : AddsUp options files us r)
    (hr : r.Tallied) : (indexAll options files us r).2.Tallied where
  classes := by rw [h.classes, h.classCount, hr.classes]
  functions := by rw [h.functions, h.functionList, hr.functions]
  methods := by
    have := hr.methods
    rw [h.methods, h.functions, h.functionCount]
    omega

/-- A run adds to each count what its operations count. -/
lemma tally_indexAll (us : List SourceUnit) (r : Registry) (kind : Counted) :
    (indexAll options files us r).2.tally.of kind =
      r.tally.of kind + (countsOf (operationsOfAll options files us r)).count kind := by
  have hgrounded := grounded_of_mem_momentsOfAll options files us r
  obtain ⟨-, hperform⟩ :=
    (course_momentsOfAll options files us r).performAll_operations hgrounded
  rw [← hperform]
  exact tally_performAll _ r kind

/-- It stores as many declarations as its operations count. -/
lemma sizes_indexAll (us : List SourceUnit) (r : Registry) :
    (indexAll options files us r).2.classCount =
        r.classCount + (countsOf (operationsOfAll options files us r)).count .classes ∧
      (indexAll options files us r).2.functionCount =
        r.functionCount + ((countsOf (operationsOfAll options files us r)).count .methods +
          (countsOf (operationsOfAll options files us r)).count .functions) ∧
      (indexAll options files us r).2.functionList.length =
        r.functionList.length +
          (countsOf (operationsOfAll options files us r)).count .functions := by
  have hgrounded := grounded_of_mem_momentsOfAll options files us r
  obtain ⟨hsucceed, hperform⟩ :=
    (course_momentsOfAll options files us r).performAll_operations hgrounded
  have hbalanced : Balanced (operationsOfAll options files us r) :=
    .flatMap fun m hm => Moment.balanced_operations options (hgrounded m hm)
  rw [← operationsOfAll] at hsucceed hperform
  rw [← hbalanced.length_newFunctions, ← hbalanced.classes, ← hbalanced.functions, ← hperform]
  exact ⟨Registry.classCount_performAll hsucceed, Registry.functionCount_performAll hsucceed,
    Registry.length_functionList_performAll hsucceed⟩

/-- What a run counts, tells and stores is the same. -/
lemma addsUp (us : List SourceUnit) (r : Registry) : AddsUp options files us r := by
  obtain ⟨hclasses, hmethods, hfunctions⟩ := sum_registered options files us r
  obtain ⟨hclassCount, hfunctionCount, hfunctionList⟩ := sizes_indexAll options files us r
  have htally := tally_indexAll options files us r
  have hvisited {kind : Counted} {p : Moment Findings → Prop} [DecidablePred p]
      (hp : ∀ m, m.counted? options = some kind ↔ p m) :
      (indexAll options files us r).2.tally.of kind =
        r.tally.of kind + (momentsOfAll options files us r).countP fun m => p m := by
    rw [htally, count_operationsOfAll]
    simp only [hp]
  have hindex := indexInto_eq options files us {} r
  have hreport := report_indexAll options files us r
  rw [FlaggedReport.ofReport_eq] at hindex
  exact {
    classes := hclasses ▸ htally .classes
    classCount := hclasses ▸ hclassCount
    methods := hmethods ▸ htally .methods
    functions := hfunctions ▸ htally .functions
    functionList := hfunctions ▸ hfunctionList
    functionCount := hmethods ▸ hfunctions ▸ hfunctionCount
    closures := hvisited fun m => m.counted?_eq_closures options
    conditionals := hvisited fun m => m.counted?_eq_conditionals options
    traits := hvisited fun m => m.counted?_eq_traits options
    diagnostics := by rw [hindex, ← hreport]; rfl
    hasFatal := by rw [hindex, hreport]; simp [FlaggedReport.extend, Report.hasFatal]
    sameRun := by rw [hindex]; rfl }

/-- **Counts, outcomes and contents agree** over all runs, whatever the registry held before; after
a run that begins with nothing the counts are those of the declarations. -/
theorem countsAgree (us : List SourceUnit) (r : Registry) :
    AddsUp options files us r ∧ (indexAll options files us .empty).2.Tallied :=
  ⟨addsUp options files us r, (addsUp options files us .empty).tallied options files
    Registry.tallied_empty⟩

end

end PhpIndex
