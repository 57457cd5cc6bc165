import PhpIndex.Proofs.Registry.Marks
import PhpIndex.Proofs.SourceUnit.Outcomes
import PhpIndex.Proofs.Walk.Failures
import PhpIndex.Proofs.Walk.Lockstep

/-!
What the switches of a walk switch.

* `Options.checks`: the kinds of problems that are looked for;
* `Scope.reports_eq_filter`: a check that is off takes away the problems of its kind, and no others;
* `Scope.operations_unmarked`, `Scope.operations_congr`: what is done at a node depends on the
  switches by the marks of branches alone, and on these only if the switch for them says so;
* `Findings.Switched`, `switches`: the law of two walks with different switches;
* `SourceUnit.SwitchedApart`, `SourceUnit.switchedApart`: **switches only switch what they name**.
-/

namespace PhpIndex

/-! ### Checks and kinds of problems -/

namespace Options

/-- Whether problems of a kind are looked for. Those that are fatal always are. -/
def checks (options : Options) : Category → Bool
  | .fatal => true
  | .type => options.checksDocTypes
  | .compatibility => options.checksCompatibility

/-- Whether a problem is of a kind that is looked for. -/
def keeps (options : Options) (p : Problem) : Bool := options.checks p.issue.category

/-- The switches with which everything is looked for. -/
def strict : Options where
  checksCompatibility := true
  recordsConditional := true
  checksDocTypes := true

end Options

section

variable (options : Options)

/-- An issue of one kind that is raised when its kind is looked for. -/
lemma filter_checks {kind : Category} {issue? : Option Issue}
    (h : ∀ issue, issue? = some issue → issue.category = kind) :
    issue?.filter (options.checks ·.category) = if options.checks kind then issue? else none := by
  cases issue? with
  | none => rw [Option.filter_none, ite_self]
  | some issue => rw [Option.filter_some, h issue rfl]

/-- The check of an ambiguous expression raises issues of its kind. -/
lemma Scope.category_of_compatibilityIssue? {s : Scope} {files : SourceFiles} {node : Node}
    {issue : Issue} (h : s.compatibilityIssue? options files node = some issue) :
    issue.category = .compatibility := by
  rw [compatibilityIssue?] at h
  split at h
  · obtain ⟨expression, -, h⟩ := Option.bind_eq_some_iff.mp h
    split at h
    · split at h <;> cases h
      rfl
    · cases h
    · cases h
  · cases h

/-- So does the check of a property's type. -/
lemma category_of_typeMismatch? {name : String} {docType : Option UnionType}
    {inferred : UnionType} {issue : Issue}
    (h : typeMismatch? options name docType inferred = some issue) : issue.category = .type := by
  obtain ⟨type, -, h⟩ := Option.bind_eq_some_iff.mp h
  split at h <;> cases h
  rfl

/-- The check of a node finds what any that is on finds. -/
lemma Scope.compatibilityIssue?_eq_filter (s : Scope) (files : SourceFiles) (node : Node) :
    s.compatibilityIssue? options files node =
      (s.compatibilityIssue? .strict files node).filter (options.checks ·.category) := by
  rw [filter_checks options fun _ => category_of_compatibilityIssue? .strict]
  rfl

/-- So does the check of a property's type. -/
lemma typeMismatch?_eq_filter (name : String) (docType : Option UnionType) (inferred : UnionType) :
    typeMismatch? options name docType inferred =
      (typeMismatch? .strict name docType inferred).filter (options.checks ·.category) := by
  rw [filter_checks options fun _ => category_of_typeMismatch? .strict]
  cases h : options.checksDocTypes <;>
    simp [typeMismatch?, Options.checks, Options.strict, h]

end

/-! ### What is reported -/

namespace Scope

variable (s : Scope) (options : Options)

lemma keeps_problem (line : Nat) (issue : Issue) :
    options.keeps (s.problem line issue) = options.checks issue.category := rfl

/-- A problem at a line is kept if its issue is. -/
lemma filter_problem (line : Nat) (issue? : Option Issue) :
    ((issue?.toList.map (s.problem line)).filter options.keeps) =
      (issue?.filter (options.checks ·.category)).toList.map (s.problem line) := by
  cases issue? with
  | none => rfl
  | some issue =>
      rw [Option.filter_some, Option.toList_some, List.map_singleton, List.filter_singleton,
        s.keeps_problem]
      cases options.checks issue.category <;> rfl

/-- What fails is reported whatever is looked for. -/
lemma filter_importProblems (node : Node) {imported : Except Issue Scope}
    (h : FailsFatally imported) :
    (s.importProblems node imported).filter options.keeps = s.importProblems node imported := by
  cases imported with
  | ok s' => rfl
  | error issue =>
      rw [importProblems, List.filter_singleton, s.keeps_problem, h issue rfl]
      rfl

/-- **A check that is off takes away the problems of its kind**, and no others. -/
theorem reports_eq_filter (files : SourceFiles) (node : Node) :
    s.reports options files node = (s.reports .strict files node).filter options.keeps := by
  have hcheck : s.checkProblems options files node =
      (s.checkProblems .strict files node).filter options.keeps := by
    rw [checkProblems, s.compatibilityIssue?_eq_filter options, ← s.filter_problem]
    rfl
  have hproperty (entry : Node × Nat) : s.propertyProblems options node entry =
      (s.propertyProblems .strict node entry).filter options.keeps := by
    rw [propertyProblems, propertyProblems]
    cases entry.1.childName? 0 with
    | none => rfl
    | some name =>
        simp only
        rw [typeMismatch?_eq_filter options, s.filter_problem]
  have hconstant (element : Node) : (s.constantProblems node element).filter options.keeps =
      s.constantProblems node element := by
    rw [constantProblems]
    split <;> rfl
  rw [reports, reports]
  split
  · exact (s.filter_importProblems options node (s.failsFatally_afterUse node)).symm
  · exact (s.filter_importProblems options node (s.failsFatally_afterGroupUse node)).symm
  · split <;> rfl
  · split <;> rfl
  · split <;> rfl
  · split <;> rfl
  · split
    · rfl
    · rw [List.filter_flatMap]
      exact List.flatMap_congr fun entry _ => hproperty entry
  · split
    · rfl
    · rw [List.filter_flatMap]
      exact List.flatMap_congr fun element _ => (hconstant element).symm
  · split
    · rfl
    · exact hcheck
  all_goals first
    | exact hcheck
    | rfl

end Scope

/-! ### What is done -/

/-- Two options with the same image are empty or hold values with the same image. -/
lemma none_or_some_of_map_eq {α β : Type} {g : α → β} {x y : Option α} (h : x.map g = y.map g) :
    x = none ∧ y = none ∨ ∃ a b, x = some a ∧ y = some b ∧ g a = g b := by
  cases x with
  | none => exact .inl ⟨rfl, Option.map_eq_none_iff.mp h.symm⟩
  | some a =>
      obtain ⟨b, hy, hab⟩ := Option.map_eq_some_iff.mp h.symm
      exact .inr ⟨a, b, rfl, hy, hab.symm⟩

namespace Scope

variable (s : Scope) {r r' : Registry} (node : Node)

section

variable (options options' : Options) (h : r.unmarked = r'.unmarked)

include h

/-- Without its mark the class that a node declares is the same with all switches. -/
lemma newClass?_unmarked :
    (s.newClass? options r node).map ClassLike.unmarked =
      (s.newClass? options' r' node).map ClassLike.unmarked := by
  simp only [newClass?, Option.map_map, Function.comp_def, Registry.freeClass_eq h]
  rfl

/-- So is the method. -/
lemma newMethod?_unmarked :
    (s.newMethod? options r node).map FunctionLike.unmarked =
      (s.newMethod? options' r' node).map FunctionLike.unmarked := by
  simp only [newMethod?, Option.map_bind, Function.comp_def, Option.map_map, Registry.freeFunction_eq h]
  rfl

/-- So is the function. -/
lemma newFunction?_unmarked :
    (s.newFunction? options r node).map FunctionLike.unmarked =
      (s.newFunction? options' r' node).map FunctionLike.unmarked := by
  simp only [newFunction?, Option.map_map, Function.comp_def, Registry.freeFunction_eq h]
  rfl

/-- **Without marks the same is done at a node with all switches.** -/
theorem operations_unmarked :
    (s.operations options r node).map Operation.unmarked =
      (s.operations options' r' node).map Operation.unmarked := by
  rw [operations, operations]
  split
  · obtain ⟨hc, hc'⟩ | ⟨c, c', hc, hc', hsame⟩ :=
      none_or_some_of_map_eq (s.newClass?_unmarked node options options' h)
    · rw [hc, hc']
    · rw [hc, hc']
      simp only [List.map_cons, Operation.unmarked, hsame]
  · obtain ⟨hf, hf'⟩ | ⟨f, f', hf, hf', hsame⟩ :=
      none_or_some_of_map_eq (s.newMethod?_unmarked node options options' h)
    · rw [hf, hf']
    · rw [hf, hf']
      have hname : f.name = f'.name := by rw [← f.name_unmarked, hsame, f'.name_unmarked]
      simp only [List.map_append, List.map_cons, Operation.unmarked, hsame, hname]
  · obtain ⟨hf, hf'⟩ | ⟨f, f', hf, hf', hsame⟩ :=
      none_or_some_of_map_eq (s.newFunction?_unmarked node options options' h)
    · rw [hf, hf']
    · rw [hf, hf']
      simp only [List.map_cons, Operation.unmarked, hsame]
  all_goals rfl

/-- The walk goes on in the same way. -/
theorem flow_unmarked : s.flow options r node = s.flow options' r' node := by
  rw [flow, flow]
  split
  case h_4 =>
    obtain ⟨hc, hc'⟩ | ⟨c, c', hc, hc', hsame⟩ :=
      none_or_some_of_map_eq (s.newClass?_unmarked node options options' h)
    · rw [hc, hc']
    · rw [hc, hc']
      have hname : c.fqsen = c'.fqsen := by rw [← c.fqsen_unmarked, hsame, c'.fqsen_unmarked]
      simp only [hname]
  case h_6 =>
    obtain ⟨hf, hf'⟩ | ⟨f, f', hf, hf', hsame⟩ :=
      none_or_some_of_map_eq (s.newMethod?_unmarked node options options' h)
    · rw [hf, hf']
    · rw [hf, hf']
      have hname : f.fqsen = f'.fqsen := by rw [← f.fqsen_unmarked, hsame, f'.fqsen_unmarked]
      simp only [hname]
  case h_7 =>
    obtain ⟨hf, hf'⟩ | ⟨f, f', hf, hf', hsame⟩ :=
      none_or_some_of_map_eq (s.newFunction?_unmarked node options options' h)
    · rw [hf, hf']
    · rw [hf, hf']
      have hname : f.fqsen = f'.fqsen := by rw [← f.fqsen_unmarked, hsame, f'.fqsen_unmarked]
      simp only [hname]
  all_goals rfl

end

/-- The mark for declarations in a branch is all that the operations at a node take from the
switches. -/
lemma operations_congr {options options' : Options}
    (h : options.recordsConditional = options'.recordsConditional) :
    s.operations options r node = s.operations options' r node := by
  have hmark : s.marksConditional options = s.marksConditional options' := by
    rw [marksConditional, marksConditional, h]
  simp only [operations, newClass?, newMethod?, newFunction?, classFrom, methodFrom,
    functionFrom, hmark]

end Scope

/-- Marks are not counted. -/
lemma Registered.noteAll_unmarked (n : Registered) (ops : List Operation) :
    n.noteAll (ops.map Operation.unmarked) = n.noteAll ops := by
  rw [noteAll, noteAll, List.foldl_map]
  congr 1
  funext n op
  cases op <;> rfl

/-! ### Two walks with different switches -/

section

variable (options options' : Options) (files : SourceFiles)

/-- The findings of two walks that differ in nothing but what is switched. -/
structure Findings.Switched (f g : Findings) : Prop where
  unmarked : f.registry.unmarked = g.registry.unmarked
  /-- With the same marks the registries are the same. -/
  registry : options.recordsConditional = options'.recordsConditional → f.registry = g.registry
  registered : f.registered = g.registered
  /-- Of the problems of the kinds that both look for each has met the same. -/
  problems : f.problems.filter options'.keeps = g.problems.filter options.keeps

/-- What both look for is reported by both. -/
lemma Scope.filter_reports (s : Scope) (node : Node) :
    (s.reports options files node).filter options'.keeps =
      (s.reports options' files node).filter options.keeps := by
  rw [s.reports_eq_filter options, s.reports_eq_filter options', List.filter_filter,
    List.filter_filter]
  simp only [Bool.and_comm]

/-- Two walks with different switches come to the same nodes in the same scopes. -/
def switches : Lockstep (visit options files) (visit options' files) where
  left m := m.scope.Grounded m.state.registry
  right m := m.scope.Grounded m.state.registry
  scopes _ s t := s = t
  states _ f g := f.Switched options options' g
  later _ h := h
  after kind h h' := Scope.after_congr kind h h'
  visited {past n s t f g} hleft hright hscopes hstates := by
    subst hscopes
    have hanswer := answered_visit options files hleft n
    have hanswer' := answered_visit options' files hright n
    have haccepted := accepted_visit options files hleft n
    have haccepted' := accepted_visit options' files hright n
    have hops := s.operations_unmarked n options options' hstates.unmarked
    refine ⟨?_, ?_, ?_, ?_, ?_⟩
    · rw [hanswer.flow_eq, hanswer'.flow_eq,
        s.flow_unmarked n options options' hstates.unmarked]
      exact Flow.both_self (fun _ => rfl) _
    · rw [haccepted.registry_eq, haccepted'.registry_eq, ← performAll_unmarked,
        ← performAll_unmarked, hops, hstates.unmarked]
    · intro hmarks
      rw [haccepted.registry_eq, haccepted'.registry_eq, hstates.registry hmarks,
        s.operations_congr n hmarks]
    · rw [hanswer.registered_eq, hanswer'.registered_eq, hstates.registered,
        ← Registered.noteAll_unmarked, hops, Registered.noteAll_unmarked]
    · rw [hanswer.problems_eq, hanswer'.problems_eq, List.filter_append, List.filter_append,
        hstates.problems, Scope.filter_reports]

end

/-! ### Units with different switches -/

namespace SourceUnit

variable (u : SourceUnit) (files : SourceFiles) (r : Registry)

/-- Whether the registration of a unit with some switches differs from that with others in nothing
but what is switched. -/
structure SwitchedApart (options options' : Options) : Prop where
  scope : (u.index options files r).1.scope = (u.index options' files r).1.scope
  registered : (u.index options files r).1.registered = (u.index options' files r).1.registered
  /-- The registries are the same but for the marks of branches, counts included. -/
  unmarked : (u.index options files r).2.unmarked = (u.index options' files r).2.unmarked
  /-- They are the same altogether if both record marks or neither does. -/
  registry : options.recordsConditional = options'.recordsConditional →
    (u.index options files r).2 = (u.index options' files r).2
  /-- What is fatal is reported with all switches. -/
  fatal : (u.index options files r).1.report.ofCategory .fatal =
    (u.index options' files r).1.report.ofCategory .fatal
  /-- What a check finds is reported if it is on, whatever the others are. -/
  type : options.checksDocTypes = options'.checksDocTypes →
    (u.index options files r).1.report.ofCategory .type =
      (u.index options' files r).1.report.ofCategory .type
  compatibility : options.checksCompatibility = options'.checksCompatibility →
    (u.index options files r).1.report.ofCategory .compatibility =
      (u.index options' files r).1.report.ofCategory .compatibility
  /-- Nothing is reported of a check that is off. -/
  noType : options.checksDocTypes = false →
    (u.index options files r).1.report.ofCategory .type = []
  noCompatibility : options.checksCompatibility = false →
    (u.index options files r).1.report.ofCategory .compatibility = []
  /-- The check for compatibility has no say in what is registered. -/
  compatibilityOnlyReports : ∀ on : Bool,
    (u.index { options with checksCompatibility := on } files r).2 = (u.index options files r).2

variable (options options' : Options)

/-- The walks of a unit with different switches stay in step. -/
lemma switched_index :
    (u.index options files r).1.scope = (u.index options' files r).1.scope ∧
      (u.walk options files { registry := r }).2.Switched options options'
        (u.walk options' files { registry := r }).2 := by
  obtain ⟨pairs, -, -, -, hscopes, hstates⟩ := (switches options options' files).walk.1 u.root []
    u.startScope u.startScope { registry := r } { registry := r }
    (u.grounded_of_mem_moments options files r) (u.grounded_of_mem_moments options' files r) rfl
    ⟨rfl, fun _ => rfl, rfl, rfl⟩
  exact ⟨hscopes, hstates⟩

/-- Every problem of a unit is of a kind that is looked for. -/
lemma keeps_of_mem_problems :
    ∀ p ∈ (u.index options files r).1.problems, options.keeps p = true := by
  rw [(u.answers options files r).1]
  intro p hp
  obtain ⟨m, -, hp⟩ := List.mem_flatMap.mp hp
  rw [Moment.reports, Scope.reports_eq_filter] at hp
  exact List.of_mem_filter hp

/-- The diagnostics of a kind are those of the problems of the kind. -/
lemma ofCategory_report (o : UnitOutcome) (kind : Category) :
    o.report.ofCategory kind =
      (o.problems.filter (·.issue.category = kind)).map Problem.diagnostic := by
  rw [UnitOutcome.report, Report.ofCategory, List.filter_map]
  rfl

/-- There are no diagnostics of a kind that is not looked for. -/
lemma ofCategory_eq_nil (kind : Category) (h : options.checks kind = false) :
    (u.index options files r).1.report.ofCategory kind = [] := by
  rw [ofCategory_report, List.filter_eq_nil_iff.mpr, List.map_nil]
  intro p hp hkind
  have hkeeps := u.keeps_of_mem_problems files r options p hp
  rw [Options.keeps, of_decide_eq_true hkind, h] at hkeeps
  cases hkeeps

/-- With all switches that agree on a kind the diagnostics of the kind are the same. -/
lemma ofCategory_congr (kind : Category) (h : options.checks kind = options'.checks kind) :
    (u.index options files r).1.report.ofCategory kind =
      (u.index options' files r).1.report.ofCategory kind := by
  cases hkind : options.checks kind with
  | false =>
      rw [u.ofCategory_eq_nil files r options kind hkind,
        u.ofCategory_eq_nil files r options' kind (h ▸ hkind)]
  | true =>
      have hproblems : (u.index options files r).1.problems.filter options'.keeps =
          (u.index options' files r).1.problems.filter options.keeps :=
        (u.switched_index files r options options').2.problems
      -- what is of the kind is of a kind that both look for
      have hfilter (o : Options) (ho : o.checks kind = true) (ps : List Problem) :
          (ps.filter o.keeps).filter (·.issue.category = kind) =
            ps.filter (·.issue.category = kind) := by
        rw [List.filter_filter]
        refine List.filter_congr fun p _ => ?_
        by_cases hp : p.issue.category = kind <;> simp [Options.keeps, hp, ho]
      rw [ofCategory_report, ofCategory_report]
      calc ((u.index options files r).1.problems.filter (·.issue.category = kind)).map
            Problem.diagnostic
          = (((u.index options files r).1.problems.filter options'.keeps).filter
              (·.issue.category = kind)).map Problem.diagnostic := by
            rw [hfilter options' (h ▸ hkind)]
        _ = (((u.index options' files r).1.problems.filter options.keeps).filter
              (·.issue.category = kind)).map Problem.diagnostic := by
            rw [hproblems]
        _ = ((u.index options' files r).1.problems.filter (·.issue.category = kind)).map
              Problem.diagnostic := by
            rw [hfilter options hkind]

/-- **Switches only switch what they name**, for every unit, registry and source files. -/
theorem switchedApart : u.SwitchedApart files r options options' := by
  obtain ⟨hscope, hswitched⟩ := u.switched_index files r options options'
  exact {
    scope := hscope
    registered := hswitched.registered
    unmarked := hswitched.unmarked
    registry := hswitched.registry
    fatal := u.ofCategory_congr files r options options' .fatal rfl
    type := u.ofCategory_congr files r options options' .type
    compatibility := u.ofCategory_congr files r options options' .compatibility
    noType := u.ofCategory_eq_nil files r options .type
    noCompatibility := u.ofCategory_eq_nil files r options .compatibility
    compatibilityOnlyReports := fun on =>
      (u.switched_index files r { options with checksCompatibility := on } options).2.registry rfl }

end SourceUnit

end PhpIndex
