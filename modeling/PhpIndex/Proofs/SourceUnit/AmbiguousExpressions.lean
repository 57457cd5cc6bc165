import PhpIndex.Proofs.SourceUnit.Settled
import PhpIndex.Proofs.SourceUnit.Switches
import PhpIndex.Proofs.Text.Lines
import PhpIndex.Tree.Build

/-!
The ambiguous expressions that are reported in a unit.

* `Node.LeftOpen`: an expression at a node that versions of the language read differently, in a line
  that can be read and does not say how;
* `Node.openProblem?`, `Node.openProblem?_eq_some_iff`: the problem that is reported for it;
* `Node.ambiguousExpression?_of_readsArguments`: a call by which a function reads its arguments is
  no such expression;
* `Scope.filter_reports_compatibility`: what is reported at a node is a problem of its own;
* `SourceUnit.ExpressionsReported`, `SourceUnit.expressionsReported`: **the problems of the kind are
  those of the nodes that are visited**, in their order and one for each.
-/

namespace PhpIndex

open Text

/-! ### Expressions that are left open -/

namespace Node

/-- Whether a node has an expression that versions of the language read differently, in a line that
can be read and lacks one of the braces. -/
structure LeftOpen (files : SourceFiles) (path : String) (node : Node) (expression : String) :
    Prop where
  kind : node.kind = .call ∨ node.kind = .dim
  expression_eq : node.ambiguousExpression? = some expression
  line : ∃ text, files.readLine path node.line = .ok (some text) ∧
    ¬ ('\x7b' ∈ text.toList ∧ '\x7d' ∈ text.toList)

/-- The problem of an expression that is left open. -/
def openProblem? (files : SourceFiles) (path : String) (node : Node) : Option Problem :=
  node.ambiguousExpression?.bind fun expression =>
    match files.readLine path node.line with
    | .ok (some text) =>
        if '\x7b' ∈ text.toList ∧ '\x7d' ∈ text.toList then none
        else some { issue := .ambiguousExpression expression, file := path, line := node.line }
    | .ok none | .error _ => none

variable {files : SourceFiles} {path : String} {node : Node}

/-- Only calls and elements of arrays are read in different orders. -/
lemma kind_of_ambiguousExpression? {expression : String}
    (h : node.ambiguousExpression? = some expression) : node.kind = .call ∨ node.kind = .dim := by
  rw [ambiguousExpression?] at h
  split at h
  next hkind => exact .inr hkind
  next hkind => exact .inl hkind
  · cases h

/-- The problem names the expression, the file and the line of the node. -/
theorem openProblem?_eq_some_iff {p : Problem} : node.openProblem? files path = some p ↔
    ∃ expression, node.LeftOpen files path expression ∧
      p = { issue := .ambiguousExpression expression, file := path, line := node.line } := by
  rw [openProblem?, Option.bind_eq_some_iff]
  constructor
  · rintro ⟨expression, hexpression, h⟩
    split at h
    next text hline =>
      split_ifs at h with hbraces
      cases h
      exact ⟨expression, ⟨kind_of_ambiguousExpression? hexpression, hexpression, text, hline,
        hbraces⟩, rfl⟩
    · cases h
    · cases h
  · rintro ⟨expression, ⟨-, hexpression, text, hline, hbraces⟩, rfl⟩
    refine ⟨expression, hexpression, ?_⟩
    rw [hline]
    exact if_neg hbraces

/-- A call by which a function reads its arguments names what it calls, and is not read in different
orders. -/
lemma ambiguousExpression?_of_readsArguments (hkind : node.kind = .call)
    (h : node.readsArguments) : node.ambiguousExpression? = none := by
  rw [readsArguments, Option.any_eq_true] at h
  obtain ⟨name, hname, -⟩ := h
  obtain ⟨callee, hchild, hcallee, -⟩ := calleeName?_eq_some_iff.mp hname
  rw [ambiguousExpression?, hkind]
  simp [childOfKind?, childNode?_eq_some_iff.mpr hchild, hcallee]

/-- A node without an expression of the kind has no problem of the kind. -/
lemma openProblem?_of_expression (h : node.ambiguousExpression? = none) :
    node.openProblem? files path = none := by
  rw [openProblem?, h]
  rfl

end Node

/-! ### What is reported at a node -/

/-- The problems of the kind among others. -/
def compatibilityProblems (ps : List Problem) : List Problem :=
  ps.filter (·.issue.category = .compatibility)

namespace Scope

variable (s : Scope) (options : Options) (files : SourceFiles) (node : Node)

lemma compatibilityProblems_importProblems {imported : Except Issue Scope}
    (h : FailsFatally imported) : compatibilityProblems (s.importProblems node imported) = [] := by
  refine List.filter_eq_nil_iff.mpr fun p hp => ?_
  cases imported with
  | ok s' => cases hp
  | error issue =>
      obtain rfl := List.mem_singleton.mp hp
      simp [problem, h issue rfl]

lemma compatibilityProblems_propertyProblems (entry : Node × Nat) :
    compatibilityProblems (s.propertyProblems options node entry) = [] := by
  refine List.filter_eq_nil_iff.mpr fun p hp => ?_
  rw [propertyProblems] at hp
  split at hp
  · obtain rfl := List.mem_singleton.mp hp
    simp [problem, Kind.malformed, Issue.category]
  · obtain ⟨issue, hissue, rfl⟩ := List.mem_map.mp hp
    simp [problem, category_of_typeMismatch? options (Option.mem_toList.mp hissue)]

/-- The check of a node finds its problem and nothing else. -/
lemma checkProblems_eq (hon : options.checksCompatibility = true) :
    s.checkProblems options files node = (node.openProblem? files s.file).toList := by
  rw [checkProblems, compatibilityIssue?, if_pos hon, Node.openProblem?]
  cases node.ambiguousExpression? with
  | none => rfl
  | some expression =>
      simp only [Option.bind_some, isGrouped, Bool.and_eq_true, List.contains_iff_mem]
      rcases files.readLine s.file node.line with _ | _ | text
      · rfl
      · rfl
      · dsimp only
        split_ifs <;> rfl

/-- **What is reported at a node is a problem of its own**, whatever is around it and below. -/
theorem compatibilityProblems_reports (hon : options.checksCompatibility = true) :
    compatibilityProblems (s.reports options files node) =
      (node.openProblem? files s.file).toList := by
  have hcheck : compatibilityProblems (s.checkProblems options files node) =
      (node.openProblem? files s.file).toList := by
    rw [← s.checkProblems_eq options files node hon]
    refine List.filter_eq_self.mpr fun p hp => ?_
    obtain ⟨issue, hissue, rfl⟩ := List.mem_map.mp hp
    simp [problem, category_of_compatibilityIssue? options (Option.mem_toList.mp hissue)]
  have hother (hcall : node.kind ≠ .call) (hdim : node.kind ≠ .dim) :
      (node.openProblem? files s.file).toList = [] := by
    rw [Node.openProblem?_of_expression]
    · rfl
    · refine Option.eq_none_iff_forall_not_mem.mpr fun expression h => ?_
      exact (Node.kind_of_ambiguousExpression? h).elim hcall hdim
  rw [reports]
  split
  case h_9 hkind =>
    split
    next hreads =>
      rw [Node.openProblem?_of_expression
        (Node.ambiguousExpression?_of_readsArguments hkind hreads)]
      rfl
    · exact hcheck
  case h_10 | h_11 | h_12 | h_13 | h_14 | h_15 => exact hcheck
  case h_16 =>
    rw [hother (by assumption) (by assumption)]
    rfl
  all_goals
    rename_i hkind
    rw [hother (by rw [hkind]; decide) (by rw [hkind]; decide)]
  · exact s.compatibilityProblems_importProblems node (s.failsFatally_afterUse node)
  · exact s.compatibilityProblems_importProblems node (s.failsFatally_afterGroupUse node)
  · split <;> rfl
  · split <;> rfl
  · split <;> rfl
  · split <;> rfl
  · split
    · rfl
    · rw [compatibilityProblems, List.filter_flatMap, List.flatMap_eq_nil_iff]
      exact fun entry _ => s.compatibilityProblems_propertyProblems options node entry
  · split
    · rfl
    · rw [compatibilityProblems, List.filter_flatMap, List.flatMap_eq_nil_iff]
      intro element _
      rw [constantProblems]
      split <;> rfl

end Scope

/-! ### Units -/

namespace SourceUnit

section

variable (options : Options) (files : SourceFiles) (u : SourceUnit) (r : Registry)

/-- The problems of the expressions that are left open at the nodes that are visited, in the order
of the visits. -/
def openProblems : List Problem :=
  (u.sites options files r).filterMap (·.node.openProblem? files u.path)

/-- What a unit reports of ambiguous expressions. -/
structure ExpressionsReported : Prop where
  visited : (u.sites options files r).map Site.toMoment = u.moments options files r
  stands : ∀ p ∈ u.sites options files r, Stands u.root p.node p.levels
  /-- The nodes come in the order of the tree, and none of them twice. -/
  ordered : (u.sites options files r).Pairwise fun p q => slots p.levels < slots q.levels
  /-- One problem is reported for each of those that are left open. -/
  problems_eq : compatibilityProblems (u.index options files r).1.problems =
    u.openProblems options files r
  report_eq : (u.index options files r).1.report.ofCategory .compatibility =
    (u.openProblems options files r).map Problem.diagnostic
  problem_iff : ∀ (node : Node) (p : Problem), node.openProblem? files u.path = some p ↔
    ∃ expression, node.LeftOpen files u.path expression ∧
      p = { issue := .ambiguousExpression expression, file := u.path, line := node.line }
  /-- A node at no line of the file has none. -/
  unplaced : ∀ node : Node, (node.line = 0 ∨ (∃ e, files.read u.path = .error e) ∨
      ∃ content ls, files.read u.path = .ok content ∧ CutAfter content ls ∧
        ls.length < node.line) →
    node.openProblem? files u.path = none
  /-- Nor has a call that is not checked because a function reads its arguments by it. -/
  unchecked : ∀ node : Node, node.kind = .call → node.readsArguments →
    node.openProblem? files u.path = none

variable {options} in
/-- **The ambiguous expressions that are reported are those of the nodes that are visited** and
whose lines leave them open, in their order and one for each. -/
theorem expressionsReported (hon : options.checksCompatibility = true) :
    u.ExpressionsReported options files r := by
  have hproblems : compatibilityProblems (u.index options files r).1.problems =
      u.openProblems options files r := by
    rw [(u.answers options files r).1, ← u.sites_toMoment_eq, List.flatMap_map,
      compatibilityProblems, List.filter_flatMap, openProblems, List.filterMap_eq_flatMap_toList]
    refine List.flatMap_congr fun p hp => ?_
    rw [← file_eq_of_mem_sites hp]
    exact p.scope.compatibilityProblems_reports options files p.node hon
  exact {
    visited := u.sites_toMoment_eq options files r
    stands := fun _ hp => stands_of_mem_sites hp
    ordered := ((pairwise_slots (visit options files)).1 u.root [] _ _).1
    problems_eq := hproblems
    report_eq := by rw [ofCategory_report]; exact congrArg _ hproblems
    problem_iff := fun _ _ => Node.openProblem?_eq_some_iff
    unplaced := fun node h => by
      refine Option.eq_none_iff_forall_not_mem.mpr fun p hp => ?_
      obtain ⟨expression, hopen, -⟩ := Node.openProblem?_eq_some_iff.mp hp
      obtain ⟨text, htext, -⟩ := hopen.line
      exact SourceFiles.readLine_ne_some h text htext
    unchecked := fun node hkind hreads => Node.openProblem?_of_expression
      (Node.ambiguousExpression?_of_readsArguments hkind hreads) }

end

/-- The output of an element that a variable names, in a file at an absolute path. -/
def echoedElement : SourceUnit where
  path := "/srv/a.php"
  root := Node.statements [
    { Node.echoOf (.node
        { Node.dimOf (Node.varVar (Node.varOf "a")) (.str "b") with line := 1 }) with line := 1 }]

/-- It is reported once, for the element. -/
theorem expressionsReported_echoedElement :
    let options : Options := { checksCompatibility := true }
    let files := SourceFiles.ofPaths
      [("/srv/a.php", "echo $$a['b'];".toList.map fun c => UInt8.ofNat c.toNat)]
    options.checksCompatibility = true ∧ echoedElement.ExpressionsReported options files .empty ∧
      echoedElement.openProblems options files .empty =
        [{ issue := .ambiguousExpression "$$a[]", file := "/srv/a.php", line := 1 }] :=
  ⟨rfl, expressionsReported _ _ _ rfl, by decide +kernel⟩

end SourceUnit

end PhpIndex
