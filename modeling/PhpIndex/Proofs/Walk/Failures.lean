import PhpIndex.Proofs.Walk.Course
import PhpIndex.Walk.Visit

/-!
Declarations that fail.

* `FailsFatally`: whatever goes wrong is fatal; `FailsFatally.bind`: so it is with one thing done
  after the other;
* `Moment.failure?`: the issue of a declaration that fails where it is visited;
* `Moment.category_of_failure?`: all such issues are fatal;
* `Moment.visit_of_failure?`: **the failure is reported at the line of the declaration**, and this
  is all that its visit does.
-/

namespace PhpIndex

/-! ### Fatal issues -/

/-- The issue of something that fails is one of those that are fatal. -/
def FailsFatally {α : Type} (e : Except Issue α) : Prop :=
  ∀ issue, e = .error issue → issue.category = .fatal

namespace FailsFatally

variable {α β : Type}

lemma ok (a : α) : FailsFatally (.ok a) := fun _ h => nomatch h

lemma error {issue : Issue} (h : issue.category = .fatal) :
    FailsFatally (.error issue : Except Issue α) := by
  rintro _ ⟨⟩
  exact h

/-- Of two things that are done one after the other either may fail. -/
lemma bind {e : Except Issue α} {next : α → Except Issue β} (h : FailsFatally e)
    (hnext : ∀ a, FailsFatally (next a)) : FailsFatally (e >>= next) := by
  cases e with
  | ok a => exact hnext a
  | error issue => exact .error (h issue rfl)

end FailsFatally

/-! ### Imports that fail -/

namespace Scope

variable (s : Scope)

lemma failsFatally_withElement (kind : Option ImportKind) (common : Option String) (list : Kind)
    (element : Node) : FailsFatally (s.withElement kind common list element) := by
  rw [withElement]
  split
  · split
    · exact .error rfl
    · exact .error rfl
    · exact .ok _
  · exact .error rfl

lemma failsFatally_withElements (kind : Option ImportKind) (common : Option String) (list : Kind)
    (elements : List Node) : FailsFatally (s.withElements kind common list elements) := by
  induction elements generalizing s with
  | nil => exact .ok s
  | cons element rest ih =>
      rw [withElements, List.foldlM_cons]
      exact (s.failsFatally_withElement kind common list element).bind ih

lemma failsFatally_afterUse (node : Node) : FailsFatally (s.afterUse node) :=
  s.failsFatally_withElements _ _ _ _

lemma failsFatally_afterGroupUse (node : Node) : FailsFatally (s.afterGroupUse node) := by
  rw [afterGroupUse]
  split
  · exact .error rfl
  · exact .error rfl
  · exact s.failsFatally_withElements _ _ _ _

/-- Only a method may have no identity, and this outside all classes. -/
lemma failsFatally_newIdentity (r : Registry) (name : String) (kind : DeclarationKind) :
    FailsFatally (s.newIdentity r name kind) := by
  cases kind with
  | classLike => exact .ok _
  | function => exact .ok _
  | method =>
      rw [newIdentity]
      split
      · exact .error rfl
      · exact .ok _

end Scope

/-! ### Declarations that fail -/

namespace Findings

variable (f : Findings)

lemma failsFatally_addClass (c : ClassLike) : FailsFatally (f.addClass c) := by
  rw [addClass]
  split
  · exact .error rfl
  · exact .ok _

lemma failsFatally_addMethod (m : FunctionLike) : FailsFatally (f.addMethod m) := by
  rw [addMethod]
  split
  · exact .error rfl
  · exact .ok _

lemma failsFatally_addFunction (g : FunctionLike) : FailsFatally (f.addFunction g) := by
  rw [addFunction]
  split
  · exact .error rfl
  · exact .ok _

end Findings

section

variable (options : Options) (node : Node) (s : Scope) (f : Findings)

lemma failsFatally_declareClass : FailsFatally (declareClass options node s f) := by
  rw [declareClass]
  split
  · exact .error rfl
  · exact (s.failsFatally_newIdentity _ _ _).bind fun identity =>
      (f.failsFatally_addClass _).bind fun f' => .ok _

lemma failsFatally_useTraits : FailsFatally (useTraits node s f) := by
  rw [useTraits]
  split
  · exact .error rfl
  · exact .error rfl
  · split
    · exact .ok _
    · exact .error rfl

lemma failsFatally_declareMethod : FailsFatally (declareMethod options node s f) := by
  rw [declareMethod]
  split
  · exact .error rfl
  · refine (s.failsFatally_newIdentity _ _ _).bind fun identity => ?_
    split
    · exact .error rfl
    · exact (f.failsFatally_addMethod _).bind fun f' => .ok _

lemma failsFatally_declareFunction : FailsFatally (declareFunction options node s f) := by
  rw [declareFunction]
  split
  · exact .error rfl
  · exact (s.failsFatally_newIdentity _ _ _).bind fun identity =>
      (f.failsFatally_addFunction _).bind fun f' => .ok _

end

/-! ### Moments of failure -/

/-- The issue of something that may fail. -/
def issue? {α : Type} : Except Issue α → Option Issue
  | .error issue => some issue
  | .ok _ => none

lemma eq_error_of_issue? {α : Type} {e : Except Issue α} {issue : Issue}
    (h : issue? e = some issue) : e = .error issue := by
  cases e with
  | error issue' => exact congrArg Except.error (Option.some.inj h)
  | ok a => cases h

namespace Moment

variable (options : Options) (m : Moment Findings)

/-- The issue of a declaration that fails where it is visited. A group of properties or constants
fails only outside all classes. -/
def failure? : Option Issue :=
  match m.node.kind with
  | .useDecl => issue? (m.scope.afterUse m.node)
  | .groupUse => issue? (m.scope.afterGroupUse m.node)
  | .classDecl => issue? (declareClass options m.node m.scope m.state)
  | .traitUse => issue? (useTraits m.node m.scope m.state)
  | .methodDecl => issue? (declareMethod options m.node m.scope m.state)
  | .functionDecl => issue? (declareFunction options m.node m.scope m.state)
  | .propertyGroup => if m.scope.class? = none then some .propertyOutsideClass else none
  | .constantGroup => if m.scope.class? = none then some .constantOutsideClass else none
  | _ => none

variable {options m} {issue : Issue}

/-- Names and parameters do not fail. -/
lemma kind_of_failure? (h : m.failure? options = some issue) :
    m.node.kind ≠ .name ∧ m.node.kind ≠ .param := by
  constructor
  all_goals
    intro hkind
    simp only [failure?, hkind] at h
    cases h

/-- A failure is fatal. -/
theorem category_of_failure? (h : m.failure? options = some issue) : issue.category = .fatal := by
  rw [failure?] at h
  split at h
  · exact m.scope.failsFatally_afterUse m.node issue (eq_error_of_issue? h)
  · exact m.scope.failsFatally_afterGroupUse m.node issue (eq_error_of_issue? h)
  · exact failsFatally_declareClass _ _ _ _ issue (eq_error_of_issue? h)
  · exact failsFatally_useTraits _ _ _ issue (eq_error_of_issue? h)
  · exact failsFatally_declareMethod _ _ _ _ issue (eq_error_of_issue? h)
  · exact failsFatally_declareFunction _ _ _ _ issue (eq_error_of_issue? h)
  · split at h <;> cases h
    rfl
  · split at h <;> cases h
    rfl
  · cases h

/-- **A failure is reported at the line of the declaration**, and this is all that its visit does:
the scope stays as it was, and what is below the declaration is passed over. -/
theorem visit_of_failure? (files : SourceFiles) (h : m.failure? options = some issue) :
    visit options files m.node m.scope m.state =
      (.skip m.scope, m.state.note m.scope m.node.line issue) := by
  rw [failure?] at h
  split at h
  all_goals
    rename_i hkind
    simp only [visit, hkind]
  · rw [eq_error_of_issue? h]
    rfl
  · rw [eq_error_of_issue? h]
  · rw [eq_error_of_issue? h]
    rfl
  · rw [eq_error_of_issue? h]
    rfl
  · rw [eq_error_of_issue? h]
    rfl
  · rw [eq_error_of_issue? h]
    rfl
  · split at h <;> cases h
    rename_i hclass
    simp only [declareProperties, hclass]
  · split at h <;> cases h
    rename_i hclass
    simp only [declareConstants, hclass]
  · cases h

end Moment

end PhpIndex
