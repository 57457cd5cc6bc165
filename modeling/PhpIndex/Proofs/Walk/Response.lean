import Mathlib.Tactic.Common
import PhpIndex.Proofs.Walk.Accepted

/-!
What a visit answers: how the walk goes on, what is reported and what is counted.

* `Scope.flow`: how a walk goes on at a node; `Scope.Entered`, `Scope.entered_of_flow`: the scope
  below it, one form for each kind of node that opens one;
* `Scope.KeepsImports`: changes of a scope that leave its imports and its file alone, so that
  declarations import into the changed scope as into the scope itself;
* `Scope.reports`: the problems that are reported at a node, of which none depends on what the
  registry holds;
* `Registered.noteAll`: the counts of a walk's own declarations after some operations;
* `Answered`, `answered_visit`: in a scope whose declarations are registered every visit answers in
  this way.
-/

namespace PhpIndex

open Text

/-! ### How a walk goes on -/

namespace Flow

/-- The scope that goes on. -/
def scope : Flow → Scope
  | descend s => s
  | skip s => s

end Flow

namespace Scope

/-- How a walk goes on at a node. -/
def flow (s : Scope) (options : Options) (r : Registry) (node : Node) : Flow :=
  match node.kind with
  | .namespaceDecl => .descend (s.enterNamespace ((node.childText? 0).getD ""))
  | .useDecl =>
      match s.afterUse node with
      | .ok s' => .descend s'
      | .error _ => .skip s
  | .groupUse =>
      match s.afterGroupUse node with
      | .ok s' => .skip s'
      | .error _ => .skip s
  | .classDecl =>
      match s.newClass? options r node with
      | none => .skip s
      | some c => .descend ((s.enterClass c.fqsen).withRange node.range)
  | .traitUse =>
      match s.class?, node.childOfKind? 0 .nameList with
      | some _, some _ => .descend s
      | _, _ => .skip s
  | .methodDecl =>
      match s.newMethod? options r node with
      | none => .skip s
      | some m => .descend ((s.enterFunction m.fqsen).withRange node.range)
  | .functionDecl =>
      match s.newFunction? options r node with
      | none => .skip s
      | some g => .descend ((s.enterFunction g.fqsen).withRange node.range)
  | .propertyGroup | .constantGroup => .skip s
  | .closure => .descend s.enterClosure
  | .ifStmt => .descend s.enterBranch
  | _ => .descend s

/-! ### The scope below a node -/

end Scope

/-- Whether a node of the kind opens a scope for what is below it. -/
def Kind.opensScope : Kind → Bool
  | classDecl | methodDecl | functionDecl | closure | ifStmt => true
  | _ => false

lemma Kind.ne_of_opensScope {k l : Kind} (hk : k.opensScope = false) (hl : l.opensScope = true) :
    k ≠ l := by
  rintro rfl
  rw [hk] at hl
  cases hl

namespace Scope

/-- The scope below a node at which the walk goes down. -/
inductive Entered (s : Scope) (options : Options) (r : Registry) (node : Node) : Scope → Prop where
  | inClass (hkind : node.kind = .classDecl) {c : ClassLike}
      (hnew : s.newClass? options r node = some c) :
      Entered s options r node ((s.enterClass c.fqsen).withRange node.range)
  | inMethod (hkind : node.kind = .methodDecl) {m : FunctionLike}
      (hnew : s.newMethod? options r node = some m) :
      Entered s options r node ((s.enterFunction m.fqsen).withRange node.range)
  | inFunction (hkind : node.kind = .functionDecl) {g : FunctionLike}
      (hnew : s.newFunction? options r node = some g) :
      Entered s options r node ((s.enterFunction g.fqsen).withRange node.range)
  | inClosure (hkind : node.kind = .closure) : Entered s options r node s.enterClosure
  | inBranch (hkind : node.kind = .ifStmt) : Entered s options r node s.enterBranch
  /-- Other nodes may change the namespace and the imports. -/
  | onward (hkind : node.kind.opensScope = false) (space : String) (imports : Imports) :
      Entered s options r node { s with space := space, imports := imports }

section

variable {s : Scope}

/-- Elements of a `use` declaration only add imports. -/
lemma eq_of_withElements {kind : Option ImportKind} {common : Option String} {list : Kind}
    {elements : List Node} {s' : Scope} (h : s.withElements kind common list elements = .ok s') :
    s' = { s with imports := s'.imports } := by
  induction elements generalizing s with
  | nil =>
      cases h
      rfl
  | cons element rest ih =>
      rw [withElements, List.foldlM_cons] at h
      cases ht : s.withElement kind common list element with
      | error issue =>
          rw [ht] at h
          cases h
      | ok t =>
          rw [ht] at h
          have hrest := ih h
          have hone : t = { s with imports := t.imports } := by
            rw [withElement] at ht
            split at ht
            · split at ht <;> cases ht
              rfl
            · cases ht
          rw [hone] at hrest
          exact hrest

lemma eq_of_afterUse {node : Node} {s' : Scope} (h : s.afterUse node = .ok s') :
    s' = { s with imports := s'.imports } :=
  eq_of_withElements h

lemma eq_of_afterGroupUse {node : Node} {s' : Scope} (h : s.afterGroupUse node = .ok s') :
    s' = { s with imports := s'.imports } := by
  rw [afterGroupUse] at h
  split at h
  · cases h
  · cases h
  · exact eq_of_withElements h

end

/-! ### Imports in changed scopes -/

/-- A change of scopes that touches neither the imports nor the file. -/
structure KeepsImports (change : Scope → Scope) : Prop where
  withImport : ∀ s kind name target,
    change (withImport s kind name target) = (change s).withImport kind name target
  file : ∀ s, (change s).file = s.file

namespace KeepsImports

variable {change : Scope → Scope} (h : KeepsImports change) (s : Scope)

include h

lemma withElement_map (kind : Option ImportKind) (common : Option String) (list : Kind)
    (element : Node) :
    (change s).withElement kind common list element =
      (s.withElement kind common list element).map change := by
  rw [withElement, withElement]
  split
  · split
    · rfl
    · rfl
    · exact congrArg Except.ok (h.withImport s _ _ _).symm
  · rfl

/-- The elements of a declaration are imported into a changed scope as into the scope itself. -/
lemma withElements_map (kind : Option ImportKind) (common : Option String) (list : Kind)
    (elements : List Node) :
    (change s).withElements kind common list elements =
      (s.withElements kind common list elements).map change := by
  induction elements generalizing s with
  | nil => rfl
  | cons element rest ih =>
      rw [withElements, List.foldlM_cons, h.withElement_map, withElements, List.foldlM_cons]
      cases s.withElement kind common list element with
      | error issue => rfl
      | ok t => exact ih t

lemma afterUse_map (node : Node) :
    (change s).afterUse node = (s.afterUse node).map change :=
  h.withElements_map s _ _ _ _

lemma afterGroupUse_map (node : Node) :
    (change s).afterGroupUse node = (s.afterGroupUse node).map change := by
  rw [afterGroupUse, afterGroupUse]
  split
  · rfl
  · rfl
  · exact h.withElements_map s _ _ _ _

end KeepsImports

section

variable {s : Scope}

/-- A walk that goes down at a node does so in a scope of one of these forms. -/
theorem entered_of_flow {options : Options} {r : Registry} {node : Node} {s' : Scope}
    (h : s.flow options r node = .descend s') : s.Entered options r node s' := by
  rw [flow] at h
  split at h
  all_goals rename_i hkind
  · cases h
    exact .onward (by rw [hkind]; rfl) _ _
  · split at h <;> cases h
    rename_i himport
    rw [eq_of_afterUse himport]
    exact .onward (by rw [hkind]; rfl) s.space _
  · split at h <;> cases h
  · split at h <;> cases h
    rename_i hnew
    exact .inClass hkind hnew
  · split at h <;> cases h
    exact .onward (by rw [hkind]; rfl) s.space s.imports
  · split at h <;> cases h
    rename_i hnew
    exact .inMethod hkind hnew
  · split at h <;> cases h
    rename_i hnew
    exact .inFunction hkind hnew
  · cases h
  · cases h
  · cases h
    exact .inClosure hkind
  · cases h
    exact .inBranch hkind
  · -- all other kinds are known only by not being one of those before
    cases h
    refine .onward ?_ s.space s.imports
    unfold Kind.opensScope
    split
    all_goals first
      | contradiction
      | rfl

end

/-! ### What is reported -/

/-- A problem at a line of the scope's file. -/
def problem (s : Scope) (line : Nat) (issue : Issue) : Problem :=
  { issue := issue, file := s.file, line := line }

/-- The problem of an import that fails. -/
def importProblems (s : Scope) (node : Node) : Except Issue Scope → List Problem
  | .ok _ => []
  | .error issue => [s.problem node.line issue]

/-- An import fails in a changed scope when it does in the scope itself, and with the same
problem. -/
lemma KeepsImports.importProblems_map {change : Scope → Scope} (h : KeepsImports change)
    (s : Scope) (node : Node) (imported : Except Issue Scope) :
    (change s).importProblems node (imported.map change) = s.importProblems node imported := by
  cases imported with
  | ok s' => rfl
  | error issue => simp only [importProblems, Except.map, problem, h.file]

/-- The problem that a compatibility check may find. -/
def checkProblems (s : Scope) (options : Options) (files : SourceFiles) (node : Node) :
    List Problem :=
  (s.compatibilityIssue? options files node).toList.map (s.problem node.line)

/-- The problem of an element of a group of properties: it may lack a name, or its doc comment may
give another type than its default value has. -/
def propertyProblems (s : Scope) (options : Options) (group : Node) (entry : Node × Nat) :
    List Problem :=
  match entry.1.childName? 0 with
  | none =>
      [s.problem (elementLine entry.1 group)
        (Kind.propertyElem.malformed "missing property name")]
  | some name =>
      (typeMismatch? options name (elementDocType? group entry.1 entry.2 name)
        (s.typeOf (elementValue entry.1))).toList.map (s.problem (elementLine entry.1 group))

/-- The problem of an element of a group of constants without a name. -/
def constantProblems (s : Scope) (group element : Node) : List Problem :=
  match constantName? element with
  | none =>
      [s.problem (elementLine element group) (Kind.constantElem.malformed "missing constant name")]
  | some _ => []

/-- The problems that are reported at a node. -/
def reports (s : Scope) (options : Options) (files : SourceFiles) (node : Node) : List Problem :=
  match node.kind with
  | .useDecl => s.importProblems node (s.afterUse node)
  | .groupUse => s.importProblems node (s.afterGroupUse node)
  | .classDecl =>
      match declaredClassName? node with
      | none => [s.problem node.line (Kind.classDecl.malformed "missing class name")]
      | some _ => []
  | .traitUse =>
      match s.class?, node.childOfKind? 0 .nameList with
      | none, _ => [s.problem node.line (Kind.traitUse.malformed "trait use outside a class")]
      | some _, none => [s.problem node.line (Kind.traitUse.malformed "missing trait list")]
      | some _, some _ => []
  | .methodDecl =>
      match node.childName? 0, s.class? with
      | none, _ => [s.problem node.line (Kind.methodDecl.malformed "missing method name")]
      | some name, none => [s.problem node.line (.methodOutsideClass name)]
      | some _, some _ => []
  | .functionDecl =>
      match node.childName? 0 with
      | none => [s.problem node.line (Kind.functionDecl.malformed "missing function name")]
      | some _ => []
  | .propertyGroup =>
      match s.class? with
      | none => [s.problem node.line .propertyOutsideClass]
      | some _ =>
          (node.childNodes.filter (·.kind = .propertyElem)).zipIdx.flatMap
            (s.propertyProblems options node)
  | .constantGroup =>
      match s.class? with
      | none => [s.problem node.line .constantOutsideClass]
      | some _ => node.childNodes.flatMap (s.constantProblems node)
  | .call => if node.readsArguments then [] else s.checkProblems options files node
  | .staticCall | .dim | .methodCall | .returnStmt | .print | .echo =>
      s.checkProblems options files node
  | _ => []

end Scope

/-! ### What is counted -/

namespace Registered

/-- The counts of a walk's own declarations after an operation. -/
def note (n : Registered) : Operation → Registered
  | .count .classes => { n with classes := n.classes + 1 }
  | .count .methods => { n with methods := n.methods + 1 }
  | .count .functions => { n with functions := n.functions + 1 }
  | _ => n

/-- The counts after a row of operations. -/
def noteAll (n : Registered) (ops : List Operation) : Registered := ops.foldl note n

@[simp] lemma noteAll_nil (n : Registered) : n.noteAll [] = n := rfl

lemma noteAll_append (n : Registered) (ops ops' : List Operation) :
    n.noteAll (ops ++ ops') = (n.noteAll ops).noteAll ops' :=
  List.foldl_append

/-- Changes of a class are no declarations. -/
@[simp] lemma noteAll_edit (n : Registered) (s : Scope) (edits : List ClassEdit) :
    n.noteAll (s.edit edits) = n := by
  rw [Scope.edit]
  split
  · rfl
  · induction edits with
    | nil => rfl
    | cons e edits ih => exact ih

end Registered

/-! ### The answers of visits -/

/-- A visit that goes on, reports and counts as a node tells in a scope. -/
structure Answered (options : Options) (files : SourceFiles) (node : Node) (s : Scope)
    (f : Findings) (out : Flow × Findings) : Prop where
  flow_eq : out.1 = s.flow options f.registry node
  problems_eq : out.2.problems = f.problems ++ s.reports options files node
  registered_eq :
    out.2.registered = f.registered.noteAll (s.operations options f.registry node)

namespace Findings

variable (f : Findings) (s : Scope) (line : Nat)

lemma problems_noteIfAny (issue? : Option Issue) :
    (f.noteIfAny s line issue?).problems = f.problems ++ issue?.toList.map (s.problem line) := by
  cases issue? with
  | none => exact (List.append_nil _).symm
  | some issue => rfl

lemma registered_noteIfAny (issue? : Option Issue) :
    (f.noteIfAny s line issue?).registered = f.registered := by
  cases issue? <;> rfl

variable {f} {r : Registry}

lemma addClass_eq_ok {c : ClassLike} (h : f.registry.addClass c = .ok r) :
    f.addClass c = .ok { f with
      registry := r.count .classes
      registered := f.registered.note (.count .classes) } := by
  rw [addClass, h]
  rfl

lemma addMethod_eq_ok {m : FunctionLike} (h : f.registry.addFunction m = .ok r) :
    f.addMethod m = .ok { f with
      registry := r.count .methods
      registered := f.registered.note (.count .methods) } := by
  rw [addMethod, h]
  rfl

lemma addFunction_eq_ok {g : FunctionLike} (h : f.registry.addFunction g = .ok r) :
    f.addFunction g = .ok { f with
      registry := r.count .functions
      registered := f.registered.note (.count .functions) } := by
  rw [addFunction, h]
  rfl

end Findings

section

variable {options : Options} {files : SourceFiles} {node : Node} {s : Scope} {f : Findings}

/-- A visit that reports what is wrong with the node and passes over what is below it. -/
lemma Answered.reported {issue : Issue} (hflow : s.flow options f.registry node = .skip s)
    (hreports : s.reports options files node = [s.problem node.line issue])
    (hops : s.operations options f.registry node = []) :
    Answered options files node s f (.skip s, f.note s node.line issue) := by
  refine ⟨hflow.symm, ?_, ?_⟩
  · rw [hreports]
    rfl
  · rw [hops]
    rfl

/-- A visit that reports nothing and declares nothing. -/
lemma Answered.quiet {flow : Flow} {g : Findings} (hflow : s.flow options f.registry node = flow)
    (hreports : s.reports options files node = [])
    (hops : f.registered.noteAll (s.operations options f.registry node) = f.registered)
    (hg : (g.problems, g.registered) = (f.problems, f.registered)) :
    Answered options files node s f (flow, g) := by
  obtain ⟨hproblems, hregistered⟩ := Prod.mk.inj hg
  exact ⟨hflow.symm, by rw [hreports, List.append_nil, hproblems], hregistered.trans hops.symm⟩

/-! ### Answers at declarations -/

lemma answered_declareClass (hkind : node.kind = .classDecl) :
    Answered options files node s f (enterOrSkip node s f (declareClass options node s f)) := by
  rw [declareClass_eq]
  cases hname : declaredClassName? node with
  | none =>
      have hnew : s.newClass? options f.registry node = none := by simp [Scope.newClass?, hname]
      simp only [hnew]
      refine .reported ?_ ?_ ?_
      · simp only [Scope.flow, hkind, hnew]
      · simp only [Scope.reports, hkind, hname]
      · simp only [Scope.operations, hkind, hnew]
  | some name =>
      obtain ⟨c, hnew⟩ : ∃ c, s.newClass? options f.registry node = some c := by
        simp [Scope.newClass?, hname]
      have hfree := (Scope.newClass?_spec hnew).1.free
      simp only [hnew, Findings.addClass_eq_ok (Registry.addClass_eq_ok_iff.mpr ⟨hfree, rfl⟩)]
      refine ⟨?_, ?_, ?_⟩
      · simp only [Scope.flow, hkind, hnew]
        rfl
      · simp only [Scope.reports, hkind, hname]
        exact (List.append_nil _).symm
      · simp only [Scope.operations, hkind, hnew]
        rfl

lemma answered_declareFunction (hkind : node.kind = .functionDecl) :
    Answered options files node s f (enterOrSkip node s f (declareFunction options node s f)) := by
  rw [declareFunction_eq]
  cases hname : node.childName? 0 with
  | none =>
      have hnew : s.newFunction? options f.registry node = none := by
        simp [Scope.newFunction?, hname]
      simp only [hnew]
      refine .reported ?_ ?_ ?_
      · simp only [Scope.flow, hkind, hnew]
      · simp only [Scope.reports, hkind, hname]
      · simp only [Scope.operations, hkind, hnew]
  | some name =>
      obtain ⟨g, hnew⟩ : ∃ g, s.newFunction? options f.registry node = some g := by
        simp [Scope.newFunction?, hname]
      obtain ⟨hfree, howner⟩ := Scope.newFunction?_spec hnew
      have hadd := Registry.addFunction_eq_ok_iff.mpr ⟨hfree.free, by simp [howner], rfl⟩
      simp only [hnew, Findings.addFunction_eq_ok hadd]
      refine ⟨?_, ?_, ?_⟩
      · simp only [Scope.flow, hkind, hnew]
        rfl
      · simp only [Scope.reports, hkind, hname]
        exact (List.append_nil _).symm
      · simp only [Scope.operations, hkind, hnew]
        rfl

lemma answered_declareMethod (hs : s.Grounded f.registry) (hkind : node.kind = .methodDecl) :
    Answered options files node s f (enterOrSkip node s f (declareMethod options node s f)) := by
  cases hnew : s.newMethod? options f.registry node with
  | none =>
      -- without a name there is no method, nor is there one without a class around it
      cases hname : node.childName? 0 with
      | none =>
          simp only [declareMethod, hname]
          refine .reported ?_ ?_ ?_
          · simp only [Scope.flow, hkind, hnew]
          · simp only [Scope.reports, hkind, hname]
          · simp only [Scope.operations, hkind, hnew]
      | some name =>
          have hclass : s.class? = none := by
            cases hclass : s.class? with
            | none => rfl
            | some owner => simp [Scope.newMethod?, hname, hclass] at hnew
          simp only [declareMethod, hname, Scope.newIdentity, hclass, bind, Except.bind]
          refine .reported ?_ ?_ ?_
          · simp only [Scope.flow, hkind, hnew]
          · simp only [Scope.reports, hkind, hname, hclass]
          · simp only [Scope.operations, hkind, hnew]
  | some m =>
      obtain ⟨hfree, owner, hclass, howner⟩ := Scope.newMethod?_spec hs hnew
      have hadd := Registry.addFunction_eq_ok_iff.mpr ⟨hfree.free, by
        simp [howner, hs.class_registered owner hclass], rfl⟩
      rw [declareMethod_of_some hnew howner, Findings.addMethod_eq_ok hadd]
      obtain ⟨name, hname⟩ : ∃ name, node.childName? 0 = some name := by
        cases hname : node.childName? 0 with
        | none => simp [Scope.newMethod?, hname] at hnew
        | some name => exact ⟨name, rfl⟩
      refine ⟨?_, ?_, ?_⟩
      · simp only [Scope.flow, hkind, hnew]
        rfl
      · simp only [Scope.reports, hkind, hname, hclass]
        exact (List.append_nil _).symm
      · simp only [Scope.operations, hkind, hnew, Registered.noteAll_append,
          Registered.noteAll_edit]
        rfl

/-! ### Answers at members -/

lemma answered_useTraits (hs : s.Grounded f.registry) (hkind : node.kind = .traitUse) :
    Answered options files node s f (enterOrSkip node s f (useTraits node s f)) := by
  rw [useTraits]
  cases hclass : s.class? with
  | none =>
      refine .reported ?_ ?_ ?_
      · simp only [Scope.flow, hkind, hclass]
      · simp only [Scope.reports, hkind, hclass]
      · simp only [Scope.operations, hkind, hclass]
  | some owner =>
      cases hnames : node.childOfKind? 0 .nameList with
      | none =>
          refine .reported ?_ ?_ ?_
          · simp only [Scope.flow, hkind, hclass, hnames]
          · simp only [Scope.reports, hkind, hclass, hnames]
          · simp only [Scope.operations, hkind, hclass, hnames]
      | some names =>
          simp only [hs.class_registered owner hclass, if_true]
          refine ⟨?_, ?_, ?_⟩
          · simp only [Scope.flow, hkind, hclass, hnames]
            rfl
          · simp only [Scope.reports, hkind, hclass, hnames]
            exact (List.append_nil _).symm
          · simp only [Scope.operations, hkind, hclass, hnames, Registered.noteAll_append,
              Registered.noteAll_edit]
            rfl

section

variable {owner : Fqsen}

/-- The properties of a group are reported one after the other. -/
lemma declareElements_reports (options : Options) (group : Node) (s : Scope)
    (elements : List (Node × Nat)) (h : f.registry.hasClass owner = true) :
    (declareElements options group s owner elements f).problems =
        f.problems ++ elements.flatMap (s.propertyProblems options group) ∧
      (declareElements options group s owner elements f).registered = f.registered := by
  induction elements generalizing f with
  | nil => exact ⟨(List.append_nil _).symm, rfl⟩
  | cons head rest ih =>
      obtain ⟨element, index⟩ := head
      rw [declareElements, List.flatMap_cons, ← List.append_assoc, Scope.propertyProblems]
      cases hname : element.childName? 0 with
      | none => exact ih (f := f.note s (elementLine element group) _) h
      | some name =>
          simp only [h, if_true]
          rw [← f.problems_noteIfAny s]
          obtain ⟨g, hg⟩ : ∃ g, f.noteIfAny s (elementLine element group)
            (typeMismatch? options name (elementDocType? group element index name)
              (s.typeOf (elementValue element))) = g := ⟨_, rfl⟩
          have hregistry : g.registry = f.registry := hg ▸ f.registry_noteIfAny _ _ _
          rw [hg, ← f.registered_noteIfAny s (elementLine element group), hg]
          exact ih (f := g.modifyClass owner _)
            ((g.hasClass_modifyClass owner _ owner).trans (hregistry ▸ h))

/-- So are the constants of a group. -/
lemma declareConstantElements_reports (group : Node) (s : Scope) (elements : List Node)
    (h : f.registry.hasClass owner = true) :
    (declareConstantElements group s owner elements f).problems =
        f.problems ++ elements.flatMap (s.constantProblems group) ∧
      (declareConstantElements group s owner elements f).registered = f.registered := by
  induction elements generalizing f with
  | nil => exact ⟨(List.append_nil _).symm, rfl⟩
  | cons element rest ih =>
      rw [declareConstantElements, List.flatMap_cons, ← List.append_assoc, Scope.constantProblems]
      cases hname : constantName? element with
      | none => exact ih (f := f.note s (elementLine element group) _) h
      | some name =>
          simp only [h, if_true, List.append_nil]
          exact ih (f := f.modifyClass owner _) ((f.hasClass_modifyClass owner _ owner).trans h)

end

lemma answered_declareProperties (hs : s.Grounded f.registry)
    (hkind : node.kind = .propertyGroup) :
    Answered options files node s f (.skip s, declareProperties options node s f) := by
  rw [declareProperties]
  cases hclass : s.class? with
  | none =>
      refine .reported ?_ ?_ ?_
      · simp only [Scope.flow, hkind]
      · simp only [Scope.reports, hkind, hclass]
      · simp only [Scope.operations, hkind, Scope.edit_eq_nil hclass]
  | some owner =>
      obtain ⟨hproblems, hregistered⟩ := declareElements_reports options node s
        (node.childNodes.filter (·.kind = .propertyElem)).zipIdx (hs.class_registered owner hclass)
      refine ⟨?_, ?_, ?_⟩
      · simp only [Scope.flow, hkind]
      · simp only [Scope.reports, hkind, hclass]
        exact hproblems
      · simp only [Scope.operations, hkind, Registered.noteAll_edit]
        exact hregistered

lemma answered_declareConstants (hs : s.Grounded f.registry)
    (hkind : node.kind = .constantGroup) :
    Answered options files node s f (.skip s, declareConstants node s f) := by
  rw [declareConstants]
  cases hclass : s.class? with
  | none =>
      refine .reported ?_ ?_ ?_
      · simp only [Scope.flow, hkind]
      · simp only [Scope.reports, hkind, hclass]
      · simp only [Scope.operations, hkind, Scope.edit_eq_nil hclass]
  | some owner =>
      obtain ⟨hproblems, hregistered⟩ := declareConstantElements_reports node s node.childNodes
        (hs.class_registered owner hclass)
      refine ⟨?_, ?_, ?_⟩
      · simp only [Scope.flow, hkind]
      · simp only [Scope.reports, hkind, hclass]
        exact hproblems
      · simp only [Scope.operations, hkind, Registered.noteAll_edit]
        exact hregistered

/-! ### Answers at calls -/

/-- A visit that only checks the node. -/
lemma Answered.checked (hflow : s.flow options f.registry node = .descend s)
    (hreports : s.reports options files node = s.checkProblems options files node)
    (hops : f.registered.noteAll (s.operations options f.registry node) = f.registered)
    {g : Findings} (hproblems : g.problems = f.problems)
    (hregistered : g.registered = f.registered) :
    Answered options files node s f (.descend s, s.check options files node g) := by
  refine ⟨hflow.symm, ?_, ?_⟩
  · rw [hreports, ← hproblems]
    exact g.problems_noteIfAny s node.line _
  · rw [hops, ← hregistered]
    exact g.registered_noteIfAny s node.line _

lemma answered_visitCall (hkind : node.kind = .call) :
    Answered options files node s f (.descend s, visitCall options files node s f) := by
  have hflow : s.flow options f.registry node = .descend s := by simp only [Scope.flow, hkind]
  rw [visitCall]
  by_cases hreads : node.readsArguments
  · rw [if_pos hreads]
    refine ⟨hflow.symm, ?_, ?_⟩
    · simp only [Scope.reports, hkind, hreads, if_true, List.append_nil, noteArgumentReader]
      split <;> try split
      all_goals rfl
    · simp only [Scope.operations, hkind, hreads, Bool.true_and, noteArgumentReader]
      cases s.function? <;> cases s.inClosure <;> rfl
  · rw [if_neg hreads]
    refine .checked hflow ?_ ?_ rfl rfl
    · simp only [Scope.reports, hkind, if_neg hreads]
    · simp only [Scope.operations, hkind, hreads, Bool.false_and, Bool.false_eq_true, if_false,
        Registered.noteAll_nil]

lemma answered_visitStaticCall (hkind : node.kind = .staticCall) :
    Answered options files node s f (.descend s, visitStaticCall options files node s f) := by
  rw [visitStaticCall]
  refine .checked ?_ ?_ ?_ ?_ ?_
  · simp only [Scope.flow, hkind]
  · simp only [Scope.reports, hkind]
  · simp only [Scope.operations, hkind]
    split <;> simp
  all_goals
    rw [noteParentConstructorCall]
    split <;> try split
    all_goals rfl

/-! ### All visits -/

/-- A visit that adds imports, or reports why it cannot. -/
lemma Answered.imported (imported : Except Issue Scope) (goOn : Scope → Flow) :
    (s.flow options f.registry node =
      match imported with
      | .ok s' => goOn s'
      | .error _ => .skip s) →
    s.reports options files node = s.importProblems node imported →
    s.operations options f.registry node = [] →
    Answered options files node s f
      (match imported with
        | .ok s' => (goOn s', f)
        | .error issue => (.skip s, f.note s node.line issue)) := by
  intro hflow hreports hops
  cases imported with
  | error issue => exact .reported hflow hreports hops
  | ok s' => exact .quiet hflow hreports (by rw [hops, Registered.noteAll_nil]) rfl

lemma enterOrSkip_map (imported : Except Issue Scope) :
    enterOrSkip node s f (imported.map (·, f)) =
      match imported with
      | .ok s' => (.descend s', f)
      | .error issue => (.skip s, f.note s node.line issue) := by
  cases imported <;> rfl

/-- **Visits answer**: in a scope whose declarations are registered the node and the scope tell how
the walk goes on, what is reported and what is counted. -/
theorem answered_visit (options : Options) (files : SourceFiles) (hs : s.Grounded f.registry)
    (node : Node) :
    Answered options files node s f (visit options files node s f) := by
  rw [visit]
  split
  all_goals rename_i hkind
  · refine .quiet ?_ ?_ ?_ rfl
    · simp only [Scope.flow, hkind]
    · simp only [Scope.reports, hkind]
    · simp only [Scope.operations, hkind, Registered.noteAll_nil]
  · rw [enterOrSkip_map]
    refine .imported (s.afterUse node) .descend ?_ ?_ ?_
    · simp only [Scope.flow, hkind]
    · simp only [Scope.reports, hkind]
    · simp only [Scope.operations, hkind]
  · refine .imported (s.afterGroupUse node) .skip ?_ ?_ ?_
    · simp only [Scope.flow, hkind]
    · simp only [Scope.reports, hkind]
    · simp only [Scope.operations, hkind]
  · exact answered_declareClass hkind
  · exact answered_useTraits hs hkind
  · exact answered_declareMethod hs hkind
  · exact answered_declareFunction hkind
  · exact answered_declareProperties hs hkind
  · exact answered_declareConstants hs hkind
  · refine .quiet ?_ ?_ ?_ rfl
    · simp only [Scope.flow, hkind]
    · simp only [Scope.reports, hkind]
    · simp only [Scope.operations, hkind]
      rfl
  · refine .quiet ?_ ?_ ?_ rfl
    · simp only [Scope.flow, hkind]
    · simp only [Scope.reports, hkind]
    · simp only [Scope.operations, hkind]
      rfl
  · exact answered_visitCall hkind
  · exact answered_visitStaticCall hkind
  -- expressions that are checked and nothing else
  iterate 5
    · refine .checked ?_ ?_ ?_ rfl rfl
      · simp only [Scope.flow, hkind]
      · simp only [Scope.reports, hkind]
      · simp only [Scope.operations, hkind, Registered.noteAll_nil]
  · -- nodes of all other kinds only lead to their subtrees
    refine .quiet ?_ ?_ ?_ rfl
    · rw [Scope.flow]
      split
      all_goals first
        | contradiction
        | rfl
    · rw [Scope.reports]
      split
      all_goals first
        | contradiction
        | rfl
    · rw [Scope.operations]
      split
      all_goals first
        | contradiction
        | rfl

end

end PhpIndex
