import Mathlib.Tactic.Common
import PhpIndex.Proofs.Registry.Alternates
import PhpIndex.Proofs.Walk.Frame
import PhpIndex.Walk.Visit

/-!
What a visit does to the registry.

* `Scope.newClass?`, `newMethod?`, `newFunction?`: the declaration that a node makes, with the
  identity that it gets;
* `Scope.operations`: what is done to the registry at a node, as a row of operations;
* `Findings.refusals`: the problems that are refusals of the registry, with the issues that never
  are;
* `Scope.Importing`: what an import gives;
* `Scope.newClass?_spec`, `newMethod?_spec`, `newFunction?_spec`: the identity of a new declaration
  is free, and that of a method leads back to its class;
* `declareClass_eq`, `declareMethod_of_some`, `declareFunction_eq`: a declaration is the
  registration of what the node declares.
-/

namespace PhpIndex

open Text

/-! ### The operations at a node -/

/-- What the name of a method says about its class. -/
def methodEdits (name : String) : List ClassEdit :=
  if eqIgnoreAsciiCase name constructorName then [.requireParentCall]
  else if eqIgnoreAsciiCase name invokeName then [.markCallable]
  else []

/-- The properties of a group, each element with its place. -/
def propertyEdits (group : Node) (s : Scope) (elements : List (Node × Nat)) : List ClassEdit :=
  elements.filterMap fun (element, index) =>
    (element.childName? 0).map fun name => .addProperty (s.propertyFrom group element index name)

/-- The constants of a group. -/
def constantEdits (group : Node) (s : Scope) (elements : List Node) : List ClassEdit :=
  elements.filterMap fun element =>
    (constantName? element).map fun name => .addConstant (s.constantFrom group element name)

namespace Scope

/-- The class that a node declares. -/
def newClass? (s : Scope) (options : Options) (r : Registry) (node : Node) : Option ClassLike :=
  (declaredClassName? node).map fun name =>
    s.classFrom options node (r.freeClass (.ofClass s.space name)) name

/-- The method that a node declares in the class around it. -/
def newMethod? (s : Scope) (options : Options) (r : Registry) (node : Node) :
    Option FunctionLike :=
  s.class?.bind fun owner => (node.childName? 0).map fun name =>
    s.methodFrom options node (r.freeFunction (owner.member name)) name

/-- The function that a node declares. -/
def newFunction? (s : Scope) (options : Options) (r : Registry) (node : Node) :
    Option FunctionLike :=
  (node.childName? 0).map fun name =>
    s.functionFrom options node (r.freeFunction (.ofFunction s.space name)) name

/-- What is done to the registry at a node. -/
def operations (s : Scope) (options : Options) (r : Registry) (node : Node) : List Operation :=
  match node.kind with
  | .classDecl =>
      match s.newClass? options r node with
      | none => []
      | some c => [.addClass c, .count .classes]
  | .methodDecl =>
      match s.newMethod? options r node with
      | none => []
      | some m => [.addFunction m, .count .methods] ++ s.edit (methodEdits m.name)
  | .functionDecl =>
      match s.newFunction? options r node with
      | none => []
      | some f => [.addFunction f, .count .functions]
  | .traitUse =>
      match s.class?, node.childOfKind? 0 .nameList with
      | some _, some names =>
          s.edit ((names.childNodes.filterMap s.resolveClass?).map .addTrait) ++ [.count .traits]
      | _, _ => []
  | .propertyGroup =>
      s.edit (propertyEdits node s (node.childNodes.filter (·.kind = .propertyElem)).zipIdx)
  | .constantGroup => s.edit (constantEdits node s node.childNodes)
  | .closure => [.count .closures]
  | .ifStmt => [.count .conditionals]
  | .call =>
      if node.readsArguments && !s.inClosure then s.function?.toList.map .acceptAny else []
  | .staticCall => if node.callsParentConstructor then s.edit [.noteParentCall] else []
  | _ => []

end Scope

/-! ### Refusals -/

/-- Whether the registry refused a declaration. -/
def Issue.isRefusal : Issue → Bool
  | refused _ => true
  | _ => false

namespace Findings

/-- The problems that are refusals of the registry. -/
def refusals (f : Findings) : List Problem := f.problems.filter (·.issue.isRefusal)

variable (f : Findings) (s : Scope) (line : Nat)

lemma refusals_note {issue : Issue} (h : issue.isRefusal = false) :
    (f.note s line issue).refusals = f.refusals := by
  simp [refusals, note, h]

lemma refusals_noteIfAny {issue? : Option Issue}
    (h : ∀ issue, issue? = some issue → issue.isRefusal = false) :
    (f.noteIfAny s line issue?).refusals = f.refusals := by
  cases issue? with
  | none => rfl
  | some issue => exact f.refusals_note s line (h issue rfl)

lemma registry_noteIfAny (issue? : Option Issue) :
    (f.noteIfAny s line issue?).registry = f.registry := by
  cases issue? <;> rfl

lemma hasClass_modifyClass (name : Fqsen) (change : ClassLike → ClassLike) (k : Fqsen) :
    (f.modifyClass name change).registry.hasClass k = f.registry.hasClass k :=
  f.registry.hasClass_modifyClass name change k

end Findings

/-- A compatibility check tells nothing about the registry. -/
lemma Scope.isRefusal_of_compatibilityIssue? {s : Scope} {options : Options} {files : SourceFiles}
    {node : Node} {issue : Issue} (h : s.compatibilityIssue? options files node = some issue) :
    issue.isRefusal = false := by
  rw [Scope.compatibilityIssue?] at h
  split at h
  · obtain ⟨expression, -, h⟩ := Option.bind_eq_some_iff.mp h
    split at h
    · split at h <;> cases h
      rfl
    · cases h
    · cases h
  · cases h

/-- Nor does the check of a property's type. -/
lemma isRefusal_of_typeMismatch? {options : Options} {name : String} {docType : Option UnionType}
    {inferred : UnionType} {issue : Issue}
    (h : typeMismatch? options name docType inferred = some issue) :
    issue.isRefusal = false := by
  obtain ⟨type, -, h⟩ := Option.bind_eq_some_iff.mp h
  split at h <;> cases h
  rfl

/-! ### Namespaces and imports -/

/-- What a `use` declaration may give: a scope of the same declarations, or a problem that is no
refusal. -/
def Scope.Importing (s : Scope) : Except Issue Scope → Prop
  | .ok s' => s'.class? = s.class? ∧ s'.function? = s.function?
  | .error issue => issue.isRefusal = false

namespace Scope

variable (s : Scope)

@[simp] lemma class?_enterNamespace (space : String) :
    (s.enterNamespace space).class? = s.class? := by
  rw [enterNamespace]

@[simp] lemma function?_enterNamespace (space : String) :
    (s.enterNamespace space).function? = s.function? := by
  rw [enterNamespace]

lemma class?_after (kind : Kind) (left : Scope) : (s.after kind left).class? = s.class? := by
  rw [after]
  split
  · rfl
  · rw [moveTo]

lemma function?_after (kind : Kind) (left : Scope) :
    (s.after kind left).function? = s.function? := by
  rw [after]
  split
  · rfl
  · rw [moveTo]

lemma importing_withElement (kind : Option ImportKind) (common : Option String) (list : Kind)
    (element : Node) : s.Importing (s.withElement kind common list element) := by
  rw [withElement]
  split
  · split
    · rfl
    · rfl
    · exact ⟨rfl, rfl⟩
  · rfl

lemma importing_withElements (kind : Option ImportKind) (common : Option String) (list : Kind)
    (elements : List Node) : s.Importing (s.withElements kind common list elements) := by
  induction elements generalizing s with
  | nil => exact ⟨rfl, rfl⟩
  | cons element rest ih =>
      have hone := s.importing_withElement kind common list element
      rw [withElements, List.foldlM_cons]
      cases ht : s.withElement kind common list element with
      | error issue => rwa [ht] at hone
      | ok t =>
          rw [ht] at hone
          show s.Importing (t.withElements kind common list rest)
          have hrest := ih t
          cases hs' : t.withElements kind common list rest with
          | error issue => rwa [hs'] at hrest
          | ok s' =>
              rw [hs'] at hrest
              exact ⟨hrest.1.trans hone.1, hrest.2.trans hone.2⟩

lemma importing_afterUse (node : Node) : s.Importing (s.afterUse node) :=
  s.importing_withElements _ _ _ _

lemma importing_afterGroupUse (node : Node) : s.Importing (s.afterGroupUse node) := by
  rw [afterGroupUse]
  split
  · rfl
  · rfl
  · exact s.importing_withElements _ _ _ _

end Scope

/-! ### New declarations -/

namespace Scope

variable {s : Scope} {options : Options} {r : Registry} {node : Node}

/-- A new class has the first identity of its name that is free. -/
lemma newClass?_spec {c : ClassLike} (h : s.newClass? options r node = some c) :
    IsLeastFree r.hasClass c.fqsen ∧ ∃ name, c.fqsen.element = .classLike name := by
  obtain ⟨name, -, rfl⟩ := Option.map_eq_some_iff.mp h
  exact ⟨r.freeClass_isLeastFree _, name, rfl⟩

/-- The identity for a method leads back to the class around the place. -/
lemma Grounded.owner?_freeFunction_member (hs : s.Grounded r) {owner : Fqsen}
    (howner : s.class? = some owner) (name : String) :
    (r.freeFunction (owner.member name)).owner? = some owner := by
  rw [← hs.member_owner owner howner name]
  -- an alternate of a member is a member of the same class
  obtain ⟨path, element, alternate⟩ := owner
  cases element <;> rfl

/-- So has a new method, and it is one of the class around the place. -/
lemma newMethod?_spec (hs : s.Grounded r) {m : FunctionLike}
    (h : s.newMethod? options r node = some m) :
    IsLeastFree r.hasFunction m.fqsen ∧
      ∃ owner, s.class? = some owner ∧ m.fqsen.owner? = some owner := by
  obtain ⟨owner, howner, h⟩ := Option.bind_eq_some_iff.mp h
  obtain ⟨name, -, rfl⟩ := Option.map_eq_some_iff.mp h
  exact ⟨r.freeFunction_isLeastFree _, owner, howner, hs.owner?_freeFunction_member howner name⟩

/-- So has a new function, which is one of no class. -/
lemma newFunction?_spec {g : FunctionLike} (h : s.newFunction? options r node = some g) :
    IsLeastFree r.hasFunction g.fqsen ∧ g.fqsen.owner? = none := by
  obtain ⟨name, -, rfl⟩ := Option.map_eq_some_iff.mp h
  exact ⟨r.freeFunction_isLeastFree _, rfl⟩

end Scope

section

variable {options : Options} {node : Node} {s : Scope} {f : Findings}

lemma declareClass_eq :
    declareClass options node s f =
      match s.newClass? options f.registry node with
      | none => .error (Kind.classDecl.malformed "missing class name")
      | some c =>
          (f.addClass c).map fun f' => ((s.enterClass c.fqsen).withRange node.range, f') := by
  rw [declareClass, Scope.newClass?]
  cases declaredClassName? node with
  | none => rfl
  | some name => exact (map_eq_pure_bind _ (f.addClass _)).symm

lemma declareFunction_eq :
    declareFunction options node s f =
      match s.newFunction? options f.registry node with
      | none => .error (Kind.functionDecl.malformed "missing function name")
      | some g =>
          (f.addFunction g).map fun f' => ((s.enterFunction g.fqsen).withRange node.range, f') := by
  rw [declareFunction, Scope.newFunction?]
  cases node.childName? 0 with
  | none => rfl
  | some name => exact (map_eq_pure_bind _ (f.addFunction _)).symm

/-- Without a name or a class around it a method is reported. -/
lemma declareMethod_of_none (h : s.newMethod? options f.registry node = none) :
    ∃ issue, issue.isRefusal = false ∧ declareMethod options node s f = .error issue := by
  rw [declareMethod]
  cases hname : node.childName? 0 with
  | none => exact ⟨_, rfl, rfl⟩
  | some name =>
      cases hclass : s.class? with
      | none =>
          refine ⟨.methodOutsideClass name, rfl, ?_⟩
          simp only [Scope.newIdentity, hclass]
          rfl
      | some owner => simp [Scope.newMethod?, hname, hclass] at h

lemma declareMethod_of_some {m : FunctionLike} {owner : Fqsen}
    (h : s.newMethod? options f.registry node = some m) (howner : m.fqsen.owner? = some owner) :
    declareMethod options node s f = (f.addMethod m).map fun f' =>
      ((s.enterFunction m.fqsen).withRange node.range,
        f'.modifyClass owner (·.withMethodNamed m.name)) := by
  obtain ⟨around, haround, h⟩ := Option.bind_eq_some_iff.mp h
  obtain ⟨name, hname, rfl⟩ := Option.map_eq_some_iff.mp h
  have hidentity : (f.registry.freeFunction (around.member name)).owner? = some owner := howner
  rw [declareMethod, hname]
  simp only [Scope.newIdentity, haround, bind, Except.bind, hidentity]
  cases f.addMethod _ <;> rfl

end

/-- All that the name of a method says about its class. -/
lemma foldl_methodEdits (name : String) (c : ClassLike) :
    (methodEdits name).foldl (fun c e => e.apply c) c = c.withMethodNamed name := by
  rw [methodEdits, ClassLike.withMethodNamed]
  split
  · rfl
  · split <;> rfl

/-! ### Declarations that the registry accepts -/

namespace Findings

variable {f : Findings} {r : Registry}

lemma addClass_of_ok {c : ClassLike} (h : f.registry.addClass c = .ok r) :
    ∃ f', f.addClass c = .ok f' ∧ f'.registry = r.count .classes ∧ f'.refusals = f.refusals := by
  simp only [addClass, h]
  exact ⟨_, rfl, rfl, rfl⟩

lemma addMethod_of_ok {m : FunctionLike} (h : f.registry.addFunction m = .ok r) :
    ∃ f', f.addMethod m = .ok f' ∧ f'.registry = r.count .methods ∧ f'.refusals = f.refusals := by
  simp only [addMethod, h]
  exact ⟨_, rfl, rfl, rfl⟩

lemma addFunction_of_ok {g : FunctionLike} (h : f.registry.addFunction g = .ok r) :
    ∃ f', f.addFunction g = .ok f' ∧ f'.registry = r.count .functions ∧
      f'.refusals = f.refusals := by
  simp only [addFunction, h]
  exact ⟨_, rfl, rfl, rfl⟩

end Findings

/-! ### Groups of members -/

section

variable (group : Node) (s : Scope) {f : Findings} {owner : Fqsen}

/-- The properties of a group are declared one after the other. -/
lemma declareElements_spec (options : Options) {elements : List (Node × Nat)}
    (h : f.registry.hasClass owner = true) :
    (declareElements options group s owner elements f).registry =
        performAll ((propertyEdits group s elements).map (.editClass owner)) f.registry ∧
      (declareElements options group s owner elements f).refusals = f.refusals := by
  induction elements generalizing f with
  | nil => exact ⟨rfl, rfl⟩
  | cons head rest ih =>
      obtain ⟨element, index⟩ := head
      rw [declareElements, propertyEdits]
      cases hname : element.childName? 0 with
      | none =>
          rw [List.filterMap_cons_none (by simp [hname])]
          obtain ⟨hregistry, hrefusals⟩ := ih (f := f.note s (elementLine element group) _) h
          exact ⟨hregistry, hrefusals.trans (f.refusals_note _ _ rfl)⟩
      | some name =>
          rw [List.filterMap_cons_some (by simp only [hname]; rfl)]
          simp only [h, if_true]
          -- a mismatch of types is reported before the property is declared
          obtain ⟨g, hg⟩ : ∃ g, f.noteIfAny s (elementLine element group)
            (typeMismatch? options name (elementDocType? group element index name)
              (s.typeOf (elementValue element))) = g := ⟨_, rfl⟩
          have hgregistry : g.registry = f.registry := hg ▸ f.registry_noteIfAny _ _ _
          have hgrefusals : g.refusals = f.refusals :=
            hg ▸ f.refusals_noteIfAny _ _ fun _ => isRefusal_of_typeMismatch?
          rw [hg]
          obtain ⟨hregistry, hrefusals⟩ := ih (f := g.modifyClass owner _)
            ((g.hasClass_modifyClass owner _ owner).trans (hgregistry ▸ h))
          refine ⟨hregistry.trans ?_, hrefusals.trans hgrefusals⟩
          rw [List.map_cons, performAll_cons, ← hgregistry]
          rfl

/-- So are the constants of a group. -/
lemma declareConstantElements_spec {elements : List Node}
    (h : f.registry.hasClass owner = true) :
    (declareConstantElements group s owner elements f).registry =
        performAll ((constantEdits group s elements).map (.editClass owner)) f.registry ∧
      (declareConstantElements group s owner elements f).refusals = f.refusals := by
  induction elements generalizing f with
  | nil => exact ⟨rfl, rfl⟩
  | cons element rest ih =>
      rw [declareConstantElements, constantEdits]
      cases hname : constantName? element with
      | none =>
          rw [List.filterMap_cons_none (by simp [hname])]
          obtain ⟨hregistry, hrefusals⟩ := ih (f := f.note s (elementLine element group) _) h
          exact ⟨hregistry, hrefusals.trans (f.refusals_note _ _ rfl)⟩
      | some name =>
          rw [List.filterMap_cons_some (by simp only [hname]; rfl)]
          simp only [h, if_true]
          exact ih (f := f.modifyClass owner _) ((f.hasClass_modifyClass owner _ owner).trans h)

end

/-! ### Checks -/

section

variable (options : Options) (files : SourceFiles) (node : Node) (s : Scope) (f : Findings)

lemma registry_check : (s.check options files node f).registry = f.registry :=
  f.registry_noteIfAny s _ _

lemma refusals_check : (s.check options files node f).refusals = f.refusals :=
  f.refusals_noteIfAny s _ fun _ => Scope.isRefusal_of_compatibilityIssue?

end

end PhpIndex
