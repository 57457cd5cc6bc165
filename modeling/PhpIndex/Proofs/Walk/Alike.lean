import PhpIndex.Proofs.Registry.Likeness
import PhpIndex.Proofs.Walk.Lockstep
import PhpIndex.Proofs.Walk.Response

/-!
Visits in scopes that are the same but for the declarations around them.

* `Scope.inside`: a scope with other declarations around it; `Scope.reports_inside`: what is
  reported is the same, unless one of the scopes is outside all classes;
* `Scope.Alike`: scopes that are the same but for alternate ids;
* `Scope.Alike.operations`: the operations at a node are alike, whatever the registries;
* `Scope.Alike.flow`: a walk goes on in scopes that are alike, once the new declarations are
  paired.
-/

namespace PhpIndex

namespace Scope

/-- The scope with another class and another function around it. -/
def inside (s : Scope) (class? function? : Option Fqsen) : Scope :=
  { s with class? := class?, function? := function? }

section

variable (s : Scope) (class? function? : Option Fqsen)

lemma enterNamespace_inside (space : String) :
    (s.inside class? function?).enterNamespace space =
      (s.enterNamespace space).inside class? function? := by
  simp only [enterNamespace, inside]

lemma moveTo_inside (space : String) :
    (s.inside class? function?).moveTo space = (s.moveTo space).inside class? function? := by
  by_cases h : namespaceForm space = s.space <;> simp [moveTo, inside, h]

lemma after_inside (kind : Kind) (left : Scope) (class?' function?' : Option Fqsen) :
    (s.inside class? function?).after kind (left.inside class?' function?') =
      (s.after kind left).inside class? function? := by
  rw [after, after]
  split
  · rfl
  · exact s.moveTo_inside class? function? left.space

/-! ### Imports -/

lemma keepsImports_inside : KeepsImports (·.inside class? function?) :=
  ⟨fun _ _ _ _ => rfl, fun _ => rfl⟩

lemma afterUse_inside (node : Node) :
    (s.inside class? function?).afterUse node =
      (s.afterUse node).map (·.inside class? function?) :=
  (keepsImports_inside class? function?).afterUse_map s node

lemma afterGroupUse_inside (node : Node) :
    (s.inside class? function?).afterGroupUse node =
      (s.afterGroupUse node).map (·.inside class? function?) :=
  (keepsImports_inside class? function?).afterGroupUse_map s node

lemma importProblems_inside (node : Node) (imported : Except Issue Scope) :
    (s.inside class? function?).importProblems node (imported.map (·.inside class? function?)) =
      s.importProblems node imported :=
  (keepsImports_inside class? function?).importProblems_map s node imported

/-! ### Reports -/

/-- What is reported at a node depends on whether there is a class around it, but not on which. -/
theorem reports_inside (h : class?.isSome = s.class?.isSome) (options : Options)
    (files : SourceFiles) (node : Node) :
    (s.inside class? function?).reports options files node = s.reports options files node := by
  have hclass : class? = none ∧ s.class? = none ∨
      (∃ k, class? = some k) ∧ ∃ l, s.class? = some l := by
    cases class? <;> cases hs : s.class? <;> simp_all
  obtain ⟨kind, hkind⟩ : ∃ kind, node.kind = kind := ⟨_, rfl⟩
  simp only [reports, hkind]
  cases kind
  case useDecl =>
    simp only [afterUse_inside, importProblems_inside]
  case groupUse =>
    simp only [afterGroupUse_inside, importProblems_inside]
  case traitUse =>
    rcases hclass with ⟨rfl, hs⟩ | ⟨⟨k, rfl⟩, l, hs⟩ <;> simp only [hs]
    · rfl
    · cases node.childOfKind? 0 .nameList <;> rfl
  case methodDecl =>
    rcases hclass with ⟨rfl, hs⟩ | ⟨⟨k, rfl⟩, l, hs⟩ <;> simp only [hs] <;>
      cases node.childName? 0 <;> rfl
  case propertyGroup | constantGroup =>
    rcases hclass with ⟨rfl, hs⟩ | ⟨⟨k, rfl⟩, l, hs⟩ <;> simp only [hs] <;> rfl
  all_goals rfl

end

/-! ### Scopes that are alike -/

/-- Scopes that are the same but for the declarations around them, which are paired. -/
structure Alike (classes functions : List (Fqsen × Fqsen)) (s t : Scope) : Prop where
  inside_eq : s.inside t.class? t.function? = t
  class_paired : Paired classes s.class? t.class?
  function_paired : Paired functions s.function? t.function?

namespace Alike

variable {classes functions classes' functions' : List (Fqsen × Fqsen)} {s t s' t' : Scope}

lemma mono (h : Alike classes functions s t) (hclasses : classes ⊆ classes')
    (hfunctions : functions ⊆ functions') : Alike classes' functions' s t :=
  ⟨h.inside_eq, h.class_paired.mono hclasses, h.function_paired.mono hfunctions⟩

lemma space_eq (h : Alike classes functions s t) : s.space = t.space := by
  rw [← h.inside_eq]
  rfl

lemma imports_eq (h : Alike classes functions s t) : s.imports = t.imports := by
  rw [← h.inside_eq]
  rfl

lemma after (h : Alike classes functions s t) (kind : Kind) (h' : Alike classes functions s' t') :
    Alike classes functions (s.after kind s') (t.after kind t') := by
  refine ⟨?_, ?_, ?_⟩
  · rw [class?_after, function?_after, ← after_inside s _ _ kind s' t'.class? t'.function?,
      h.inside_eq, h'.inside_eq]
  · rw [class?_after, class?_after]
    exact h.class_paired
  · rw [function?_after, function?_after]
    exact h.function_paired

/-- Below two classes that are paired. -/
lemma enterClass (h : Alike classes functions s t) (range : LineRange) {k l : Fqsen}
    (hkl : (k, l) ∈ classes') :
    Alike classes' functions' ((s.enterClass k).withRange range)
      ((t.enterClass l).withRange range) where
  inside_eq := congrArg (fun s => (s.enterClass l).withRange range) h.inside_eq
  class_paired := .some hkl
  function_paired := .none

/-- Below two functions that are paired. -/
lemma enterFunction (h : Alike classes functions s t) (range : LineRange) {k l : Fqsen}
    (hkl : (k, l) ∈ functions) :
    Alike classes functions ((s.enterFunction k).withRange range)
      ((t.enterFunction l).withRange range) where
  inside_eq := congrArg (fun s => (s.enterFunction l).withRange range) h.inside_eq
  class_paired := h.class_paired
  function_paired := .some hkl

lemma enterClosure (h : Alike classes functions s t) :
    Alike classes functions s.enterClosure t.enterClosure :=
  ⟨congrArg Scope.enterClosure h.inside_eq, h.class_paired, h.function_paired⟩

lemma enterBranch (h : Alike classes functions s t) :
    Alike classes functions s.enterBranch t.enterBranch :=
  ⟨congrArg Scope.enterBranch h.inside_eq, h.class_paired, h.function_paired⟩

lemma enterNamespace (h : Alike classes functions s t) (space : String) :
    Alike classes functions (s.enterNamespace space) (t.enterNamespace space) where
  inside_eq := by
    rw [class?_enterNamespace, function?_enterNamespace, ← enterNamespace_inside, h.inside_eq]
  class_paired := by
    rw [class?_enterNamespace, class?_enterNamespace]
    exact h.class_paired
  function_paired := by
    rw [function?_enterNamespace, function?_enterNamespace]
    exact h.function_paired

lemma afterUse_eq (h : Alike classes functions s t) (node : Node) :
    t.afterUse node = (s.afterUse node).map (·.inside t.class? t.function?) := by
  rw [← afterUse_inside, h.inside_eq]

lemma afterGroupUse_eq (h : Alike classes functions s t) (node : Node) :
    t.afterGroupUse node = (s.afterGroupUse node).map (·.inside t.class? t.function?) := by
  rw [← afterGroupUse_inside, h.inside_eq]

/-- The same problems are reported at a node. -/
lemma reports_eq (h : Alike classes functions s t) (options : Options) (files : SourceFiles)
    (node : Node) : t.reports options files node = s.reports options files node := by
  have hclass : t.class?.isSome = s.class?.isSome := by
    rcases h.class_paired.none_or_some with ⟨hk, hl⟩ | ⟨k, l, hk, hl, -⟩ <;> simp [hk, hl]
  have hreports := s.reports_inside t.class? t.function? hclass options files node
  rwa [h.inside_eq] at hreports

/-- After the same imports. -/
lemma imported (h : Alike classes functions s t) (hclass : s'.class? = s.class?)
    (hfunction : s'.function? = s.function?) :
    Alike classes functions s' (s'.inside t.class? t.function?) where
  inside_eq := rfl
  class_paired := hclass ▸ h.class_paired
  function_paired := hfunction ▸ h.function_paired

end Alike

lemma bare_methodFrom (s : Scope) (options : Options) (node : Node) (key : Fqsen) (name : String) :
    (s.methodFrom options node key name).bare = s.methodFrom options node key.bare name := rfl

section

variable {classes functions : List (Fqsen × Fqsen)} {s t : Scope} {r r' : Registry}

lemma Alike.resolveClass?_eq (h : Alike classes functions s t) :
    t.resolveClass? = s.resolveClass? := by
  rw [← h.inside_eq]
  rfl

/-- The same changes of the classes around two places are alike. -/
lemma Alike.edit (h : Alike classes functions s t) (edits : List ClassEdit) :
    List.Forall₂ (Operation.Alike classes functions) (s.edit edits) (t.edit edits) := by
  have hclass := h.class_paired
  rw [Scope.edit, Scope.edit]
  generalize s.class? = k?, t.class? = l? at hclass
  cases hclass with
  | none => exact .nil
  | some hkl =>
      rw [List.forall₂_map_left_iff, List.forall₂_map_right_iff, List.forall₂_same]
      exact fun e _ => .editClass hkl e

/-- New classes differ in their alternate ids only. -/
lemma Alike.newClass? (h : Alike classes functions s t) (options : Options) (node : Node)
    (r r' : Registry) :
    Option.Rel (fun c d => c.bare = d.bare) (s.newClass? options r node)
      (t.newClass? options r' node) := by
  rw [← h.inside_eq, Scope.newClass?, Scope.newClass?]
  cases declaredClassName? node with
  | none => exact .none
  | some name => exact .some rfl

/-- So do new functions, which are methods of no class. -/
lemma Alike.newFunction? (h : Alike classes functions s t) (options : Options) (node : Node)
    (r r' : Registry) :
    Option.Rel (fun f g => f.bare = g.bare ∧ Paired classes f.fqsen.owner? g.fqsen.owner?)
      (s.newFunction? options r node) (t.newFunction? options r' node) := by
  rw [← h.inside_eq, Scope.newFunction?, Scope.newFunction?]
  cases node.childName? 0 with
  | none => exact .none
  | some name => exact .some ⟨rfl, .none⟩

/-- So do new methods, of classes that are paired. -/
lemma Alike.newMethod? (h : Alike classes functions s t) (options : Options) (node : Node)
    (hkeys : ∀ p ∈ classes, p.1.bare = p.2.bare) (hs : s.Grounded r) (ht : t.Grounded r') :
    Option.Rel (fun f g => f.bare = g.bare ∧ Paired classes f.fqsen.owner? g.fqsen.owner?)
      (s.newMethod? options r node) (t.newMethod? options r' node) := by
  have howners {m m' : FunctionLike} (hm : s.newMethod? options r node = some m)
      (hm' : t.newMethod? options r' node = some m') :
      Paired classes m.fqsen.owner? m'.fqsen.owner? := by
    obtain ⟨-, owner, howner, hkey⟩ := newMethod?_spec hs hm
    obtain ⟨-, owner', howner', hkey'⟩ := newMethod?_spec ht hm'
    rw [hkey, hkey', ← howner, ← howner']
    exact h.class_paired
  have hclass := h.class_paired
  rw [Scope.newMethod?, Scope.newMethod?] at *
  generalize s.class? = k?, t.class? = l? at hclass howners ⊢
  cases hclass with
  | none => exact .none
  | some hkl =>
      cases hname : node.childName? 0 with
      | none => exact .none
      | some name =>
          rw [hname] at howners
          refine .some ⟨?_, howners rfl rfl⟩
          have hkey : (r.freeFunction (Fqsen.member _ name)).bare =
              (r'.freeFunction (Fqsen.member _ name)).bare :=
            Fqsen.bare_member_congr (hkeys _ hkl) name
          rw [bare_methodFrom, bare_methodFrom, hkey, ← h.inside_eq]
          rfl

/-! ### Visits that are alike -/

/-- **The operations at a node are alike**, whatever has been registered before. -/
theorem Alike.operations (h : Alike classes functions s t) (options : Options) (node : Node)
    (hkeys : ∀ p ∈ classes, p.1.bare = p.2.bare) (hs : s.Grounded r) (ht : t.Grounded r') :
    List.Forall₂ (Operation.Alike classes functions) (s.operations options r node)
      (t.operations options r' node) := by
  obtain ⟨kind, hkind⟩ : ∃ kind, node.kind = kind := ⟨_, rfl⟩
  simp only [Scope.operations, hkind]
  cases kind
  case classDecl =>
    have hnew := h.newClass? options node r r'
    generalize s.newClass? options r node = c?, t.newClass? options r' node = d? at hnew
    cases hnew with
    | none => exact .nil
    | some hcd => exact .cons (.addClass hcd) (.cons (.count _) .nil)
  case functionDecl =>
    have hnew := h.newFunction? options node r r'
    generalize s.newFunction? options r node = f?, t.newFunction? options r' node = g? at hnew
    cases hnew with
    | none => exact .nil
    | some hfg => exact .cons (.addFunction hfg.1 hfg.2) (.cons (.count _) .nil)
  case methodDecl =>
    have hnew := h.newMethod? options node hkeys hs ht
    generalize s.newMethod? options r node = f?, t.newMethod? options r' node = g? at hnew
    cases hnew with
    | none => exact .nil
    | @some f g hfg =>
        have hname : f.name = g.name := (congrArg FunctionLike.name hfg.1 :)
        exact .cons (.addFunction hfg.1 hfg.2) (.cons (.count _) (hname ▸ h.edit _))
  case traitUse =>
    rw [h.resolveClass?_eq]
    rcases h.class_paired.none_or_some with ⟨hk, hl⟩ | ⟨k, l, hk, hl, -⟩ <;> simp only [hk, hl]
    · exact .nil
    · cases node.childOfKind? 0 .nameList with
      | none => exact .nil
      | some names => exact List.rel_append (h.edit _) (.cons (.count _) .nil)
  case propertyGroup =>
    have hedits : propertyEdits node t = propertyEdits node s := by
      rw [← h.inside_eq]
      rfl
    rw [hedits]
    exact h.edit _
  case constantGroup =>
    have hedits : constantEdits node t = constantEdits node s := by
      rw [← h.inside_eq]
      rfl
    rw [hedits]
    exact h.edit _
  case closure => exact .cons (.count _) .nil
  case ifStmt => exact .cons (.count _) .nil
  case call =>
    have hclosure : t.inClosure = s.inClosure := by
      rw [← h.inside_eq]
      rfl
    rw [hclosure]
    dsimp only
    split
    · rcases h.function_paired.none_or_some with ⟨hk, hl⟩ | ⟨k, l, hk, hl, hkl⟩ <;> rw [hk, hl]
      · exact .nil
      · exact .cons (.acceptAny hkl) .nil
    · exact .nil
  case staticCall =>
    dsimp only
    split
    · exact h.edit _
    · exact .nil
  all_goals exact .nil

/-- **A walk goes on in scopes that are alike**, with what is declared at the node for one more
pair. -/
theorem Alike.flow (h : Alike classes functions s t) (options : Options) (node : Node)
    (hkeys : ∀ p ∈ classes, p.1.bare = p.2.bare) (hs : s.Grounded r) (ht : t.Grounded r') :
    (s.flow options r node).Both
      (Alike
        (classes ++ newClassPairs (s.operations options r node) (t.operations options r' node))
        (functions ++
          newFunctionPairs (s.operations options r node) (t.operations options r' node)))
      (t.flow options r' node) := by
  have hmono {s t : Scope} (h : Alike classes functions s t) {more more' : List (Fqsen × Fqsen)} :
      Alike (classes ++ more) (functions ++ more') s t :=
    h.mono (List.subset_append_left _ _) (List.subset_append_left _ _)
  obtain ⟨kind, hkind⟩ : ∃ kind, node.kind = kind := ⟨_, rfl⟩
  simp only [Scope.flow, Scope.operations, hkind]
  cases kind
  case classDecl =>
    have hnew := h.newClass? options node r r'
    generalize s.newClass? options r node = c?, t.newClass? options r' node = d? at hnew
    cases hnew with
    | none => exact hmono h
    | some _ => exact h.enterClass node.range (List.mem_append_right _ List.mem_cons_self)
  case functionDecl =>
    have hnew := h.newFunction? options node r r'
    generalize s.newFunction? options r node = f?, t.newFunction? options r' node = g? at hnew
    cases hnew with
    | none => exact hmono h
    | some _ =>
        exact (hmono h).enterFunction node.range (List.mem_append_right _ List.mem_cons_self)
  case methodDecl =>
    have hnew := h.newMethod? options node hkeys hs ht
    generalize s.newMethod? options r node = f?, t.newMethod? options r' node = g? at hnew
    cases hnew with
    | none => exact hmono h
    | some _ =>
        exact (hmono h).enterFunction node.range (List.mem_append_right _ List.mem_cons_self)
  case namespaceDecl =>
    exact hmono (h.enterNamespace _)
  case useDecl =>
    have himporting := s.importing_afterUse node
    rw [h.afterUse_eq]
    cases himport : s.afterUse node with
    | error issue => exact hmono h
    | ok s' =>
        rw [himport] at himporting
        exact hmono (h.imported himporting.1 himporting.2)
  case groupUse =>
    have himporting := s.importing_afterGroupUse node
    rw [h.afterGroupUse_eq]
    cases himport : s.afterGroupUse node with
    | error issue => exact hmono h
    | ok s' =>
        rw [himport] at himporting
        exact hmono (h.imported himporting.1 himporting.2)
  case traitUse =>
    rcases h.class_paired.none_or_some with ⟨hk, hl⟩ | ⟨k, l, hk, hl, -⟩ <;> simp only [hk, hl]
    · exact hmono h
    · cases node.childOfKind? 0 .nameList <;> exact hmono h
  case closure =>
    exact hmono h.enterClosure
  case ifStmt =>
    exact hmono h.enterBranch
  all_goals exact hmono h

end

end Scope

/-- Alike operations declare as much. -/
lemma Registered.noteAll_eq_of_alike {classes functions : List (Fqsen × Fqsen)}
    {ops ops' : List Operation}
    (h : List.Forall₂ (Operation.Alike classes functions) ops ops') (n : Registered) :
    n.noteAll ops = n.noteAll ops' := by
  induction h generalizing n with
  | nil => rfl
  | cons hop _ ih => cases hop <;> exact ih _

end PhpIndex
