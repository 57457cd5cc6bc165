import Mathlib.Tactic.Common
import PhpIndex.Proofs.Registry.Coherence
import PhpIndex.Proofs.SourceUnit.Registration

/-!
The numbers of declarations of one name.

* `Moment.newClass?`, `Moment.newFunction?`: the declaration that is registered at a moment, as
  its node describes it;
* `declaredClasses`, `declaredFunctions`: the identities of the declarations that are registered
  at some moments, in the order in which their nodes are visited;
* `Registry.Numbers`: a registry of the identities in two rows in which those of each name are
  numbered from zero on; `Registry.Numbers.next`: what is declared at one moment comes next in its
  row, `Registry.Numbers.course`: and so on;
* `momentsOfAll`: the moments of several units;
* `coherent_indexAll`: the registration of units keeps the declarations of a registry in line;
* `numberedInOrder`: **the declarations of a name are numbered in the order of their nodes**, over
  all units of a run, and are found in this order.
-/

namespace PhpIndex

/-! ### What is declared at a moment -/

namespace Moment

variable (options : Options) (m : Moment Findings)

/-- The class that is registered at a moment. -/
def newClass? : Option ClassLike :=
  if m.node.kind = .classDecl then m.scope.newClass? options m.state.registry m.node else none

/-- The function or method that is registered at a moment. -/
def newFunction? : Option FunctionLike :=
  match m.node.kind with
  | .methodDecl => m.scope.newMethod? options m.state.registry m.node
  | .functionDecl => m.scope.newFunction? options m.state.registry m.node
  | _ => none

end Moment

namespace Scope

variable (s : Scope) (edits : List ClassEdit)

/-- Changes of a class register nothing. -/
lemma newClasses_edit : newClasses (s.edit edits) = [] := by
  rw [edit]
  split
  · rfl
  · simp [newClasses, List.filterMap_map, Function.comp_def, Operation.newClass?]

lemma newFunctions_edit : newFunctions (s.edit edits) = [] := by
  rw [edit]
  split
  · rfl
  · simp [newFunctions, List.filterMap_map, Function.comp_def, Operation.newFunction?]

end Scope

namespace Moment

variable (options : Options) (m : Moment Findings)

/-- The operations at a moment register the class that is declared there and no other. -/
lemma newClasses_operations :
    newClasses (m.operations options) = (m.newClass? options).toList := by
  have hedit := m.scope.newClasses_edit
  rw [operations, newClass?]
  by_cases hclass : m.node.kind = .classDecl
  · simp only [hclass, Scope.operations, if_true]
    cases m.scope.newClass? options m.state.registry m.node <;> rfl
  · rw [if_neg hclass, Scope.operations]
    simp only [newClasses] at hedit ⊢
    split
    case h_1 => contradiction
    case h_2 =>
      split
      · rfl
      · rw [List.filterMap_append, hedit]
        rfl
    all_goals
      try split
      all_goals simp [hedit, Operation.newClass?]

/-- The same for functions and methods. -/
lemma newFunctions_operations :
    newFunctions (m.operations options) = (m.newFunction? options).toList := by
  have hedit := m.scope.newFunctions_edit
  rw [operations, newFunction?]
  split
  · rename_i hkind
    simp only [hkind, Scope.operations]
    cases m.scope.newMethod? options m.state.registry m.node with
    | none => rfl
    | some f =>
        rw [newFunctions, List.filterMap_append, ← newFunctions, ← newFunctions, hedit]
        rfl
  · rename_i hkind
    simp only [hkind, Scope.operations]
    cases m.scope.newFunction? options m.state.registry m.node <;> rfl
  · rw [Scope.operations]
    simp only [newFunctions] at hedit ⊢
    split
    case h_2 | h_3 => contradiction
    all_goals
      try split
      all_goals simp [hedit, Operation.newFunction?]

variable {options m}

/-- A class is new to the registry and has the first free identity of its name. -/
lemma isLeastFree_newClass? {c : ClassLike} (h : m.newClass? options = some c) :
    IsLeastFree m.state.registry.hasClass c.fqsen := by
  rw [newClass?] at h
  split at h
  · exact (Scope.newClass?_spec h).1
  · cases h

/-- So has a function or method. -/
lemma isLeastFree_newFunction? (hs : m.scope.Grounded m.state.registry) {f : FunctionLike}
    (h : m.newFunction? options = some f) :
    IsLeastFree m.state.registry.hasFunction f.fqsen := by
  rw [newFunction?] at h
  split at h
  · exact (Scope.newMethod?_spec hs h).1
  · exact (Scope.newFunction?_spec h).1
  · cases h

variable (files : SourceFiles)

/-- It is what is found under this identity from then on. -/
lemma class?_next (hs : m.scope.Grounded m.state.registry) {c : ClassLike}
    (h : m.newClass? options = some c) :
    (m.next (visit options files)).registry.class? c.fqsen = some c := by
  have hadd := Registry.addClass_eq_ok_iff.mpr ⟨(isLeastFree_newClass? h).free, rfl⟩
  rw [registry_next options files hs, operations]
  rw [newClass?] at h
  split at h
  · rename_i hkind
    simp only [Scope.operations, hkind, h]
    rw [performAll_cons, Operation.perform_addClass hadd]
    exact (Registry.class?_of_addClass hadd _).trans (if_pos rfl)
  · cases h

lemma function?_next (hs : m.scope.Grounded m.state.registry) {f : FunctionLike}
    (h : m.newFunction? options = some f) :
    (m.next (visit options files)).registry.function? f.fqsen = some f := by
  obtain ⟨kind, edits, hops⟩ : ∃ kind edits,
      m.operations options = [.addFunction f, .count kind] ++ m.scope.edit edits := by
    rw [newFunction?] at h
    split at h
    · rename_i hkind
      exact ⟨.methods, methodEdits f.name, by simp only [operations, Scope.operations, hkind, h]⟩
    · rename_i hkind
      refine ⟨.functions, [], ?_⟩
      simp only [operations, Scope.operations, hkind, h, Scope.edit_nil, List.append_nil]
    · cases h
  have hsucceed := (accepted options files hs).succeed
  rw [hops] at hsucceed
  obtain ⟨⟨r', hadd⟩, -⟩ := hsucceed
  rw [registry_next options files hs, hops, performAll_append, Scope.function?_performAll_edit,
    performAll_cons, Operation.perform_addFunction hadd]
  exact (Registry.function?_of_addFunction hadd _).trans (if_pos rfl)

/-- A class has no methods when it is registered. -/
lemma methods_newClass? {c : ClassLike} (h : m.newClass? options = some c) : c.methods = [] := by
  rw [newClass?] at h
  split at h
  · obtain ⟨name, -, rfl⟩ := Option.map_eq_some_iff.mp h
    rfl
  · cases h

end Moment

/-! ### Numbered registries -/

section

variable (options : Options)

/-- The identities of the classes that are registered at some moments, in order. -/
def declaredClasses (ms : List (Moment Findings)) : List Fqsen :=
  (ms.filterMap (·.newClass? options)).map (·.fqsen)

/-- The identities of the functions and methods, in order. -/
def declaredFunctions (ms : List (Moment Findings)) : List Fqsen :=
  (ms.filterMap (·.newFunction? options)).map (·.fqsen)

lemma declaredClasses_cons (m : Moment Findings) (ms : List (Moment Findings)) :
    declaredClasses options (m :: ms) =
      (newClasses (m.operations options)).map (·.fqsen) ++ declaredClasses options ms := by
  rw [m.newClasses_operations]
  cases h : m.newClass? options <;> simp [declaredClasses, h]

lemma declaredFunctions_cons (m : Moment Findings) (ms : List (Moment Findings)) :
    declaredFunctions options (m :: ms) =
      (newFunctions (m.operations options)).map (·.fqsen) ++ declaredFunctions options ms := by
  rw [m.newFunctions_operations]
  cases h : m.newFunction? options <;> simp [declaredFunctions, h]

end

/-- A registry of the identities in two rows, in which those of each name are numbered. -/
structure Registry.Numbers (r : Registry) (classes functions : List Fqsen) : Prop where
  hasClass_iff : ∀ k, r.hasClass k = true ↔ k ∈ classes
  hasFunction_iff : ∀ k, r.hasFunction k = true ↔ k ∈ functions
  classes_numbered : Numbered classes
  functions_numbered : Numbered functions

namespace Registry.Numbers

lemma empty : Registry.empty.Numbers [] [] where
  hasClass_iff k := by simp [hasClass, Registry.empty]
  hasFunction_iff k := by simp [hasFunction, Registry.empty]
  classes_numbered := numbered_nil
  functions_numbered := numbered_nil

variable (options : Options) (files : SourceFiles) {classes functions : List Fqsen}

/-- What is declared at a moment comes next in its row. -/
lemma next {m : Moment Findings} (h : m.state.registry.Numbers classes functions)
    (hs : m.scope.Grounded m.state.registry) :
    (m.next (visit options files)).registry.Numbers
      (classes ++ (newClasses (m.operations options)).map (·.fqsen))
      (functions ++ (newFunctions (m.operations options)).map (·.fqsen)) := by
  have hsucceed := (Moment.accepted options files hs).succeed
  rw [Moment.registry_next options files hs]
  refine ⟨fun k => ?_, fun k => ?_, ?_, ?_⟩
  · rw [hasClass_performAll hsucceed, h.hasClass_iff, List.mem_append]
  · rw [hasFunction_performAll hsucceed, h.hasFunction_iff, List.mem_append]
  · rw [m.newClasses_operations]
    cases hnew : m.newClass? options with
    | none => simpa using h.classes_numbered
    | some c =>
        exact h.classes_numbered.append h.hasClass_iff (Moment.isLeastFree_newClass? hnew)
  · rw [m.newFunctions_operations]
    cases hnew : m.newFunction? options with
    | none => simpa using h.functions_numbered
    | some f =>
        have hfree := Moment.isLeastFree_newFunction? hs hnew
        exact h.functions_numbered.append h.hasFunction_iff hfree

/-- So does what is declared at one moment after the other. -/
theorem course {ms : List (Moment Findings)} {r r' : Registry} (h : r.Numbers classes functions)
    (hcourse : Course (visit options files) Findings.registry r ms r')
    (hs : ∀ m ∈ ms, m.scope.Grounded m.state.registry) :
    r'.Numbers (classes ++ declaredClasses options ms)
      (functions ++ declaredFunctions options ms) := by
  induction ms generalizing r classes functions with
  | nil =>
      obtain rfl : r = r' := hcourse
      simpa [declaredClasses, declaredFunctions] using h
  | cons m ms ih =>
      obtain ⟨hm, hms⟩ := List.forall_mem_cons.mp hs
      obtain ⟨rfl, hrest⟩ := hcourse
      have hall := ih (h.next options files hm) hrest hms
      rwa [List.append_assoc, List.append_assoc, ← declaredClasses_cons,
        ← declaredFunctions_cons] at hall

end Registry.Numbers

/-- Of a coherent registry the classes of a name are found in the order of the row. -/
lemma Registry.Coherent.map_fqsen_alternatesOf {r : Registry} (h : r.Coherent) {row : List Fqsen}
    (hnumbered : Numbered row) (hrow : ∀ k, r.hasClass k = true ↔ k ∈ row) (name : Fqsen) :
    (r.alternatesOf name).map (·.fqsen) = family row name := by
  refine (List.map_inj_right fun _ _ => Option.some.inj).mp ?_
  calc ((r.alternatesOf name).map (·.fqsen)).map some
      = ((r.alternatesOf name).map some).map (Option.map (·.fqsen)) := by
        simp only [List.map_map, Function.comp_def, Option.map_some]
    _ = ((family row name).map r.class?).map (Option.map (·.fqsen)) := by
        rw [Registry.map_alternatesOf hnumbered hrow]
    _ = (family row name).map some := by
        rw [List.map_map]
        refine List.map_congr_left fun k hk => ?_
        obtain ⟨c, hc⟩ := hasClass_iff.mp ((hrow k).mpr (mem_family.mp hk).1)
        simp [hc, h.class_key k c hc]

/-! ### Runs over several units -/

section

variable (options : Options) (files : SourceFiles)

/-- The moments in the walks of several units. -/
def momentsOfAll : List SourceUnit → Registry → List (Moment Findings)
  | [], _ => []
  | u :: rest, r =>
      u.moments options files r ++ momentsOfAll rest (u.index options files r).2

variable (us : List SourceUnit) (r : Registry)

lemma grounded_of_mem_momentsOfAll :
    ∀ m ∈ momentsOfAll options files us r, m.scope.Grounded m.state.registry := by
  induction us generalizing r with
  | nil => exact fun m hm => nomatch hm
  | cons u rest ih =>
      exact List.forall_mem_append.mpr ⟨u.grounded_of_mem_moments options files r, ih _⟩

/-- Each unit begins with what those before it have left. -/
lemma course_momentsOfAll :
    Course (visit options files) Findings.registry r (momentsOfAll options files us r)
      (indexAll options files us r).2 := by
  induction us generalizing r with
  | nil => rfl
  | cons u rest ih => exact (u.course_moments options files r).append (ih _)

variable {r} in
/-- Registration keeps the declarations of a registry in line with each other. -/
theorem coherent_indexAll (h : r.Coherent) : (indexAll options files us r).2.Coherent := by
  have hgrounded := grounded_of_mem_momentsOfAll options files us r
  obtain ⟨-, hperform⟩ := (course_momentsOfAll options files us r).performAll_operations hgrounded
  rw [← hperform]
  refine h.performAll fun c hc => ?_
  obtain ⟨m, -, hc⟩ := List.mem_flatMap.mp hc
  rw [← mem_newClasses, m.newClasses_operations, Option.mem_toList] at hc
  exact Moment.methods_newClass? hc

/-! ### Numbers in order -/

/-- The declarations that units register, starting from nothing. -/
structure NumberedInOrder (ms : List (Moment Findings)) (r : Registry) : Prop where
  /-- The classes of the registry are those that are declared at the moments. -/
  hasClass_iff : ∀ k, r.hasClass k = true ↔ k ∈ declaredClasses options ms
  hasFunction_iff : ∀ k, r.hasFunction k = true ↔ k ∈ declaredFunctions options ms
  /-- No identity is given twice. -/
  classes_nodup : (declaredClasses options ms).Nodup
  functions_nodup : (declaredFunctions options ms).Nodup
  /-- A class that is declared at a moment is registered there. -/
  class_stored : ∀ m ∈ ms, ∀ c, m.newClass? options = some c →
    m.state.registry.class? c.fqsen = none ∧
      (m.next (visit options files)).registry.class? c.fqsen = some c
  function_stored : ∀ m ∈ ms, ∀ f, m.newFunction? options = some f →
    m.state.registry.function? f.fqsen = none ∧
      (m.next (visit options files)).registry.function? f.fqsen = some f
  /-- The classes of one name in a namespace are numbered in the order of their declarations. -/
  classes : ∀ space name,
    let row := family (declaredClasses options ms) (.ofClass space name)
    row.map Fqsen.alternate = List.range row.length
  functions : ∀ space name,
    let row := family (declaredFunctions options ms) (.ofFunction space name)
    row.map Fqsen.alternate = List.range row.length
  methods : ∀ (owner : Fqsen) name,
    let row := family (declaredFunctions options ms) (owner.member name)
    row.map Fqsen.alternate = List.range row.length
  /-- All of them are found in this order, whichever of them is asked for. -/
  alternates : ∀ space name i,
    (r.alternatesOf ((Fqsen.ofClass space name).withAlternate i)).map (·.fqsen) =
      family (declaredClasses options ms) (.ofClass space name)

/-- **Declarations are numbered in order**: over any units the classes of one name in a namespace,
the functions of one name in a namespace and the methods of one name in a class get the alternate
ids from zero on, in the order in which their nodes are visited. -/
theorem numberedInOrder (us : List SourceUnit) :
    NumberedInOrder options files (momentsOfAll options files us .empty)
      (indexAll options files us .empty).2 := by
  have hgrounded := grounded_of_mem_momentsOfAll options files us .empty
  have hnumbers := Registry.Numbers.empty.course options files
    (course_momentsOfAll options files us .empty) hgrounded
  simp only [List.nil_append] at hnumbers
  have hcoherent := coherent_indexAll options files us Registry.Coherent.empty
  refine ⟨hnumbers.hasClass_iff, hnumbers.hasFunction_iff, hnumbers.classes_numbered.nodup,
    hnumbers.functions_numbered.nodup, ?_, ?_, ?_, ?_, ?_, ?_⟩
  · intro m hm c hc
    have hfree := (Moment.isLeastFree_newClass? hc).free
    exact ⟨Registry.class?_eq_none_iff.mpr hfree, Moment.class?_next files (hgrounded m hm) hc⟩
  · intro m hm f hf
    have hfree := (Moment.isLeastFree_newFunction? (hgrounded m hm) hf).free
    exact ⟨Registry.function?_eq_none_iff.mpr hfree,
      Moment.function?_next files (hgrounded m hm) hf⟩
  · exact fun space name => hnumbers.classes_numbered _
  · exact fun space name => hnumbers.functions_numbered _
  · exact fun owner name => hnumbers.functions_numbered _
  · exact fun space name i =>
      hcoherent.map_fqsen_alternatesOf hnumbers.classes_numbered hnumbers.hasClass_iff _

/-- A class that is declared again in a branch, in a unit that is registered twice. -/
example :
    let unit : SourceUnit := {
      path := "user.php"
      root := { kind := .stmtList, children := [
        .node { kind := .classDecl, children := [.str "User"] },
        .node { kind := .ifStmt, children := [
          .node { kind := .classDecl, children := [.str "User"] }] }] } }
    let r := (indexAll {} files [unit, unit] .empty).2
    (r.alternatesOf ((Fqsen.ofClass "" "User").withAlternate 7)).map (·.fqsen.alternate) =
      [0, 1, 2, 3] := by
  rfl

end

end PhpIndex
