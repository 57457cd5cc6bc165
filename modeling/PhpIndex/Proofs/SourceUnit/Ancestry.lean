import Mathlib.Tactic.Common
import PhpIndex.Proofs.Registry.Outline
import PhpIndex.Proofs.SourceUnit.Numbering
import PhpIndex.Proofs.Walk.Lineage
import PhpIndex.Proofs.Walk.Response

/-!
The scope of a node and the nodes around it.

* `ScopedBy`: a scope in which all but the namespace and the imports is what the nodes around a
  place say: the nearest class, the nearest function unless a class is nearer, whether a closure
  is nearer than both, and whether there is a branch;
* `ScopedBy.visited`: a visit passes this on to what is below the node, `ScopedBy.after` to what
  follows it;
* `SourceUnit.lineages`: the nodes of a unit with those around them;
* `Course.performAll_of_mem`: a declaration is followed by operations only;
* `SourceUnit.nested`: **scopes do not leak**: wherever a node of a unit is visited the nodes
  around it alone determine its scope, and its declaration is marked as conditional if one of them
  is a branch.
-/

namespace PhpIndex

namespace Moment

variable (options : Options) (m : Moment Findings)

/-- The identity of the class that is registered at a moment. -/
def classIdentity? : Option Fqsen := (m.newClass? options).map (·.fqsen)

/-- The identity of the function or method that is registered at a moment. -/
def functionIdentity? : Option Fqsen := (m.newFunction? options).map (·.fqsen)

end Moment

/-! ### Scopes and the nodes around them -/

/-- A scope in a file as the nodes around a place determine it, of which the nearest comes
first. -/
structure ScopedBy (options : Options) (path : String) (around : List (Moment Findings))
    (s : Scope) : Prop where
  file_eq : s.file = path
  class_eq : s.class? = (nearest? around [.classDecl]).bind (·.classIdentity? options)
  /-- A class registers no function, so inside one there is none until the next. -/
  function_eq : s.function? =
    (nearest? around [.classDecl, .methodDecl, .functionDecl]).bind (·.functionIdentity? options)
  closure_eq : s.inClosure =
    (nearest? around [.closure, .classDecl, .methodDecl, .functionDecl]).any
      (·.node.kind = .closure)
  conditional_eq : s.isConditional = around.any (·.node.kind = .ifStmt)
  /-- What is below a class or function is visited only if it is registered. -/
  class_registered : ∀ m ∈ around, m.node.kind = .classDecl →
    (m.classIdentity? options).isSome = true
  function_registered : ∀ m ∈ around, m.node.kind ∈ [.methodDecl, .functionDecl] →
    (m.functionIdentity? options).isSome = true

namespace ScopedBy

variable {options : Options} {files : SourceFiles} {path : String}
variable {around : List (Moment Findings)} {s : Scope}

lemma start (u : SourceUnit) : ScopedBy options u.path [] u.startScope :=
  ⟨rfl, rfl, rfl, rfl, rfl, fun _ h => (nomatch h), fun _ h => (nomatch h)⟩

/-- The namespace and the imports are no matter of the nodes around a place. -/
lemma withNames (h : ScopedBy options path around s) (space : String) (imports : Imports) :
    ScopedBy options path around { s with space := space, imports := imports } :=
  ⟨h.file_eq, h.class_eq, h.function_eq, h.closure_eq, h.conditional_eq, h.class_registered,
    h.function_registered⟩

/-- So what a subtree leaves behind does not matter. -/
lemma after (h : ScopedBy options path around s) (kind : Kind) (left : Scope) :
    ScopedBy options path around (s.after kind left) := by
  rw [Scope.after]
  split
  · exact h.withNames _ _
  · exact h.withNames _ _

variable {m : Moment Findings}

/-- Below a class it is the class, and there is no function. -/
lemma enterClass (h : ScopedBy options path around m.scope) (hkind : m.node.kind = .classDecl)
    {c : ClassLike} (hnew : m.newClass? options = some c) :
    ScopedBy options path (m :: around) ((m.scope.enterClass c.fqsen).withRange m.node.range) where
  file_eq := h.file_eq
  class_eq := by
    rw [nearest?_of_mem (by simp [hkind]), Option.bind_some, Moment.classIdentity?, hnew]
    rfl
  function_eq := by
    rw [nearest?_of_mem (by simp [hkind]), Option.bind_some, Moment.functionIdentity?,
      Moment.newFunction?, hkind]
    rfl
  closure_eq := by
    rw [nearest?_of_mem (by simp [hkind]), Option.any_some, hkind]
    rfl
  conditional_eq := by
    rw [List.any_cons, hkind]
    exact h.conditional_eq
  class_registered := by
    refine List.forall_mem_cons.mpr ⟨fun _ => ?_, h.class_registered⟩
    rw [Moment.classIdentity?, hnew]
    rfl
  function_registered :=
    List.forall_mem_cons.mpr ⟨fun hf => by simp [hkind] at hf, h.function_registered⟩

/-- Below a function or method it is the function, in the class around it. -/
lemma enterFunction (h : ScopedBy options path around m.scope)
    (hkind : m.node.kind ∈ [.methodDecl, .functionDecl]) {f : FunctionLike}
    (hnew : m.newFunction? options = some f) :
    ScopedBy options path (m :: around)
      ((m.scope.enterFunction f.fqsen).withRange m.node.range) where
  file_eq := h.file_eq
  class_eq := by
    rw [nearest?_of_notMem]
    · exact h.class_eq
    · intro hclass
      rw [List.mem_singleton.mp hclass] at hkind
      simp at hkind
  function_eq := by
    rw [nearest?_of_mem (List.mem_cons_of_mem _ hkind), Option.bind_some,
      Moment.functionIdentity?, hnew]
    rfl
  closure_eq := by
    rw [nearest?_of_mem (List.mem_cons_of_mem _ (List.mem_cons_of_mem _ hkind)), Option.any_some]
    rcases List.mem_pair.mp hkind with hkind | hkind <;> (rw [hkind]; rfl)
  conditional_eq := by
    rw [List.any_cons]
    rcases List.mem_pair.mp hkind with hkind | hkind <;> (rw [hkind]; exact h.conditional_eq)
  class_registered := by
    refine List.forall_mem_cons.mpr ⟨fun hclass => ?_, h.class_registered⟩
    rw [hclass] at hkind
    simp at hkind
  function_registered := by
    refine List.forall_mem_cons.mpr ⟨fun _ => ?_, h.function_registered⟩
    rw [Moment.functionIdentity?, hnew]
    rfl

/-- Below a node that declares nothing the declarations around it go on. -/
lemma onward (h : ScopedBy options path around m.scope)
    (hkind : m.node.kind ∉ [.classDecl, .methodDecl, .functionDecl]) {s : Scope}
    (hfile : s.file = m.scope.file) (hclass : s.class? = m.scope.class?)
    (hfunction : s.function? = m.scope.function?)
    (hclosure : s.inClosure = (decide (m.node.kind = .closure) || m.scope.inClosure))
    (hbranch : s.isConditional = (decide (m.node.kind = .ifStmt) || m.scope.isConditional)) :
    ScopedBy options path (m :: around) s where
  file_eq := hfile.trans h.file_eq
  class_eq := by
    rw [nearest?_of_notMem, hclass, h.class_eq]
    exact fun hm => hkind (List.mem_singleton.mp hm ▸ List.mem_cons_self)
  function_eq := by
    rw [nearest?_of_notMem hkind, hfunction, h.function_eq]
  closure_eq := by
    by_cases hm : m.node.kind = .closure
    · rw [hclosure, nearest?_of_mem (by simp [hm])]
      simp [hm]
    · rw [hclosure, nearest?_of_notMem, h.closure_eq]
      · simp [hm]
      · exact fun hmem => (List.mem_cons.mp hmem).elim hm hkind
  conditional_eq := by rw [hbranch, List.any_cons, h.conditional_eq]
  class_registered := by
    refine List.forall_mem_cons.mpr ⟨fun hm => ?_, h.class_registered⟩
    exact absurd (hm ▸ List.mem_cons_self) hkind
  function_registered := by
    refine List.forall_mem_cons.mpr ⟨fun hm => ?_, h.function_registered⟩
    exact absurd (List.mem_cons_of_mem _ hm) hkind

/-- **What is passed on**: a visit that goes down takes the node into those around what is
below. -/
theorem visited (h : ScopedBy options path around m.scope)
    (hs : m.scope.Grounded m.state.registry) {s' : Scope} {f' : Findings}
    (hv : visit options files m.node m.scope m.state = (.descend s', f')) :
    ScopedBy options path (m :: around) s' := by
  have hflow := (answered_visit options files hs m.node).flow_eq
  rw [hv] at hflow
  cases Scope.entered_of_flow hflow.symm with
  | inClass hkind hnew => exact h.enterClass hkind (by rw [Moment.newClass?, if_pos hkind, hnew])
  | inMethod hkind hnew =>
      refine h.enterFunction (by simp [hkind]) ?_
      rw [Moment.newFunction?, hkind]
      exact hnew
  | inFunction hkind hnew =>
      refine h.enterFunction (by simp [hkind]) ?_
      rw [Moment.newFunction?, hkind]
      exact hnew
  | inClosure hkind =>
      exact h.onward (by simp [hkind]) rfl rfl rfl (by rw [hkind]; rfl) (by rw [hkind]; rfl)
  | inBranch hkind =>
      exact h.onward (by simp [hkind]) rfl rfl rfl (by rw [hkind]; rfl) (by rw [hkind]; rfl)
  | onward hkind space imports =>
      have hne {l : Kind} (hl : l.opensScope = true) := Kind.ne_of_opensScope hkind hl
      refine h.onward ?_ rfl rfl rfl ?_ ?_
      · simp only [List.mem_cons, List.not_mem_nil, or_false, not_or]
        exact ⟨hne rfl, hne rfl, hne rfl⟩
      · rw [decide_eq_false (hne rfl)]
        rfl
      · rw [decide_eq_false (hne rfl)]
        rfl

end ScopedBy

/-! ### Declarations that stay -/

section

variable {options : Options} {files : SourceFiles}

/-- Before and after a moment of a course there are only operations. -/
lemma Course.performAll_of_mem {ms : List (Moment Findings)} {r r' : Registry}
    (h : Course (visit options files) Findings.registry r ms r')
    (hs : ∀ m ∈ ms, m.scope.Grounded m.state.registry) {m : Moment Findings} (hm : m ∈ ms) :
    ∃ before after, AllSucceed before r ∧ performAll before r = m.state.registry ∧
      performAll after (m.next (visit options files)).registry = r' := by
  obtain ⟨before, after, rfl⟩ := List.append_of_mem hm
  obtain ⟨hbefore, hafter⟩ := List.forall_mem_append.mp hs
  obtain ⟨v, hcourse, rfl, hrest⟩ := h.exists_between
  obtain ⟨hsucceed, hperform⟩ := hcourse.performAll_operations hbefore
  have hend := (hrest.performAll_operations (List.forall_mem_cons.mp hafter).2).2
  exact ⟨_, _, hsucceed, hperform, hend⟩

namespace Moment

variable {m : Moment Findings}

/-- A class is marked as conditional by the options and its scope. -/
lemma isConditional_newClass? {c : ClassLike} (h : m.newClass? options = some c) :
    c.isConditional = m.scope.marksConditional options := by
  rw [newClass?] at h
  split at h
  · obtain ⟨name, -, rfl⟩ := Option.map_eq_some_iff.mp h
    rfl
  · cases h

/-- So is a function or method. -/
lemma isConditional_newFunction? {f : FunctionLike} (h : m.newFunction? options = some f) :
    f.isConditional = m.scope.marksConditional options := by
  rw [newFunction?] at h
  split at h
  · obtain ⟨owner, -, h⟩ := Option.bind_eq_some_iff.mp h
    obtain ⟨name, -, rfl⟩ := Option.map_eq_some_iff.mp h
    rfl
  · obtain ⟨name, -, rfl⟩ := Option.map_eq_some_iff.mp h
    rfl
  · cases h

/-- What is declared is a method of the class around its node or, in no class, a function. -/
lemma owner?_newFunction? (hs : m.scope.Grounded m.state.registry) {f : FunctionLike}
    (h : m.newFunction? options = some f) :
    m.node.kind = .methodDecl ∧
        (∃ owner, m.scope.class? = some owner ∧ f.fqsen.owner? = some owner) ∨
      m.node.kind = .functionDecl ∧ f.fqsen.owner? = none := by
  rw [newFunction?] at h
  split at h
  · rename_i hkind
    exact .inl ⟨hkind, (Scope.newMethod?_spec hs h).2⟩
  · rename_i hkind
    exact .inr ⟨hkind, (Scope.newFunction?_spec h).2⟩
  · cases h

end Moment

end

/-! ### What is declared in a unit -/

section

variable (options : Options) (files : SourceFiles)

/-- The operations at some moments register what is declared there. -/
lemma map_fqsen_newClasses (ms : List (Moment Findings)) :
    (newClasses (ms.flatMap (·.operations options))).map (·.fqsen) =
      declaredClasses options ms := by
  induction ms with
  | nil => rfl
  | cons m ms ih =>
      rw [List.flatMap_cons, newClasses, List.filterMap_append, List.map_append,
        declaredClasses_cons, ← ih]
      rfl

lemma map_fqsen_newFunctions (ms : List (Moment Findings)) :
    (newFunctions (ms.flatMap (·.operations options))).map (·.fqsen) =
      declaredFunctions options ms := by
  induction ms with
  | nil => rfl
  | cons m ms ih =>
      rw [List.flatMap_cons, newFunctions, List.filterMap_append, List.map_append,
        declaredFunctions_cons, ← ih]
      rfl

variable {options} in
lemma mem_declaredClasses {ms : List (Moment Findings)} {k : Fqsen} :
    k ∈ declaredClasses options ms ↔
      ∃ m ∈ ms, ∃ c, m.newClass? options = some c ∧ c.fqsen = k := by
  rw [declaredClasses, List.mem_map]
  constructor
  · rintro ⟨c, hc, hk⟩
    obtain ⟨m, hm, hnew⟩ := List.mem_filterMap.mp hc
    exact ⟨m, hm, c, hnew, hk⟩
  · rintro ⟨m, hm, c, hnew, hk⟩
    exact ⟨c, List.mem_filterMap.mpr ⟨m, hm, hnew⟩, hk⟩

variable {options} in
lemma mem_declaredFunctions {ms : List (Moment Findings)} {k : Fqsen} :
    k ∈ declaredFunctions options ms ↔
      ∃ m ∈ ms, ∃ f, m.newFunction? options = some f ∧ f.fqsen = k := by
  rw [declaredFunctions, List.mem_map]
  constructor
  · rintro ⟨f, hf, hk⟩
    obtain ⟨m, hm, hnew⟩ := List.mem_filterMap.mp hf
    exact ⟨m, hm, f, hnew, hk⟩
  · rintro ⟨m, hm, f, hnew, hk⟩
    exact ⟨f, List.mem_filterMap.mpr ⟨m, hm, hnew⟩, hk⟩

namespace SourceUnit

variable (u : SourceUnit) (r : Registry)

/-- The nodes of a unit where they are visited, with those around them. -/
def lineages : List (Lineage Findings) :=
  PhpIndex.lineages (visit options files) u.root [] u.startScope { registry := r }

lemma moments_lineages :
    (u.lineages options files r).map Lineage.toMoment = u.moments options files r :=
  (lineages_toMoment (visit options files)).1 u.root [] u.startScope { registry := r }

lemma toMoment_mem_moments {ℓ : Lineage Findings} (hℓ : ℓ ∈ u.lineages options files r) :
    ℓ.toMoment ∈ u.moments options files r := by
  rw [← moments_lineages]
  exact List.mem_map_of_mem hℓ

lemma exists_lineage {m : Moment Findings} (hm : m ∈ u.moments options files r) :
    ∃ ℓ ∈ u.lineages options files r, ℓ.toMoment = m := by
  rw [← moments_lineages] at hm
  exact List.mem_map.mp hm

lemma around_mem_moments {ℓ : Lineage Findings} (hℓ : ℓ ∈ u.lineages options files r)
    {m : Moment Findings} (hm : m ∈ ℓ.around) : m ∈ u.moments options files r :=
  (mem_moments_of_mem_around.1 u.root [] u.startScope ({ registry := r } : Findings) ℓ hℓ m
    hm).resolve_left List.not_mem_nil

lemma scopedBy_of_mem_lineages :
    ∀ ℓ ∈ u.lineages options files r, ScopedBy options u.path ℓ.around ℓ.scope :=
  (lineages_inherit (visit options files) (fun m => m.scope.Grounded m.state.registry)
    (ScopedBy options u.path) (fun kind left h => h.after kind left)
    (fun hs h hv => h.visited hs hv)).1 u.root [] u.startScope { registry := r }
    (u.grounded_of_mem_moments options files r) (.start u)

variable {options files r} {m : Moment Findings}

/-- A class that is declared in a unit is new, and in the end it is there in outline. -/
lemma class?_index (hm : m ∈ u.moments options files r) {c : ClassLike}
    (hc : m.newClass? options = some c) :
    r.hasClass c.fqsen = false ∧
      ∃ d, (u.index options files r).2.class? c.fqsen = some d ∧ d.outline = c.outline := by
  have hgrounded := u.grounded_of_mem_moments options files r
  obtain ⟨before, after, hsucceed, hperform, hend⟩ :=
    (u.course_moments options files r).performAll_of_mem hgrounded hm
  constructor
  · have hfree := (Moment.isLeastFree_newClass? hc).free
    rw [← hperform, ← Bool.not_eq_true, hasClass_performAll hsucceed, not_or] at hfree
    exact Bool.not_eq_true _ ▸ hfree.1
  · have h := class?_outline_performAll after (Moment.class?_next files (hgrounded m hm) hc)
    rw [hend] at h
    exact Option.map_eq_some_iff.mp h

/-- So is a function or method. -/
lemma function?_index (hm : m ∈ u.moments options files r) {f : FunctionLike}
    (hf : m.newFunction? options = some f) :
    r.hasFunction f.fqsen = false ∧
      ∃ g, (u.index options files r).2.function? f.fqsen = some g ∧ g.outline = f.outline := by
  have hgrounded := u.grounded_of_mem_moments options files r
  obtain ⟨before, after, hsucceed, hperform, hend⟩ :=
    (u.course_moments options files r).performAll_of_mem hgrounded hm
  constructor
  · have hfree := (Moment.isLeastFree_newFunction? (hgrounded m hm) hf).free
    rw [← hperform, ← Bool.not_eq_true, hasFunction_performAll hsucceed, not_or] at hfree
    exact Bool.not_eq_true _ ▸ hfree.1
  · have h := function?_outline_performAll after (Moment.function?_next files (hgrounded m hm) hf)
    rw [hend] at h
    exact Option.map_eq_some_iff.mp h

/-- In the end the classes are those of before and those that are declared in the unit. -/
lemma hasClass_index {k : Fqsen} :
    (u.index options files r).2.hasClass k = true ↔
      r.hasClass k = true ∨ k ∈ declaredClasses options (u.moments options files r) := by
  obtain ⟨hsucceed, hperform⟩ := u.performAll_operations options files r
  rw [← hperform, hasClass_performAll hsucceed, operations, map_fqsen_newClasses]

/-- The same for functions and methods. -/
lemma hasFunction_index {k : Fqsen} :
    (u.index options files r).2.hasFunction k = true ↔
      r.hasFunction k = true ∨ k ∈ declaredFunctions options (u.moments options files r) := by
  obtain ⟨hsucceed, hperform⟩ := u.performAll_operations options files r
  rw [← hperform, hasFunction_performAll hsucceed, operations, map_fqsen_newFunctions]

/-! ### Scopes do not leak -/

variable (options files r)

/-- The scopes of a unit as its nesting determines them. -/
structure Nested : Prop where
  /-- The nodes that are visited, each with nodes around it that lead up to the root. -/
  visited : (u.lineages options files r).map Lineage.toMoment = u.moments options files r
  rooted : ∀ ℓ ∈ u.lineages options files r,
    ℓ.Rooted ⟨⟨u.root, u.startScope⟩, { registry := r }⟩
  /-- The nodes around a node say all that its scope holds beside the namespace and its
  imports. -/
  determined : ∀ ℓ ∈ u.lineages options files r, ScopedBy options u.path ℓ.around ℓ.scope
  /-- What a node declares is new to the registry and is found there in the end, marked as
  conditional if the node is in a branch. -/
  class_marked : ∀ ℓ ∈ u.lineages options files r, ∀ c, ℓ.newClass? options = some c →
    r.hasClass c.fqsen = false ∧
      ∃ d, (u.index options files r).2.class? c.fqsen = some d ∧
        d.isConditional =
          (options.recordsConditional && ℓ.around.any (·.node.kind = .ifStmt))
  function_marked : ∀ ℓ ∈ u.lineages options files r, ∀ f, ℓ.newFunction? options = some f →
    r.hasFunction f.fqsen = false ∧
      ∃ g, (u.index options files r).2.function? f.fqsen = some g ∧
        g.isConditional =
          (options.recordsConditional && ℓ.around.any (·.node.kind = .ifStmt))
  /-- Nothing else is new. -/
  class_declared : ∀ k, (u.index options files r).2.hasClass k = true →
    r.hasClass k = true ∨
      ∃ ℓ ∈ u.lineages options files r, ∃ c, ℓ.newClass? options = some c ∧ c.fqsen = k
  function_declared : ∀ k, (u.index options files r).2.hasFunction k = true →
    r.hasFunction k = true ∨
      ∃ ℓ ∈ u.lineages options files r, ∃ f, ℓ.newFunction? options = some f ∧ f.fqsen = k

/-- **Scopes do not leak**: the nodes around a node determine its scope but for the namespace and
the imports, whatever stands before it, and a declaration is marked as conditional if one of them
is a branch and the options ask for it. -/
theorem nested : u.Nested options files r := by
  have hlineage {ℓ : Lineage Findings} (hℓ : ℓ ∈ u.lineages options files r) :=
    u.toMoment_mem_moments options files r hℓ
  have hscoped := u.scopedBy_of_mem_lineages options files r
  refine ⟨u.moments_lineages options files r, ?_, hscoped, ?_, ?_, ?_, ?_⟩
  · have hroot : Lineage.Rooted (⟨⟨u.root, u.startScope⟩, { registry := r }⟩ : Moment Findings)
        ⟨⟨⟨u.root, u.startScope⟩, { registry := r }⟩, []⟩ := ⟨.singleton _, rfl⟩
    exact rooted_of_mem_lineages.1 u.root [] u.startScope _ hroot
  · intro ℓ hℓ c hc
    obtain ⟨hnew, d, hd, houtline⟩ := u.class?_index (hlineage hℓ) hc
    refine ⟨hnew, d, hd, ?_⟩
    rw [← d.isConditional_outline, houtline, c.isConditional_outline,
      Moment.isConditional_newClass? hc, ← (hscoped ℓ hℓ).conditional_eq]
    rfl
  · intro ℓ hℓ f hf
    obtain ⟨hnew, g, hg, houtline⟩ := u.function?_index (hlineage hℓ) hf
    refine ⟨hnew, g, hg, ?_⟩
    rw [← g.isConditional_outline, houtline, f.isConditional_outline,
      Moment.isConditional_newFunction? hf, ← (hscoped ℓ hℓ).conditional_eq]
    rfl
  · intro k hk
    refine (u.hasClass_index.mp hk).imp_right fun hmem => ?_
    obtain ⟨m, hm, c, hnew, hkey⟩ := mem_declaredClasses.mp hmem
    obtain ⟨ℓ, hℓ, rfl⟩ := u.exists_lineage options files r hm
    exact ⟨ℓ, hℓ, c, hnew, hkey⟩
  · intro k hk
    refine (u.hasFunction_index.mp hk).imp_right fun hmem => ?_
    obtain ⟨m, hm, f, hnew, hkey⟩ := mem_declaredFunctions.mp hmem
    obtain ⟨ℓ, hℓ, rfl⟩ := u.exists_lineage options files r hm
    exact ⟨ℓ, hℓ, f, hnew, hkey⟩

end SourceUnit

end

end PhpIndex
