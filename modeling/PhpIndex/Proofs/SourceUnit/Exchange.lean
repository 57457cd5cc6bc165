import PhpIndex.Proofs.Registry.Footprint
import PhpIndex.Proofs.SourceUnit.Ancestry
import PhpIndex.Proofs.Walk.Lockstep
import PhpIndex.Proofs.Walk.Response

/-!
Units that declare different names.

* `SourceUnit.uses_of_mem_operations`: a unit looks at and changes its own declarations only;
* `Registry.SameTaken`: registries in which the same alternates of some names are taken;
  `Registry.SameTaken.visited`: what is done at a node is the same in both, if it declares none but
  these names;
* `sameness`: so two walks of a unit that declares only such names do the same throughout;
* `SourceUnit.Apart`: two units that declare no class and no function of one name;
* `SourceUnit.index_comm`: **such units can be registered in either order**.
-/

namespace PhpIndex

namespace Fqsen

/-- The class of a method does not depend on the alternate id of the method. -/
lemma owner?_eq_of_primary {k l : Fqsen} (hk : k.functionName?.isSome = true)
    (h : k.primary = l.primary) : k.owner? = l.owner? := by
  have hl := eq_withAlternate_of_primary h.symm
  rw [hl]
  obtain ⟨path, element, alternate⟩ := k
  cases element <;> first | rfl | cases hk

end Fqsen

section

variable {options : Options} {files : SourceFiles}

/-- What is declared as a function or method has the identity of one. -/
lemma Moment.isSome_functionName?_newFunction? {m : Moment Findings} {f : FunctionLike}
    (h : m.newFunction? options = some f) : f.fqsen.functionName?.isSome = true := by
  rw [newFunction?] at h
  split at h
  · obtain ⟨owner, -, h⟩ := Option.bind_eq_some_iff.mp h
    obtain ⟨name, -, rfl⟩ := Option.map_eq_some_iff.mp h
    obtain ⟨path, element, alternate⟩ := owner
    cases element <;> rfl
  · obtain ⟨name, -, rfl⟩ := Option.map_eq_some_iff.mp h
    rfl
  · cases h

/-! ### What a unit uses -/

namespace SourceUnit

variable {u : SourceUnit} {r : Registry} {m : Moment Findings}

/-- The class around a node is one of the unit. -/
lemma class?_mem_declaredClasses (hm : m ∈ u.moments options files r) {k : Fqsen}
    (hk : m.scope.class? = some k) : k ∈ declaredClasses options (u.moments options files r) := by
  obtain ⟨ℓ, hℓ, rfl⟩ := u.exists_lineage options files r hm
  rw [(u.scopedBy_of_mem_lineages options files r ℓ hℓ).class_eq] at hk
  obtain ⟨n, hn, hk⟩ := Option.bind_eq_some_iff.mp hk
  obtain ⟨c, hc, rfl⟩ := Option.map_eq_some_iff.mp hk
  have hmem := u.around_mem_moments options files r hℓ (List.mem_of_find?_eq_some hn)
  exact mem_declaredClasses.mpr ⟨n, hmem, c, hc, rfl⟩

/-- So is the function or method. -/
lemma function?_mem_declaredFunctions (hm : m ∈ u.moments options files r) {k : Fqsen}
    (hk : m.scope.function? = some k) :
    k ∈ declaredFunctions options (u.moments options files r) := by
  obtain ⟨ℓ, hℓ, rfl⟩ := u.exists_lineage options files r hm
  rw [(u.scopedBy_of_mem_lineages options files r ℓ hℓ).function_eq] at hk
  obtain ⟨n, hn, hk⟩ := Option.bind_eq_some_iff.mp hk
  obtain ⟨f, hf, rfl⟩ := Option.map_eq_some_iff.mp hk
  have hmem := u.around_mem_moments options files r hℓ (List.mem_of_find?_eq_some hn)
  exact mem_declaredFunctions.mpr ⟨n, hmem, f, hf, rfl⟩

/-- So is the class of a method that is declared. -/
lemma owner_mem_declaredClasses {k owner : Fqsen}
    (hk : k ∈ declaredFunctions options (u.moments options files r))
    (howner : k.owner? = some owner) :
    owner ∈ declaredClasses options (u.moments options files r) := by
  obtain ⟨m, hm, f, hf, rfl⟩ := mem_declaredFunctions.mp hk
  have hgrounded := u.grounded_of_mem_moments options files r m hm
  rcases Moment.owner?_newFunction? hgrounded hf with ⟨-, around, haround, hkey⟩ | ⟨-, hkey⟩
  · rw [hkey] at howner
    cases howner
    exact class?_mem_declaredClasses hm haround
  · rw [hkey] at howner
    cases howner

/-- A unit looks at and changes its own declarations only. -/
theorem uses_of_mem_operations : ∀ op ∈ u.operations options files r,
    op.Uses (declaredClasses options (u.moments options files r))
      (declaredFunctions options (u.moments options files r)) := by
  intro op hop
  obtain ⟨m, hm, hmop⟩ := List.mem_flatMap.mp hop
  have hgrounded := u.grounded_of_mem_moments options files r m hm
  have hwithin := (Moment.accepted options files hgrounded).within op hmop
  cases op with
  | addClass c =>
      have hnew := mem_newClasses.mpr hop
      rw [Operation.Uses, ← map_fqsen_newClasses]
      exact List.mem_map_of_mem hnew
  | addFunction f =>
      have hnew : f ∈ newFunctions (u.operations options files r) :=
        List.mem_filterMap.mpr ⟨_, hop, rfl⟩
      refine ⟨?_, fun owner howner => class?_mem_declaredClasses hm (hwithin owner howner)⟩
      rw [← map_fqsen_newFunctions]
      exact List.mem_map_of_mem hnew
  | count kind => trivial
  | editClass name e => exact class?_mem_declaredClasses hm hwithin
  | acceptAny name => exact function?_mem_declaredFunctions hm hwithin

end SourceUnit

/-! ### Names that are taken alike -/

/-- Two registries in which the same alternates of some names are taken. -/
structure Registry.SameTaken (classes functions : List Fqsen) (r r' : Registry) : Prop where
  hasClass_eq : ∀ k ∈ classes, ∀ i, r.hasClass (k.withAlternate i) = r'.hasClass (k.withAlternate i)
  hasFunction_eq : ∀ k ∈ functions, ∀ i,
    r.hasFunction (k.withAlternate i) = r'.hasFunction (k.withAlternate i)

/-- Operations that succeed in both take the same names. -/
lemma Registry.SameTaken.performAll {classes functions : List Fqsen} {r r' : Registry}
    (h : r.SameTaken classes functions r') {ops : List Operation} (hs : AllSucceed ops r)
    (hs' : AllSucceed ops r') :
    (performAll ops r).SameTaken classes functions (performAll ops r') where
  hasClass_eq k hk i := by
    rw [Bool.eq_iff_iff, hasClass_performAll hs, hasClass_performAll hs', h.hasClass_eq k hk i]
  hasFunction_eq k hk i := by
    rw [Bool.eq_iff_iff, hasFunction_performAll hs, hasFunction_performAll hs',
      h.hasFunction_eq k hk i]

namespace Scope

variable {s : Scope} {r r' : Registry} {node : Node}

/-- A new class gets the same identity where the same alternates of its name are taken. -/
lemma newClass?_congr (h : ∀ c, s.newClass? options r node = some c → ∀ i,
      r.hasClass (c.fqsen.withAlternate i) = r'.hasClass (c.fqsen.withAlternate i)) :
    s.newClass? options r' node = s.newClass? options r node := by
  cases hname : declaredClassName? node with
  | none => rw [newClass?, newClass?, hname, Option.map_none, Option.map_none]
  | some name =>
      have hnew : s.newClass? options r node =
          some (s.classFrom options node (r.freeClass (.ofClass s.space name)) name) := by
        rw [newClass?, hname, Option.map_some]
      have hsame := (r.freeClass_isLeastFree (.ofClass s.space name)).eq_of_primary
        (r'.freeClass_isLeastFree (.ofClass s.space name)) rfl (h _ hnew)
      rw [hnew, newClass?, hname, Option.map_some, hsame]

/-- So does a new function. -/
lemma newFunction?_congr (h : ∀ f, s.newFunction? options r node = some f → ∀ i,
      r.hasFunction (f.fqsen.withAlternate i) = r'.hasFunction (f.fqsen.withAlternate i)) :
    s.newFunction? options r' node = s.newFunction? options r node := by
  cases hname : node.childName? 0 with
  | none => rw [newFunction?, newFunction?, hname, Option.map_none, Option.map_none]
  | some name =>
      have hnew : s.newFunction? options r node =
          some (s.functionFrom options node (r.freeFunction (.ofFunction s.space name)) name) := by
        rw [newFunction?, hname, Option.map_some]
      have hsame := (r.freeFunction_isLeastFree (.ofFunction s.space name)).eq_of_primary
        (r'.freeFunction_isLeastFree (.ofFunction s.space name)) rfl (h _ hnew)
      rw [hnew, newFunction?, hname, Option.map_some, hsame]

/-- So does a new method. -/
lemma newMethod?_congr (h : ∀ m, s.newMethod? options r node = some m → ∀ i,
      r.hasFunction (m.fqsen.withAlternate i) = r'.hasFunction (m.fqsen.withAlternate i)) :
    s.newMethod? options r' node = s.newMethod? options r node := by
  cases hclass : s.class? with
  | none => rw [newMethod?, newMethod?, hclass, Option.bind_none, Option.bind_none]
  | some owner =>
      cases hname : node.childName? 0 with
      | none => simp [newMethod?, hclass, hname]
      | some name =>
          have hnew : s.newMethod? options r node =
              some (s.methodFrom options node (r.freeFunction (owner.member name)) name) := by
            rw [newMethod?, hclass, Option.bind_some, hname, Option.map_some]
          have hsame := (r.freeFunction_isLeastFree (owner.member name)).eq_of_primary
            (r'.freeFunction_isLeastFree (owner.member name)) rfl (h _ hnew)
          rw [hnew, newMethod?, hclass, Option.bind_some, hname, Option.map_some, hsame]

/-- If what a node declares is the same, all that is done at it is. -/
lemma operations_flow_congr
    (hclass : node.kind = .classDecl →
      s.newClass? options r' node = s.newClass? options r node)
    (hmethod : node.kind = .methodDecl →
      s.newMethod? options r' node = s.newMethod? options r node)
    (hfunction : node.kind = .functionDecl →
      s.newFunction? options r' node = s.newFunction? options r node) :
    s.operations options r' node = s.operations options r node ∧
      s.flow options r' node = s.flow options r node := by
  obtain ⟨kind, hkind⟩ : ∃ kind, node.kind = kind := ⟨_, rfl⟩
  simp only [operations, flow, hkind]
  cases kind
  case classDecl =>
    rw [hclass hkind]
    exact ⟨rfl, rfl⟩
  case methodDecl =>
    rw [hmethod hkind]
    exact ⟨rfl, rfl⟩
  case functionDecl =>
    rw [hfunction hkind]
    exact ⟨rfl, rfl⟩
  all_goals exact ⟨rfl, rfl⟩

end Scope

/-- A node that declares none but names that are taken alike does the same in two registries. -/
lemma Registry.SameTaken.visited {classes functions : List Fqsen} {m : Moment Findings}
    {r' : Registry} (h : m.state.registry.SameTaken classes functions r')
    (hclasses : ∀ c, m.newClass? options = some c → c.fqsen ∈ classes)
    (hfunctions : ∀ f, m.newFunction? options = some f → f.fqsen ∈ functions) :
    m.scope.operations options r' m.node = m.operations options ∧
      m.scope.flow options r' m.node = m.scope.flow options m.state.registry m.node := by
  refine Scope.operations_flow_congr (fun hkind => ?_) (fun hkind => ?_) fun hkind => ?_
  · refine Scope.newClass?_congr fun c hc => h.hasClass_eq _ (hclasses c ?_)
    rw [Moment.newClass?, if_pos hkind, hc]
  · refine Scope.newMethod?_congr fun f hf => h.hasFunction_eq _ (hfunctions f ?_)
    rw [Moment.newFunction?, hkind]
    exact hf
  · refine Scope.newFunction?_congr fun f hf => h.hasFunction_eq _ (hfunctions f ?_)
    rw [Moment.newFunction?, hkind]
    exact hf

/-! ### Walks that do the same -/

variable (options files) in
/-- Two walks that begin with registries in which some names are taken alike do the same as long as
they declare no others. -/
def sameness (classes functions : List Fqsen) :
    Lockstep (visit options files) (visit options files) where
  left m := m.scope.Grounded m.state.registry ∧
    (∀ c, m.newClass? options = some c → c.fqsen ∈ classes) ∧
      ∀ f, m.newFunction? options = some f → f.fqsen ∈ functions
  right m := m.scope.Grounded m.state.registry
  scopes _ s t := s = t
  states past f g := f.problems = g.problems ∧
    f.registry.SameTaken classes functions g.registry ∧
      ∀ p ∈ past, p.2.operations options = p.1.operations options
  later _ h := h
  after kind h h' := Scope.after_congr kind h h'
  visited {past n s t f g} hleft hright h hstates := by
    obtain ⟨hs, hclasses, hfunctions⟩ := hleft
    obtain ⟨hproblems, htaken, hpast⟩ := hstates
    subst h
    obtain ⟨hops, hflow⟩ := Registry.SameTaken.visited (m := ⟨⟨n, s⟩, f⟩) htaken hclasses hfunctions
    have hanswer := answered_visit options files hs n
    have hanswer' := answered_visit options files hright n
    have haccepted := accepted_visit options files hs n
    have haccepted' := accepted_visit options files hright n
    refine ⟨?_, ?_, ?_, ?_⟩
    · rw [hanswer.flow_eq, hanswer'.flow_eq, hflow]
      exact Flow.both_self (fun _ => rfl) _
    · rw [hanswer.problems_eq, hanswer'.problems_eq, hproblems]
    · have hsucceed := haccepted'.succeed
      rw [hops] at hsucceed
      rw [haccepted.registry_eq, haccepted'.registry_eq, hops]
      exact htaken.performAll haccepted.succeed hsucceed
    · exact List.forall_mem_append.mpr ⟨hpast, List.forall_mem_singleton.mpr hops⟩

namespace SourceUnit

variable (u v : SourceUnit) {r r' : Registry}

variable (options files) in
/-- A unit does the same and reports the same in two registries in which its names are taken
alike. -/
theorem operations_eq_of_sameTaken
    (h : r.SameTaken (declaredClasses options (u.moments options files r))
      (declaredFunctions options (u.moments options files r)) r') :
    u.operations options files r' = u.operations options files r ∧
      (u.index options files r').1.problems = (u.index options files r).1.problems := by
  have hleft : ∀ m ∈ u.moments options files r, (sameness options files
      (declaredClasses options (u.moments options files r))
      (declaredFunctions options (u.moments options files r))).left m := fun m hm =>
    ⟨u.grounded_of_mem_moments options files r m hm,
      fun c hc => mem_declaredClasses.mpr ⟨m, hm, c, hc, rfl⟩,
      fun f hf => mem_declaredFunctions.mpr ⟨m, hm, f, hf, rfl⟩⟩
  obtain ⟨pairs, hfst, hsnd, -, -, hproblems, -, hops⟩ :=
    (sameness options files _ _).walk.1 u.root [] u.startScope u.startScope
      { registry := r } { registry := r' } hleft (u.grounded_of_mem_moments options files r') rfl
      ⟨rfl, h, fun _ hp => nomatch hp⟩
  have hms : u.moments options files r = pairs.map Prod.fst := hfst.symm
  have hms' : u.moments options files r' = pairs.map Prod.snd := hsnd.symm
  refine ⟨?_, hproblems.symm⟩
  rw [operations, operations, hms, hms', List.flatMap_map, List.flatMap_map]
  exact List.flatMap_congr hops

/-- Two units that declare no class and no function of one name. Methods go by their classes. -/
structure Apart (options : Options) (files : SourceFiles) (u v : SourceUnit) (r : Registry) :
    Prop where
  classes : ∀ k ∈ declaredClasses options (u.moments options files r),
    ∀ l ∈ declaredClasses options (v.moments options files r), k.primary ≠ l.primary
  functions : ∀ k ∈ declaredFunctions options (u.moments options files r),
    ∀ l ∈ declaredFunctions options (v.moments options files r),
      k.owner? = none → l.owner? = none → k.primary ≠ l.primary

namespace Apart

variable {u v}

lemma symm (h : Apart options files u v r) : Apart options files v u r where
  classes k hk l hl hkl := h.classes l hl k hk hkl.symm
  functions k hk l hl hk' hl' hkl := h.functions l hl k hk hl' hk' hkl.symm

/-- Nor do they declare methods of one name in one class. -/
lemma functions_ne (h : Apart options files u v r) {k l : Fqsen}
    (hk : k ∈ declaredFunctions options (u.moments options files r))
    (hl : l ∈ declaredFunctions options (v.moments options files r)) : k.primary ≠ l.primary := by
  intro hkl
  obtain ⟨m, -, f, hf, rfl⟩ := mem_declaredFunctions.mp hk
  have howners := Fqsen.owner?_eq_of_primary (Moment.isSome_functionName?_newFunction? hf) hkl
  cases howner : f.fqsen.owner? with
  | none => exact h.functions _ hk l hl howner (howners ▸ howner) hkl
  | some owner =>
      have hclass := owner_mem_declaredClasses hk howner
      have hclass' := owner_mem_declaredClasses hl (howners ▸ howner)
      exact h.classes owner hclass owner hclass' rfl

/-- What one of them registers does not matter to the names of the other. -/
lemma sameTaken (h : Apart options files u v r) :
    r.SameTaken (declaredClasses options (u.moments options files r))
      (declaredFunctions options (u.moments options files r)) (v.index options files r).2 where
  hasClass_eq k hk i := by
    rw [Bool.eq_iff_iff, hasClass_index]
    refine (or_iff_left fun hl => ?_).symm
    exact h.classes k hk _ hl rfl
  hasFunction_eq k hk i := by
    rw [Bool.eq_iff_iff, hasFunction_index]
    refine (or_iff_left fun hl => ?_).symm
    exact h.functions_ne hk hl rfl

end Apart

variable (options files)

/-- **The order of units does not matter** if they declare different names: both orders give the
same registry, and each unit has the same problems in both. -/
theorem index_comm (h : Apart options files u v r) :
    (v.index options files (u.index options files r).2).2 =
        (u.index options files (v.index options files r).2).2 ∧
      (u.index options files (v.index options files r).2).1.problems =
        (u.index options files r).1.problems ∧
      (v.index options files (u.index options files r).2).1.problems =
        (v.index options files r).1.problems := by
  obtain ⟨hu, huproblems⟩ := u.operations_eq_of_sameTaken options files h.sameTaken
  obtain ⟨hv, hvproblems⟩ := v.operations_eq_of_sameTaken options files h.symm.sameTaken
  refine ⟨?_, huproblems, hvproblems⟩
  have hcomm : performAll (v.operations options files r)
        (performAll (u.operations options files r) r) =
      performAll (u.operations options files r) (performAll (v.operations options files r) r) :=
    performAll_comm uses_of_mem_operations uses_of_mem_operations
      (fun k hk hl => h.classes k hk k hl rfl) (fun k hk hl => h.functions_ne hk hl rfl) r
  rw [(u.performAll_operations options files r).2, (v.performAll_operations options files r).2]
    at hcomm
  calc (v.index options files (u.index options files r).2).2
      = performAll (v.operations options files r) (u.index options files r).2 := by
        rw [← (v.performAll_operations options files _).2, hv]
    _ = performAll (u.operations options files r) (v.index options files r).2 := hcomm
    _ = (u.index options files (v.index options files r).2).2 := by
        rw [← (u.performAll_operations options files _).2, hu]

/-- A unit with a class. -/
def userUnit : SourceUnit where
  path := "user.php"
  root := { kind := .classDecl, children := [.str "User", .node {
    kind := .methodDecl, children := [.str "save"] }] }

/-- A unit with a class that has a method of the same name, and with a function. -/
def logUnit : SourceUnit where
  path := "log.php"
  root := { kind := .stmtList, children := [
    .node { kind := .classDecl, children := [.str "Log", .node {
      kind := .methodDecl, children := [.str "save"] }] },
    .node { kind := .functionDecl, children := [.str "log"] }] }

/-- Units with methods of one name in different classes. -/
theorem index_comm_userUnit_logUnit :
    Apart {} {} userUnit logUnit .empty ∧
      (logUnit.index {} {} (userUnit.index {} {} .empty).2).2 =
        (userUnit.index {} {} (logUnit.index {} {} .empty).2).2 := by
  have hapart : Apart {} {} userUnit logUnit .empty := ⟨by decide, by decide⟩
  exact ⟨hapart, (index_comm {} {} userUnit logUnit hapart).1⟩

end SourceUnit

end

end PhpIndex
