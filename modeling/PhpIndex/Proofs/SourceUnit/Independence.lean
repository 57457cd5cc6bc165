import PhpIndex.Proofs.SourceUnit.Ancestry
import PhpIndex.Proofs.Walk.Alike

/-!
What a unit tells does not depend on what other units have registered.

* `classPairs`, `functionPairs`: the identities that two walks give to what is declared at the same
  nodes;
* `Findings.Alike`: findings of two walks that are the same but for alternate ids;
* `likeness`: two walks of a unit find what is alike, one visit after the other;
* `SourceUnit.independent`: **the registry in which a unit is registered changes nothing but the
  alternate ids** of what is declared: the problems, the counts, the final names and the
  declarations are the same.
-/

namespace PhpIndex

section

variable (options : Options)

/-! ### Declarations in pairs -/

/-- The identities of the classes that two walks register at the same nodes. -/
def classPairs (past : List (Moment Findings × Moment Findings)) : List (Fqsen × Fqsen) :=
  past.flatMap fun p => newClassPairs (p.1.operations options) (p.2.operations options)

/-- The same for functions and methods. -/
def functionPairs (past : List (Moment Findings × Moment Findings)) : List (Fqsen × Fqsen) :=
  past.flatMap fun p => newFunctionPairs (p.1.operations options) (p.2.operations options)

lemma classPairs_append (past more : List (Moment Findings × Moment Findings)) :
    classPairs options (past ++ more) = classPairs options past ++ classPairs options more :=
  List.flatMap_append

lemma functionPairs_append (past more : List (Moment Findings × Moment Findings)) :
    functionPairs options (past ++ more) =
      functionPairs options past ++ functionPairs options more :=
  List.flatMap_append

lemma classPairs_concat (past : List (Moment Findings × Moment Findings))
    (p : Moment Findings × Moment Findings) :
    classPairs options (past ++ [p]) = classPairs options past ++
      newClassPairs (p.1.operations options) (p.2.operations options) := by
  rw [classPairs_append]
  exact congrArg _ (List.flatMap_singleton _ p)

lemma functionPairs_concat (past : List (Moment Findings × Moment Findings))
    (p : Moment Findings × Moment Findings) :
    functionPairs options (past ++ [p]) =
      functionPairs options past ++
        newFunctionPairs (p.1.operations options) (p.2.operations options) := by
  rw [functionPairs_append]
  exact congrArg _ (List.flatMap_singleton _ p)

lemma declaredClasses_concat (ms : List (Moment Findings)) (m : Moment Findings) :
    declaredClasses options (ms ++ [m]) =
      declaredClasses options ms ++ (newClasses (m.operations options)).map (·.fqsen) := by
  rw [← map_fqsen_newClasses, ← map_fqsen_newClasses, List.flatMap_append, newClasses,
    List.filterMap_append, List.map_append, List.flatMap_singleton]
  rfl

lemma declaredFunctions_concat (ms : List (Moment Findings)) (m : Moment Findings) :
    declaredFunctions options (ms ++ [m]) =
      declaredFunctions options ms ++ (newFunctions (m.operations options)).map (·.fqsen) := by
  rw [← map_fqsen_newFunctions, ← map_fqsen_newFunctions, List.flatMap_append, newFunctions,
    List.filterMap_append, List.map_append, List.flatMap_singleton]
  rfl

/-! ### Walks that are alike -/

/-- Findings of two walks that began with the registries `r` and `r'` and have been at some nodes
together. -/
structure Findings.Alike (r r' : Registry) (past : List (Moment Findings × Moment Findings))
    (f g : Findings) : Prop where
  problems_eq : f.problems = g.problems
  registered_eq : f.registered = g.registered
  tally_eq : ∀ kind, f.registry.tally.of kind + r'.tally.of kind =
    g.registry.tally.of kind + r.tally.of kind
  /-- What has been declared is paired in order. -/
  classes_paired : List.Forall₂ (fun k l => (k, l) ∈ classPairs options past)
    (declaredClasses options (past.map Prod.fst)) (declaredClasses options (past.map Prod.snd))
  functions_paired : List.Forall₂ (fun k l => (k, l) ∈ functionPairs options past)
    (declaredFunctions options (past.map Prod.fst)) (declaredFunctions options (past.map Prod.snd))
  registry_matches :
    f.registry.Matches (classPairs options past) (functionPairs options past) g.registry

lemma Findings.alike_start (r r' : Registry) :
    Findings.Alike options r r' [] { registry := r } { registry := r' } :=
  ⟨rfl, rfl, fun _ => Nat.add_comm _ _, .nil, .nil, .nil⟩

variable {options} in
/-- One more node at which two walks have been with operations that are alike. -/
lemma Findings.Alike.next {r r' : Registry} {past : List (Moment Findings × Moment Findings)}
    (m m' : Moment Findings) (h : Findings.Alike options r r' past m.state m'.state)
    (hops : List.Forall₂ (Operation.Alike (classPairs options past) (functionPairs options past))
      (m.operations options) (m'.operations options))
    {f g : Findings} (hproblems : f.problems = g.problems)
    (hf : f.registered = m.state.registered.noteAll (m.operations options))
    (hg : g.registered = m'.state.registered.noteAll (m'.operations options))
    (hfr : f.registry = performAll (m.operations options) m.state.registry)
    (hgr : g.registry = performAll (m'.operations options) m'.state.registry)
    (hs : AllSucceed (m.operations options) m.state.registry)
    (hs' : AllSucceed (m'.operations options) m'.state.registry) :
    Findings.Alike options r r' (past ++ [(m, m')]) f g where
  problems_eq := hproblems
  registered_eq := by rw [hf, hg, h.registered_eq, Registered.noteAll_eq_of_alike hops]
  tally_eq kind := by
    have hkind := h.tally_eq kind
    rw [hfr, hgr, tally_performAll, tally_performAll, counted_eq_of_alike hops]
    omega
  classes_paired := by
    rw [classPairs_concat, List.map_append, List.map_append, List.map_singleton,
      List.map_singleton, declaredClasses_concat, declaredClasses_concat]
    refine List.rel_append (h.classes_paired.imp fun _ _ => List.mem_append_left _) ?_
    exact (forall₂_newClassPairs hops).imp fun _ _ => List.mem_append_right _
  functions_paired := by
    rw [functionPairs_concat, List.map_append, List.map_append, List.map_singleton,
      List.map_singleton, declaredFunctions_concat, declaredFunctions_concat]
    refine List.rel_append (h.functions_paired.imp fun _ _ => List.mem_append_left _) ?_
    exact (forall₂_newFunctionPairs hops).imp fun _ _ => List.mem_append_right _
  registry_matches := by
    rw [classPairs_concat, functionPairs_concat, hfr, hgr]
    exact h.registry_matches.performAll hops hs hs'

variable (files : SourceFiles)

/-- Two walks of a tree find what is alike, whatever the registries they begin with. -/
def likeness (r r' : Registry) : Lockstep (visit options files) (visit options files) where
  left m := m.scope.Grounded m.state.registry
  right m := m.scope.Grounded m.state.registry
  scopes past := Scope.Alike (classPairs options past) (functionPairs options past)
  states := Findings.Alike options r r'
  later {past s t} more h := by
    rw [classPairs_append, functionPairs_append]
    exact h.mono (List.subset_append_left _ _) (List.subset_append_left _ _)
  after kind h h' := h.after kind h'
  visited {past n s t f g} hs ht h hstates := by
    have hanswer := answered_visit options files hs n
    have hanswer' := answered_visit options files ht n
    have haccepted := accepted_visit options files hs n
    have haccepted' := accepted_visit options files ht n
    have hkeys := hstates.registry_matches.classes.key_eq
    have hops := h.operations options n hkeys hs ht
    constructor
    · rw [hanswer.flow_eq, hanswer'.flow_eq, classPairs_concat, functionPairs_concat]
      exact h.flow options n hkeys hs ht
    · refine Findings.Alike.next ⟨⟨n, s⟩, f⟩ ⟨⟨n, t⟩, g⟩ hstates hops ?_ hanswer.registered_eq
        hanswer'.registered_eq haccepted.registry_eq haccepted'.registry_eq haccepted.succeed
        haccepted'.succeed
      rw [hanswer.problems_eq, hanswer'.problems_eq, hstates.problems_eq, h.reports_eq]

/-! ### Units -/

/-- A unit that is registered in two registries. -/
structure SourceUnit.SameIn (u : SourceUnit) (r r' : Registry) : Prop where
  /-- The same nodes are visited. -/
  nodes_eq : (u.moments options files r).map (·.node) = (u.moments options files r').map (·.node)
  problems_eq : (u.index options files r).1.problems = (u.index options files r').1.problems
  registered_eq : (u.index options files r).1.registered = (u.index options files r').1.registered
  space_eq : (u.index options files r).1.scope.space = (u.index options files r').1.scope.space
  imports_eq :
    (u.index options files r).1.scope.imports = (u.index options files r').1.scope.imports
  /-- Each count grows by the same number. -/
  tally_grows : ∃ grown : Counted → Nat, ∀ kind,
    (u.index options files r).2.tally.of kind = r.tally.of kind + grown kind ∧
      (u.index options files r').2.tally.of kind = r'.tally.of kind + grown kind
  /-- In the order of their declarations the classes are the same without alternate ids. -/
  classes_alike : List.Forall₂
    (fun k l => k.bare = l.bare ∧ ∃ c d, (u.index options files r).2.class? k = some c ∧
      (u.index options files r').2.class? l = some d ∧ c.bare = d.bare)
    (declaredClasses options (u.moments options files r))
    (declaredClasses options (u.moments options files r'))
  /-- So are the methods of classes and, apart from them, the functions. -/
  methods_alike : List.Forall₂
    (fun k l => k.bare = l.bare ∧ ∃ f g, (u.index options files r).2.function? k = some f ∧
      (u.index options files r').2.function? l = some g ∧ f.bare = g.bare)
    ((declaredFunctions options (u.moments options files r)).filter (·.owner?.isSome))
    ((declaredFunctions options (u.moments options files r')).filter (·.owner?.isSome))
  functions_alike : List.Forall₂
    (fun k l => k.bare = l.bare ∧ ∃ f g, (u.index options files r).2.function? k = some f ∧
      (u.index options files r').2.function? l = some g ∧ f.bare = g.bare)
    ((declaredFunctions options (u.moments options files r)).filter (·.owner?.isNone))
    ((declaredFunctions options (u.moments options files r')).filter (·.owner?.isNone))

/-- **What a unit tells does not depend on other units**: whatever is registered before it, its
problems, its counts and its declarations are the same but for the alternate ids. -/
theorem SourceUnit.independent (u : SourceUnit) (r r' : Registry) :
    u.SameIn options files r r' := by
  obtain ⟨pairs, hfst, hsnd, hnodes, hscopes, hstates⟩ :=
    (likeness options files r r').walk.1 u.root [] u.startScope u.startScope
      { registry := r } { registry := r' } (u.grounded_of_mem_moments options files r)
      (u.grounded_of_mem_moments options files r') ⟨rfl, .none, .none⟩
      (Findings.alike_start options r r')
  have hms : u.moments options files r = pairs.map Prod.fst := hfst.symm
  have hms' : u.moments options files r' = pairs.map Prod.snd := hsnd.symm
  have hclasses := hstates.registry_matches.classes
  have hfunctions := hstates.registry_matches.functions
  have halike : List.Forall₂
      (fun k l => k.bare = l.bare ∧ ∃ f g, (u.index options files r).2.function? k = some f ∧
        (u.index options files r').2.function? l = some g ∧ f.bare = g.bare)
      (declaredFunctions options (u.moments options files r))
      (declaredFunctions options (u.moments options files r')) := by
    rw [hms, hms']
    exact hstates.functions_paired.imp fun k l hkl =>
      ⟨hfunctions.key_eq _ hkl, hfunctions.entry_eq _ hkl⟩
  have howner {k l : Fqsen} (h : k.bare = l.bare) : k.owner?.isSome = l.owner?.isSome := by
    rw [← k.isSome_owner?_bare, h, l.isSome_owner?_bare]
  refine ⟨?_, hstates.problems_eq, hstates.registered_eq, ?_, ?_, ?_, ?_, ?_, ?_⟩
  · rw [hms, hms', List.map_map, List.map_map]
    exact List.map_congr_left hnodes
  · exact Scope.Alike.space_eq hscopes
  · exact Scope.Alike.imports_eq hscopes
  · refine ⟨fun kind => (u.index options files r).2.tally.of kind - r.tally.of kind,
      fun kind => ?_⟩
    have hle := (u.frame_index options files r).tally_le kind
    have heq : (u.index options files r).2.tally.of kind + r'.tally.of kind =
        (u.index options files r').2.tally.of kind + r.tally.of kind := hstates.tally_eq kind
    dsimp only
    omega
  · rw [hms, hms']
    exact hstates.classes_paired.imp fun k l hkl =>
      ⟨hclasses.key_eq _ hkl, hclasses.entry_eq _ hkl⟩
  · exact List.rel_filter (fun k l h => by simp only [howner h.1]) halike
  · refine List.rel_filter (fun k l h => ?_) halike
    simp only [← Option.not_isSome, howner h.1]

end

end PhpIndex
