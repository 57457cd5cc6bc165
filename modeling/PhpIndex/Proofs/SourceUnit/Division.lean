import PhpIndex.Proofs.SourceUnit.Registration
import PhpIndex.Proofs.Walk.Ranges
import PhpIndex.Proofs.Walk.Sites

/-!
Units that are cut where a namespace is declared.

* `Registered.noteAll_add`: counts go on from where they are;
* `Moment.seen`, `continuing`: the law of two walks, of which one has found something before and
  goes on while the other begins anew, in scopes that are the same but for their lines;
* `walkAll_namespaceDecl`: a namespace declaration does not see the names before it, and leaves none
  of them to what follows;
* `walkAll_eq_adoptNames`: names are all that statements leave behind;
* `SourceUnit.Divides`, `SourceUnit.hardBoundary`: **a namespace declaration is a hard boundary**, at
  which a unit can be cut in two.
-/

namespace PhpIndex

/-! ### Counts that go on -/

namespace Registered

instance : Add Registered where
  add n k :=
    { classes := n.classes + k.classes
      methods := n.methods + k.methods
      functions := n.functions + k.functions }

lemma zero_add (n : Registered) : {} + n = n := by
  show Registered.mk (0 + n.classes) (0 + n.methods) (0 + n.functions) = n
  simp only [Nat.zero_add]

/-- Counts go on from where they are. -/
lemma noteAll_add (n k : Registered) (ops : List Operation) :
    (n + k).noteAll ops = n + k.noteAll ops := by
  induction ops generalizing k with
  | nil => rfl
  | cons op ops ih =>
      have hnote : (n + k).note op = n + k.note op := by
        cases op with
        | count kind => cases kind <;> rfl
        | _ => rfl
      rw [noteAll, List.foldl_cons, hnote, ← noteAll, ih]
      rfl

end Registered

/-! ### Walks that go on -/

/-- What can matter to a visit at a moment: the node, the scope but for its lines, and the
registry. -/
def Moment.seen (m : Moment Findings) : Node × Scope × Registry :=
  (m.node, m.scope.unranged, m.state.registry)

/-- The findings of a walk that began with those of `base`, and the findings of one that began with
none but has come to the same moments. -/
structure Findings.Continues (base : Findings) (past : List (Moment Findings × Moment Findings))
    (f g : Findings) : Prop where
  registry_eq : f.registry = g.registry
  problems_eq : f.problems = base.problems ++ g.problems
  registered_eq : f.registered = base.registered + g.registered
  seen_eq : ∀ p ∈ past, p.1.seen = p.2.seen

lemma Findings.continues_start (base : Findings) :
    base.Continues [] base { registry := base.registry } :=
  ⟨rfl, (List.append_nil _).symm, rfl, List.forall_mem_nil _⟩

section

variable (options : Options) (files : SourceFiles)

/-- A visit finds the same in scopes that are the same but for their lines, whatever was found
before. -/
lemma Findings.Continues.visited {base f g : Findings}
    {past : List (Moment Findings × Moment Findings)} (h : base.Continues past f g) {n : Node}
    {s t : Scope} (hs : s.Grounded f.registry) (ht : t.Grounded g.registry)
    (hscopes : s.unranged = t.unranged) :
    base.Continues (past ++ [(⟨⟨n, s⟩, f⟩, ⟨⟨n, t⟩, g⟩)]) (visit options files n s f).2
      (visit options files n t g).2 := by
  have hanswer := answered_visit options files hs n
  have hanswer' := answered_visit options files ht n
  have haccepted := accepted_visit options files hs n
  have haccepted' := accepted_visit options files ht n
  have hops : t.operations options g.registry n = s.operations options f.registry n := by
    rw [Scope.eq_withRange_of_unranged hscopes, s.operations_withRange, h.registry_eq]
  have hreports : t.reports options files n = s.reports options files n := by
    rw [Scope.eq_withRange_of_unranged hscopes, s.reports_withRange]
  refine ⟨?_, ?_, ?_, List.forall_mem_append.mpr ⟨h.seen_eq, ?_⟩⟩
  · rw [haccepted.registry_eq, haccepted'.registry_eq, hops, h.registry_eq]
  · rw [hanswer.problems_eq, hanswer'.problems_eq, hreports, h.problems_eq, List.append_assoc]
  · rw [hanswer.registered_eq, hanswer'.registered_eq, hops, h.registered_eq,
      Registered.noteAll_add]
  · refine List.forall_mem_singleton.mpr ?_
    simp only [Moment.seen, hscopes, h.registry_eq]

/-- A walk that goes on finds what one finds that begins anew. -/
def continuing (base : Findings) : Lockstep (visit options files) (visit options files) where
  left m := m.scope.Grounded m.state.registry
  right m := m.scope.Grounded m.state.registry
  scopes _ s t := s.unranged = t.unranged
  states := base.Continues
  later _ h := h
  after kind h h' := Scope.after_unranged kind h h'
  visited {past n s t f g} hs ht hscopes h := by
    refine ⟨?_, h.visited options files hs ht hscopes⟩
    rw [(answered_visit options files hs n).flow_eq, (answered_visit options files ht n).flow_eq,
      ← h.registry_eq, Scope.eq_withRange_of_unranged hscopes]
    exact s.flow_withRange t.range options n f.registry

/-! ### Names before a namespace declaration -/

variable {d : Node} (hd : d.kind = .namespaceDecl)

include hd in
/-- A namespace declaration does not see the names before it, and what follows it does not
either. -/
theorem walkAll_namespaceDecl (rest : List Child) (s t : Scope) (f : Findings) :
    walkAll (visit options files) (.node d :: rest) (s.adoptNames t) f =
        walkAll (visit options files) (.node d :: rest) s f ∧
      (momentsAll (visit options files) (.node d :: rest) (s.adoptNames t) f).tail =
        (momentsAll (visit options files) (.node d :: rest) s f).tail := by
  have hvisit (s : Scope) : visit options files d s f =
      (.descend (s.enterNamespace ((d.childText? 0).getD "")), f) := by
    simp only [visit, hd]
  have hwalk : walk (visit options files) d (s.adoptNames t) f =
      walk (visit options files) d s f := by
    rw [walk_eq, walk_eq, hvisit, hvisit]
    rfl
  have hafter (left : Scope) : (s.adoptNames t).after d.kind left = s.after d.kind left := by
    simp only [Scope.after, hd, Kind.passesImports, if_true, Scope.adoptNames]
  constructor
  · rw [walkAll_node, walkAll_node, hwalk, hafter]
  · rw [momentsAll_node, momentsAll_node, moments_eq, moments_eq, hvisit, hvisit, hwalk, hafter]
    rfl

/-- A scope that has adopted names adopts more of them from what comes next. -/
lemma Scope.after_adoptNames (s t : Scope) (kind : Kind) (left : Scope) :
    (s.adoptNames t).after kind left = s.adoptNames ((s.adoptNames t).after kind left) := by
  rw [Scope.after]
  split
  · rfl
  · simp only [Scope.moveTo, Scope.adoptNames]

/-- Names are all that statements leave behind. -/
lemma walkAll_eq_adoptNames (cs : List Child) (s : Scope) (f : Findings) :
    (walkAll (visit options files) cs s f).1 =
      s.adoptNames (walkAll (visit options files) cs s f).1 := by
  refine walkAll_inherit (visit options files) (fun t _ => t = s.adoptNames t) ?_ rfl cs
  intro n t st ht
  rw [ht]
  exact s.after_adoptNames t n.kind _

/-- Statements outside all declarations are walked in the same way whatever was found before them,
in scopes that are the same but for their lines. -/
lemma walkAll_continues (cs : List Child) (base : Findings) {s t : Scope}
    (hs : s.Grounded base.registry) (ht : t.Grounded base.registry)
    (h : s.unranged = t.unranged) :
    (walkAll (visit options files) cs s base).1.unranged =
        (walkAll (visit options files) cs t { registry := base.registry }).1.unranged ∧
      base.Continues [] (walkAll (visit options files) cs s base).2
        (walkAll (visit options files) cs t { registry := base.registry }).2 ∧
      (momentsAll (visit options files) cs s base).map Moment.seen =
        (momentsAll (visit options files) cs t { registry := base.registry }).map Moment.seen := by
  obtain ⟨pairs, hfst, hsnd, -, hscopes, hstates⟩ :=
    (continuing options files base).walk.2 cs [] s t base { registry := base.registry }
      ((registration options files).moments.2 cs s base hs)
      ((registration options files).moments.2 cs t { registry := base.registry } ht) h
      base.continues_start
  refine ⟨hscopes, ?_, ?_⟩
  · exact ⟨hstates.registry_eq, hstates.problems_eq, hstates.registered_eq, List.forall_mem_nil _⟩
  · rw [← hfst, ← hsnd, List.map_map, List.map_map]
    exact List.map_congr_left hstates.seen_eq

/-! ### Units in two parts -/

namespace SourceUnit

/-- A unit of statements is cut in two where a namespace is declared. The parts have its path; what
else the roots hold beside their statements does not matter. -/
structure Divides (w u v : SourceUnit) (d : Node) : Prop where
  path_left : u.path = w.path
  path_right : v.path = w.path
  whole : w.root.kind = .stmtList
  left : u.root.kind = .stmtList
  right : v.root.kind = .stmtList
  statements : w.root.children = u.root.children ++ v.root.children
  /-- The second part begins with the declaration of a namespace. -/
  first : ∃ rest, v.root.children = .node d :: rest
  isNamespace : d.kind = .namespaceDecl

/-- What a unit and its two parts have to do with each other, if the second part is registered after
the first. -/
structure HardBoundary (w u v : SourceUnit) (d : Node) (r : Registry) : Prop where
  registry : (w.index options files r).2 =
    (v.index options files (u.index options files r).2).2
  report : (w.index options files r).1.report = (u.index options files r).1.report ++
    (v.index options files (u.index options files r).2).1.report
  registered : (w.index options files r).1.registered = (u.index options files r).1.registered +
    (v.index options files (u.index options files r).2).1.registered
  /-- The unit ends in the namespace and with the aliases in which its second part ends. -/
  space : (w.index options files r).1.scope.space =
    (v.index options files (u.index options files r).2).1.scope.space
  imports : (w.index options files r).1.scope.imports =
    (v.index options files (u.index options files r).2).1.scope.imports
  /-- The first part leaves nothing behind but names and what it has registered. -/
  onlyNames : (u.index options files r).1.scope =
    u.startScope.adoptNames (u.index options files r).1.scope
  /-- Both parts are visited as they are alone. The declaration of the namespace itself is visited in
  the scope that the first part leaves behind, of which nothing can be seen after it. -/
  visits : (w.moments options files r).tail.map Moment.seen =
    (u.moments options files r).tail.map Moment.seen ++
      (d, (u.index options files r).1.scope.unranged, (u.index options files r).2) ::
        (v.moments options files (u.index options files r).2).tail.tail.map Moment.seen

section

variable {u : SourceUnit} (h : u.root.kind = .stmtList)

include h

/-- The statements of a unit are walked in its scope. -/
lemma walk_of_stmtList (f : Findings) :
    u.walk options files f =
      walkAll (visit options files) u.root.children u.startScope f := by
  rw [SourceUnit.walk, walk_eq]
  simp only [visit, h]

lemma tail_moments_of_stmtList (r : Registry) :
    (u.moments options files r).tail =
      momentsAll (visit options files) u.root.children u.startScope { registry := r } := by
  rw [moments, moments_eq]
  simp only [visit, h, List.tail_cons]

end

lemma unranged_startScope {u w : SourceUnit} (h : u.path = w.path) :
    w.startScope.unranged = u.startScope.unranged := by
  rw [startScope, startScope, h]
  rfl

/-- Where the walk of a unit is when the statements of its first part are behind it. -/
structure Halfway (w u : SourceUnit) (r : Registry) (s : Scope) (f : Findings) : Prop where
  reached : walkAll (visit options files) u.root.children w.startScope { registry := r } = (s, f)
  names : s = w.startScope.adoptNames s
  scope : s.unranged = (u.index options files r).1.scope.unranged
  registry : f.registry = (u.index options files r).2
  problems : f.problems = (u.index options files r).1.problems
  registered : f.registered = (u.index options files r).1.registered
  moments : (momentsAll (visit options files) u.root.children w.startScope
    { registry := r }).map Moment.seen = (u.moments options files r).tail.map Moment.seen

section

variable {w u v : SourceUnit} {d : Node} (h : w.Divides u v d) {r : Registry}

include h

/-- It has found there what the first part has found at its end. -/
lemma Divides.exists_halfway : ∃ s f, Halfway options files w u r s f := by
  obtain ⟨hscope, hfound, hmoments⟩ := walkAll_continues options files u.root.children
    { registry := r } (w.grounded_startScope r) (u.grounded_startScope r)
    (unranged_startScope h.path_left)
  rw [← walk_of_stmtList options files h.left] at hscope hfound
  rw [← tail_moments_of_stmtList options files h.left] at hmoments
  exact ⟨_, _, {
    reached := rfl
    names := walkAll_eq_adoptNames options files u.root.children w.startScope { registry := r }
    scope := hscope
    registry := hfound.registry_eq
    problems := hfound.problems_eq
    registered := hfound.registered_eq.trans (Registered.zero_add _)
    moments := hmoments }⟩

variable {s : Scope} {f : Findings} (hf : Halfway options files w u r s f)

include hf

/-- From there it goes on as if the statements behind it had left no names. -/
lemma Halfway.walk_eq :
    w.walk options files { registry := r } =
      walkAll (visit options files) v.root.children w.startScope f := by
  obtain ⟨rest, hrest⟩ := h.first
  rw [walk_of_stmtList options files h.whole, h.statements, walkAll_append, hf.reached, hrest,
    ← (walkAll_namespaceDecl options files h.isNamespace rest w.startScope s f).1, ← hf.names]

/-- Only the declaration of the namespace is visited with these names. -/
lemma Halfway.moments_eq :
    (w.moments options files r).tail.map Moment.seen =
      (u.moments options files r).tail.map Moment.seen ++ (d, s.unranged, f.registry) ::
        (momentsAll (visit options files) v.root.children w.startScope f).tail.map
          Moment.seen := by
  obtain ⟨rest, hrest⟩ := h.first
  have hhead : momentsAll (visit options files) v.root.children s f = ⟨⟨d, s⟩, f⟩ ::
      (momentsAll (visit options files) v.root.children w.startScope f).tail := by
    rw [hrest, ← (walkAll_namespaceDecl options files h.isNamespace rest w.startScope s f).2,
      ← hf.names, momentsAll_node, PhpIndex.moments_eq]
    rfl
  rw [tail_moments_of_stmtList options files h.whole, h.statements, momentsAll_append, hf.reached,
    List.map_append, hf.moments, hhead]
  rfl

end

/-- **A namespace declaration is a hard boundary**: a unit that is cut in two there is registered
like its parts one after the other, whatever they hold. -/
theorem hardBoundary {w u v : SourceUnit} {d : Node} (h : w.Divides u v d) (r : Registry) :
    HardBoundary options files w u v d r := by
  obtain ⟨s, f, hf⟩ := h.exists_halfway options files (r := r)
  obtain ⟨hscope, hfound, hmoments⟩ := walkAll_continues options files v.root.children f
    (w.grounded_startScope f.registry) (v.grounded_startScope f.registry)
    (unranged_startScope h.path_right)
  rw [← hf.walk_eq options files h, ← walk_of_stmtList options files h.right] at hscope hfound
  rw [← tail_moments_of_stmtList options files h.right] at hmoments
  have hlast := walkAll_eq_adoptNames options files u.root.children u.startScope { registry := r }
  rw [← walk_of_stmtList options files h.left] at hlast
  have hnext : v.index options files (u.index options files r).2 =
      v.index options files f.registry := by
    rw [hf.registry]
  have hspace := congrArg Scope.space hscope
  have himports := congrArg Scope.imports hscope
  have hbehind :
      (momentsAll (visit options files) v.root.children w.startScope f).tail.map Moment.seen =
        (v.moments options files f.registry).tail.tail.map Moment.seen := by
    rw [List.map_tail, hmoments, ← List.map_tail]
  refine ⟨?_, ?_, ?_, ?_, ?_, hlast, ?_⟩
  · rw [hnext]
    exact hfound.registry_eq
  · calc (w.index options files r).1.report
        = (f.problems ++ (v.index options files f.registry).1.problems).map Problem.diagnostic :=
          congrArg (List.map Problem.diagnostic) hfound.problems_eq
      _ = (u.index options files r).1.report ++
            (v.index options files (u.index options files r).2).1.report := by
          rw [List.map_append, hf.problems, hnext]
          rfl
  · rw [hnext, ← hf.registered]
    exact hfound.registered_eq
  · rw [hnext]
    exact hspace
  · rw [hnext]
    exact himports
  · rw [hf.moments_eq options files h, hbehind, hf.scope, hf.registry]

/-- A unit with an import and a class in a branch that makes use of it. -/
def importingUnit : SourceUnit where
  path := "base.php"
  root := { kind := .stmtList, children := [
    .node { kind := .useDecl, flags := 1, children := [
      .node { kind := .useElem, children := [.str "Lib\\Base", .empty] }] },
    .node { kind := .ifStmt, children := [
      .node { kind := .classDecl, children := [
        .str "A", .node { kind := .name, flags := 1, children := [.str "Base"] }] }] }] }

/-- The declaration of the namespace `App`. -/
def appDecl : Node := { kind := .namespaceDecl, children := [.str "App"] }

/-- A unit with a class of the namespace that is written in the same way. -/
def appUnit : SourceUnit where
  path := "base.php"
  root := { kind := .stmtList, children := [
    .node appDecl,
    .node { kind := .classDecl, children := [
      .str "B", .node { kind := .name, flags := 1, children := [.str "Base"] }] }] }

/-- A unit with the statements of both. -/
def joinedUnit : SourceUnit where
  path := "base.php"
  root := { kind := .stmtList, line := 1,
            children := importingUnit.root.children ++ appUnit.root.children }

/-- Neither the import nor the branch reaches the class in the namespace. -/
theorem hardBoundary_joinedUnit :
    joinedUnit.Divides importingUnit appUnit appDecl ∧
      HardBoundary {} {} joinedUnit importingUnit appUnit appDecl .empty ∧
      (joinedUnit.index {} {} .empty).2.classList.map
          (fun c => (c.fqsen, c.parent?, c.isConditional)) =
        [(.ofClass "" "A", some (.ofClass "Lib" "Base"), true),
          (.ofClass "App" "B", some (.ofClass "App" "Base"), false)] := by
  have hdivides : joinedUnit.Divides importingUnit appUnit appDecl :=
    ⟨rfl, rfl, rfl, rfl, rfl, rfl, ⟨_, rfl⟩, rfl⟩
  exact ⟨hdivides, hardBoundary {} {} hdivides .empty, by decide +kernel⟩

end SourceUnit

end

end PhpIndex
