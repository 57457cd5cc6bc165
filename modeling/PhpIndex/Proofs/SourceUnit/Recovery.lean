import PhpIndex.Proofs.SourceUnit.Settled
import PhpIndex.Proofs.Walk.Emptied
import PhpIndex.Proofs.Walk.Failures
import PhpIndex.Proofs.Walk.Lockstep

/-!
Units with declarations that fail.

* `Findings.Beside`: two findings that are the same but for the problems before some point;
* `besides`, `walkAll_beside`: **problems do not matter to a walk**, which adds the same to both;
* `Healed`, `Healed.here`, `Healed.inside`, `Reaches.healed`: what becomes of the walk of a tree
  once a declaration that fails is left out of a list of statements, for the list itself and for
  each tree around it;
* `SourceUnit.recovers`: **a broken declaration harms nothing but itself**: without it the unit is
  registered in the same way, and has the same problems but for its own.
-/

namespace PhpIndex

/-! ### Problems of the past -/

/-- Two findings that are the same but for the problems up to some point, which are `p` in one and
`q` in the other. -/
structure Findings.Beside (p q : List Problem) (f g : Findings) : Prop where
  registry_eq : f.registry = g.registry
  registered_eq : f.registered = g.registered
  problems : ∃ later, f.problems = p ++ later ∧ g.problems = q ++ later

/-- A problem is all that a note adds. -/
lemma Findings.beside_note (f : Findings) (s : Scope) (line : Nat) (issue : Issue) :
    (f.note s line issue).Beside (f.problems ++ [s.problem line issue]) f.problems f :=
  ⟨rfl, rfl, [], (List.append_nil _).symm, (List.append_nil _).symm⟩

section

variable {options : Options} {files : SourceFiles} {p q : List Problem} {f g : Findings}
variable {s : Scope}

variable (options files) in
/-- A visit goes on in the same way whatever the problems before it are, and adds the same to
them. -/
lemma Findings.Beside.visit (h : f.Beside p q g) (hs : s.Grounded f.registry) (node : Node) :
    (visit options files node s f).1 = (visit options files node s g).1 ∧
      (visit options files node s f).2.Beside p q (visit options files node s g).2 := by
  have hs' : s.Grounded g.registry := h.registry_eq ▸ hs
  have hf := answered_visit options files hs node
  have hg := answered_visit options files hs' node
  have hregistry := (accepted_visit options files hs node).registry_eq
  have hregistry' := (accepted_visit options files hs' node).registry_eq
  obtain ⟨later, hp, hq⟩ := h.problems
  refine ⟨?_, ?_, ?_, later ++ s.reports options files node, ?_, ?_⟩
  · rw [hf.flow_eq, hg.flow_eq, h.registry_eq]
  · rw [hregistry, hregistry', h.registry_eq]
  · rw [hf.registered_eq, hg.registered_eq, h.registry_eq, h.registered_eq]
  · rw [hf.problems_eq, hp, List.append_assoc]
  · rw [hg.problems_eq, hq, List.append_assoc]

variable (options files p q) in
/-- So two walks in the same scope stay in step, whatever the problems before them are. -/
def besides : Lockstep (visit options files) (visit options files) where
  left m := m.scope.Grounded m.state.registry
  right _ := True
  scopes _ s t := s = t
  states _ f g := f.Beside p q g
  later _ h := h
  after kind h h' := Scope.after_congr kind h h'
  visited {past n s t f g} hs _ hscopes h := by
    obtain ⟨hflow, hfindings⟩ := h.visit options files hs n
    rw [← hscopes, ← hflow]
    exact ⟨Flow.both_self (fun _ => rfl) _, hfindings⟩

/-- Two walks that end in the same scope, with findings that are the same but for the problems up to
some point. -/
structure EndBeside (p q : List Problem) (out out' : Scope × Findings) : Prop where
  scope_eq : out.1 = out'.1
  findings : out.2.Beside p q out'.2

/-- **Problems do not matter to a walk**: whatever the problems before it are, it leaves the same
scope behind and adds the same to the findings. -/
theorem walkAll_beside (hs : s.Grounded f.registry) (h : f.Beside p q g) (cs : List Child) :
    EndBeside p q (walkAll (visit options files) cs s f)
      (walkAll (visit options files) cs s g) := by
  obtain ⟨_, -, -, -, hscope, hfindings⟩ :=
    (besides options files p q).walk.2 cs [] s s f g
      ((registration options files).moments.2 cs s f hs) (fun _ _ => trivial) rfl h
  exact ⟨hscope, hfindings⟩

end

/-! ### Trees without a declaration that fails -/

section

variable {options : Options} {files : SourceFiles} {l : Level} {s s' : Scope} {f f' : Findings}

/-- A tree at which the walk goes down is walked like its row of slots, of which one may be
singled out. -/
lemma walk_fill {c : Child} (hv : visit options files (l.fill c) s f = (.descend s', f'))
    {t : Scope} {g : Findings}
    (hslot : walkAll (visit options files) (l.before ++ [c]) s' f' = (t, g)) :
    walk (visit options files) (l.fill c) s f = walkAll (visit options files) l.after t g := by
  have hrow : (l.fill c).children = (l.before ++ [c]) ++ l.after := by simp [Level.fill]
  simp only [walk_eq, hv, hrow]
  rw [walkAll_append, hslot]

/-- The walk of a tree with a declaration that fails, and that of the tree without it: they end in
the same scope, with the same findings but for the problem of the failure. -/
structure Healed (options : Options) (files : SourceFiles) (m : Moment Findings) (issue : Issue)
    (n n' : Node) (s : Scope) (f : Findings) : Prop where
  emptied : Emptied m.node n n'
  ends : EndBeside (m.state.problems ++ [m.scope.problem m.node.line issue]) m.state.problems
    (walk (visit options files) n s f) (walk (visit options files) n' s f)

namespace Healed

variable {m : Moment Findings} {issue : Issue}
variable (hcompat : options.checksCompatibility = false) (hfail : m.failure? options = some issue)

include hcompat hfail

/-- A list of statements without one that fails. -/
lemma here (hm : m.scope.Settled m.state.registry) (hkind : l.above.kind = .stmtList)
    (hrow : l.above.children = l.before ++ .node m.node :: l.after)
    (hv : visit options files l.above s f = (.descend s', f'))
    (hbefore : walkAll (visit options files) l.before s' f' = (m.scope, m.state)) :
    Healed options files m issue l.above (l.fill .empty) s f := by
  obtain ⟨hname, hparam⟩ := Moment.kind_of_failure? hfail
  have hemptied : Emptied m.node l.above (l.fill .empty) := .here hkind hrow
  have hv' := hemptied.visit_eq options s hcompat hname hparam hv
  have hskip : walk (visit options files) m.node m.scope m.state =
      (m.scope, m.state.note m.scope m.node.line issue) := by
    rw [walk_eq, Moment.visit_of_failure? files hfail]
  have hslot : walkAll (visit options files) (l.before ++ [.node m.node]) s' f' =
      (m.scope, m.state.note m.scope m.node.line issue) := by
    rw [walkAll_append, hbefore, walkAll_node, hskip, walkAll_nil, hm.after_self]
  have hslot' : walkAll (visit options files) (l.before ++ [.empty]) s' f' =
      (m.scope, m.state) := by
    rw [walkAll_append, hbefore]
    rfl
  refine ⟨hemptied, ?_⟩
  rw [← l.fill_eq hrow] at hv ⊢
  rw [walk_fill hv hslot, walk_fill hv' hslot']
  have hm' : m.scope.Grounded (m.state.note m.scope m.node.line issue).registry := hm.grounded
  exact walkAll_beside hm' (m.state.beside_note m.scope m.node.line issue) l.after

/-- A tree around a list of statements without one that fails. -/
lemma inside {k k' : Node} {t : Scope} {g : Findings} (ht : t.Settled g.registry)
    (hrow : l.above.children = l.before ++ .node k :: l.after)
    (hv : visit options files l.above s f = (.descend s', f'))
    (hbefore : walkAll (visit options files) l.before s' f' = (t, g))
    (h : Healed options files m issue k k' t g) :
    Healed options files m issue l.above (l.fill (.node k')) s f := by
  obtain ⟨hname, hparam⟩ := Moment.kind_of_failure? hfail
  have hemptied : Emptied m.node l.above (l.fill (.node k')) := .inside h.emptied hrow
  have hv' := hemptied.visit_eq options s hcompat hname hparam hv
  have hslot (k : Node) : walkAll (visit options files) (l.before ++ [.node k]) s' f' =
      (t.after k.kind (walk (visit options files) k t g).1,
        (walk (visit options files) k t g).2) := by
    rw [walkAll_append, hbefore, walkAll_node, walkAll_nil]
  refine ⟨hemptied, ?_⟩
  rw [← l.fill_eq hrow] at hv ⊢
  rw [walk_fill hv (hslot k), walk_fill hv' (hslot k'), h.emptied.kind_eq, ← h.ends.scope_eq]
  exact walkAll_beside (ht.afterTree options files k).grounded h.ends.findings l.after

end Healed

/-! ### From a list of statements to the root -/

variable {n n' : Node} {levels inner : List Level} {q : Site Findings}

/-- **A tree is healed with each of those in it**, along the way up from there. -/
theorem Reaches.healed {m : Moment Findings} {issue : Issue}
    (hcompat : options.checksCompatibility = false) (hfail : m.failure? options = some issue)
    (h : Reaches (visit options files) n levels s f q) (hs : s.Settled f.registry)
    (hlevels : q.levels = inner ++ levels)
    (hq : Healed options files m issue q.node n' q.scope q.state) :
    Healed options files m issue n (rebuild inner n') s f := by
  induction h generalizing inner with
  | here =>
      obtain rfl : inner = [] := List.self_eq_append_left.mp hlevels
      exact hq
  | @down n k levels s s' f f' q xs ys hv hrow h ih =>
      obtain ⟨inner', hinner, -⟩ := h.stands
      -- the last of the levels is that of the tree itself
      obtain rfl : inner = inner' ++ [⟨n, xs, ys⟩] := by
        refine (List.append_left_inj levels).mp ?_
        rw [← hlevels, hinner, List.append_assoc]
        rfl
      have hs' := hs.visited hv
      have hrow' := hs'.afterRow options files xs
      rw [rebuild_append]
      exact .inside (l := ⟨n, xs, ys⟩) hcompat hfail hrow' hrow hv rfl (ih hrow' hinner hq)

/-! ### Units -/

namespace SourceUnit

variable (options files) (u : SourceUnit) (r : Registry)

/-- What is left of a declaration that fails at a site, where `v` is the unit without it. -/
structure Unharmed (p : Site Findings) (issue : Issue) (v : SourceUnit) : Prop where
  fatal : issue.category = .fatal
  /-- Nothing below the declaration is visited. -/
  passedOver : PhpIndex.sites (visit options files) p.node p.levels p.scope p.state = [p]
  /-- What follows it has the scope in which it was visited, without any alias of its own. -/
  after_eq : p.scope.after p.node.kind
    (PhpIndex.walk (visit options files) p.node p.scope p.state).1 = p.scope
  registry_eq : (u.index options files r).2 = (v.index options files r).2
  scope_eq : (u.index options files r).1.scope = (v.index options files r).1.scope
  registered_eq : (u.index options files r).1.registered = (v.index options files r).1.registered
  /-- The problem at the line of the declaration is the only one that is gone. -/
  problems_eq : ∃ later,
    (u.index options files r).1.problems =
        p.state.problems ++ { issue := issue, file := u.path, line := p.node.line } :: later ∧
      (v.index options files r).1.problems = p.state.problems ++ later

/-- How a unit recovers from the declarations in it that fail. -/
structure Recovers : Prop where
  /-- The levels above a site lead up to the root of the unit. -/
  stands : ∀ p ∈ u.sites options files r, Stands u.root p.node p.levels
  /-- So its tree is the node of the site with these levels around it. -/
  rebuilt : ∀ p ∈ u.sites options files r, rebuild p.levels p.node = u.root
  /-- All statements of a list that is visited are visited. -/
  visited : ∀ q ∈ u.sites options files r, q.node.kind = .stmtList →
    ∀ l : Level, ∀ d : Node, l.above = q.node → l.above.children = l.before ++ .node d :: l.after →
      ∃ p ∈ u.sites options files r, p.node = d ∧ p.levels = l :: q.levels
  /-- One that fails does no harm: the unit is the same if the slot of the statement is empty. -/
  unharmed : ∀ p ∈ u.sites options files r, ∀ l rest, p.levels = l :: rest →
    l.above.kind = .stmtList → ∀ issue, p.failure? options = some issue →
      u.Unharmed options files r p issue { u with root := rebuild rest (l.fill .empty) }

variable {options files u r}

section

variable (hcompat : options.checksCompatibility = false) {p : Site Findings}
variable (hp : p ∈ u.sites options files r) {l : Level} {rest : List Level}
variable (hlevels : p.levels = l :: rest) (hkind : l.above.kind = .stmtList) {issue : Issue}
variable (hfail : p.failure? options = some issue)

include hcompat hp hlevels hkind hfail

/-- The list of statements is healed, and the tree of the unit with it. -/
lemma healed_of_failure? :
    Healed options files p.toMoment issue u.root (rebuild rest (l.fill .empty)) u.startScope
      { registry := r } := by
  obtain ⟨q, hq, hnode, hrest, hrow, s', f', hv, hbefore⟩ :=
    (mem_sites_iff.mp hp).exists_above hlevels (by simp [hlevels])
  rw [hnode] at hv
  have hlist := Healed.here hcompat hfail (settled_of_mem_sites hp) hkind hrow hv hbefore
  rw [← hnode] at hlist
  exact hq.healed hcompat hfail (u.settled_startScope r) (by rw [hrest, List.append_nil]) hlist

lemma unharmed_of_failure? :
    u.Unharmed options files r p issue { u with root := rebuild rest (l.fill .empty) } := by
  have hvisit := Moment.visit_of_failure? files hfail
  have hhealed := healed_of_failure? hcompat hp hlevels hkind hfail
  have hstart : ({ u with root := rebuild rest (l.fill .empty) } : SourceUnit).startScope =
      u.startScope := by
    simp only [startScope, hhealed.emptied.range_eq]
  obtain ⟨hscope, hregistry, hregistered, later, hproblems, hproblems'⟩ := hhealed.ends
  refine ⟨Moment.category_of_failure? hfail, ?_, ?_, ?_, ?_, ?_, later, ?_, ?_⟩
  · rw [sites_eq, hvisit]
  · rw [walk_eq, hvisit]
    exact (settled_of_mem_sites hp).after_self _
  · simp only [index, walk, hstart, hregistry]
  · simp only [index, walk, hstart, hscope]
  · simp only [index, walk, hstart, hregistered]
  · simp only [index, walk, hproblems, Scope.problem, file_eq_of_mem_sites hp, List.append_assoc,
      List.singleton_append]
  · simp only [index, walk, hstart, hproblems']

end

variable (files u r) in
/-- **A broken declaration harms nothing but itself**, as long as expressions are not checked
against the source: a statement that fails is reported and passed over, and without it the unit is
registered in the same way, ends in the same scope and has the same problems but for this one. -/
theorem recovers (hcompat : options.checksCompatibility = false) :
    u.Recovers options files r := by
  refine ⟨fun p => stands_of_mem_sites, ?_, ?_, ?_⟩
  · intro p hp
    exact rebuild_of_stands (stands_of_mem_sites hp)
  · intro q hq hkind l d habove hrow
    have hv : visit options files q.node q.scope q.state = (.descend q.scope, q.state) := by
      simp only [visit, hkind]
    obtain ⟨above, before, after⟩ := l
    obtain rfl : above = q.node := habove
    have hstatement := (mem_sites_iff.mp hq).trans (.down hv hrow .here)
    exact ⟨_, mem_sites_iff.mpr hstatement, rfl, rfl⟩
  · intro p hp l rest hlevels hkind issue hfail
    exact unharmed_of_failure? hcompat hp hlevels hkind hfail

/-- A unit with an import of which the second element is broken, and a class behind it. -/
def brokenUnit : SourceUnit where
  path := "broken.php"
  root := { kind := .stmtList, children := [
    .node { kind := .useDecl, flags := 1, line := 2, children := [
      .node { kind := .useElem, children := [.str "X\\Y", .empty] },
      .node { kind := .useElem, children := [.empty, .empty] }] },
    .node { kind := .classDecl, line := 3, children := [
      .str "C", .node { kind := .name, flags := 1, children := [.str "Y"] }] }] }

/-- No expressions are checked unless this is asked for, and the import is the only declaration that
fails. -/
theorem recovers_brokenUnit :
    ({} : Options).checksCompatibility = false ∧ brokenUnit.Recovers {} {} .empty ∧
      (brokenUnit.sites {} {} .empty).filterMap (·.failure? {}) =
        [Kind.useElem.malformed "missing import target"] :=
  ⟨rfl, recovers {} brokenUnit .empty rfl, by decide +kernel⟩

/-- What its first element says about `Y` does not reach the class. -/
example :
    (brokenUnit.index {} {} .empty).2.classList.map (·.parent?) = [some (.ofClass "" "Y")] := by
  decide +kernel

end SourceUnit

end

end PhpIndex
