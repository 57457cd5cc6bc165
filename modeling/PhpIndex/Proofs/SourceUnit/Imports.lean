import PhpIndex.Proofs.Scope.Aliases
import PhpIndex.Proofs.SourceUnit.Settled
import PhpIndex.Proofs.Walk.Sites

/-!
The imports of a node and the declarations around and before it.

* `Node.lacks`: whether a tree has no node of some kind;
* `Prior`, `priors`: the nodes around a place, and those beside the way down to it, in the order of
  their visits;
* `sinceNamespace`: what counts of them, which is all from the last namespace declaration on;
  `visibleAliases`: the aliases that they leave for the place;
* `Scope.imports_flow`: a visit adds the aliases that its node introduces, and a namespace begins
  without any;
* `Scope.Sees`: a scope with the aliases that are visible in this way and no others; `sees_walk`,
  `Reaches.sees`: what a subtree and a row of slots leave, and what arrives below;
* `SourceUnit.lexicallyImported`: **imports are lexically scoped** in a unit with its namespaces at
  the top: wherever a node is visited it sees the aliases of the declarations around it and beside
  the way down to it, and no others.
-/

namespace PhpIndex

open Text

/-! ### Kinds that a tree lacks -/

namespace Node

mutual

/-- Whether no node of a tree has the kind. -/
def lacks (kind : Kind) : Node → Bool
  | { kind := own, children, .. } => decide (own ≠ kind) && lacksAll kind children
termination_by structural n => n

/-- Whether no node of the subtrees in a row of slots has the kind. -/
def lacksAll (kind : Kind) : List Child → Bool
  | [] => true
  | .node n :: rest => lacks kind n && lacksAll kind rest
  | _ :: rest => lacksAll kind rest
termination_by structural children => children

end

lemma lacksAll_iff {kind : Kind} {cs : List Child} :
    lacksAll kind cs = true ↔ ∀ m ∈ cs.filterMap Child.node?, m.lacks kind = true := by
  induction cs with
  | nil => simp [lacksAll]
  | cons c rest ih => cases c <;> simp [lacksAll, Child.node?, ih]

/-- Whether no node below a node has the kind. -/
def lacksBelow (kind : Kind) (n : Node) : Bool := lacksAll kind n.children

/-- Neither the node nor what is below it has the kind. -/
lemma lacks_iff {kind : Kind} {n : Node} :
    n.lacks kind = true ↔ n.kind ≠ kind ∧ n.lacksBelow kind = true := by
  obtain ⟨own, flags, line, endLine, doc, children⟩ := n
  rw [lacks, Bool.and_eq_true, decide_eq_true_iff]
  rfl

lemma lacks_of_mem {kind : Kind} {n m : Node} (h : n.lacksBelow kind = true)
    (hm : m ∈ n.childNodes) : m.lacks kind = true :=
  lacksAll_iff.mp h m hm

end Node

/-! ### What comes before a place -/

namespace Node

/-- The aliases that a node leaves for what follows it: its own or, if it is a namespace
declaration, those of the declarations that stand in its slots. -/
def handedOn (n : Node) : List Alias :=
  if n.kind = .namespaceDecl then n.childNodes.flatMap introduced else n.introduced

end Node

/-- A node that comes before a place. -/
inductive Prior where
  /-- It is around the place. -/
  | around (n : Node)
  /-- It stands before the place, or before a node around it, in one row. -/
  | beside (n : Node)

namespace Prior

/-- The node. -/
def node : Prior → Node
  | around n => n
  | beside n => n

/-- The aliases that it has for the place. -/
def aliases : Prior → List Alias
  | around n => n.introduced
  | beside n => n.handedOn

end Prior

/-- What comes before a place in its level: the node above and those in the slots before. -/
def Level.priors (l : Level) : List Prior :=
  .around l.above :: (l.before.filterMap Child.node?).map .beside

/-- What comes before a place, in the order of the visits. -/
def priors (levels : List Level) : List Prior := levels.reverse.flatMap Level.priors

lemma priors_cons (l : Level) (levels : List Level) :
    priors (l :: levels) = priors levels ++ l.priors := by
  simp [priors]

/-- What counts of it: all from the last namespace declaration on. -/
def sinceNamespace : List Prior → List Prior
  | [] => []
  | p :: ps => if ps.any (·.node.kind = .namespaceDecl) then sinceNamespace ps else p :: ps

/-- The aliases that are visible at a place. -/
def visibleAliases (ps : List Prior) : List Alias := (sinceNamespace ps).flatMap Prior.aliases

/-- A namespace declaration puts an end to what was before it. -/
lemma sinceNamespace_concat (ps : List Prior) (p : Prior) :
    sinceNamespace (ps ++ [p]) =
      if p.node.kind = .namespaceDecl then [p] else sinceNamespace ps ++ [p] := by
  induction ps with
  | nil => simp [sinceNamespace]
  | cons q ps ih =>
      rw [List.cons_append, sinceNamespace, ih, sinceNamespace, List.any_append]
      by_cases hp : p.node.kind = .namespaceDecl
      · simp [hp]
      · by_cases hps : ps.any (·.node.kind = .namespaceDecl)
        · simp [hp, hps]
        · simp [hp, hps]

lemma visibleAliases_concat (ps : List Prior) (p : Prior) :
    visibleAliases (ps ++ [p]) =
      if p.node.kind = .namespaceDecl then p.aliases else visibleAliases ps ++ p.aliases := by
  rw [visibleAliases, sinceNamespace_concat, visibleAliases]
  split <;> simp

lemma visibleAliases_around (ps : List Prior) (n : Node) :
    visibleAliases (ps ++ [.around n]) =
      if n.kind = .namespaceDecl then n.introduced else visibleAliases ps ++ n.introduced :=
  visibleAliases_concat ps (.around n)

lemma visibleAliases_beside (ps : List Prior) (n : Node) :
    visibleAliases (ps ++ [.beside n]) =
      if n.kind = .namespaceDecl then n.handedOn else visibleAliases ps ++ n.handedOn :=
  visibleAliases_concat ps (.beside n)

/-- Without a namespace declaration among them the aliases of some nodes are added to those
before. -/
lemma visibleAliases_append (ps : List Prior) {qs : List Prior}
    (h : ∀ q ∈ qs, q.node.kind ≠ .namespaceDecl) :
    visibleAliases (ps ++ qs) = visibleAliases ps ++ qs.flatMap Prior.aliases := by
  induction qs using List.reverseRecOn with
  | nil => simp
  | append_singleton qs q ih =>
      obtain ⟨hqs, hq⟩ := List.forall_mem_append.mp h
      rw [← List.append_assoc, visibleAliases_concat, if_neg (hq q List.mem_cons_self), ih hqs,
        List.flatMap_append, List.append_assoc]
      simp

/-- Unless it is a namespace declaration, a node has the same aliases for what is below it and for
what follows it. -/
lemma visibleAliases_beside_eq {n : Node} (h : n.kind ≠ .namespaceDecl) (ps : List Prior) :
    visibleAliases (ps ++ [.beside n]) = visibleAliases (ps ++ [.around n]) := by
  rw [visibleAliases_beside, visibleAliases_around, Node.handedOn, if_neg h, if_neg h, if_neg h]

/-- A node from which imports do not pass leaves those before it. -/
lemma visibleAliases_of_notPassing {n : Node} (h : n.kind.passesImports = false)
    (ps : List Prior) : visibleAliases (ps ++ [.beside n]) = visibleAliases ps := by
  have hspace : n.kind ≠ .namespaceDecl := by rintro hkind; rw [hkind] at h; cases h
  have hnone : n.introduced = [] :=
    Node.introduced_eq_nil (by rintro hkind; rw [hkind] at h; cases h)
      (by rintro hkind; rw [hkind] at h; cases h)
  rw [visibleAliases_beside_eq hspace, visibleAliases_around, if_neg hspace, hnone, List.append_nil]

/-- A declaration that is walked through leaves what comes before the end of its row: a namespace
declaration the aliases that its slots introduce, and another one its own. -/
lemma visibleAliases_below {n : Node} (hbelow : n.lacksBelow .namespaceDecl = true)
    (h : n.kind = .namespaceDecl ∨ n.kind = .useDecl ∧ n.aliases?.isSome = true)
    (ps : List Prior) :
    visibleAliases (ps ++ [.around n] ++ n.childNodes.map .beside) =
      visibleAliases (ps ++ [.beside n]) := by
  have hkind : ∀ m ∈ n.childNodes, m.kind ≠ .namespaceDecl := fun m hm =>
    (Node.lacks_iff.mp (Node.lacks_of_mem hbelow hm)).1
  have hrow : (n.childNodes.map Prior.beside).flatMap Prior.aliases =
      n.childNodes.flatMap Node.introduced := by
    rw [List.flatMap_map]
    exact List.flatMap_congr fun m hm => if_neg (hkind m hm)
  rw [visibleAliases_append _ (by simpa [Prior.node] using hkind), hrow]
  rcases h with hspace | ⟨huse, hformed⟩
  · have hnone : n.introduced = [] := Node.introduced_eq_nil (by simp [hspace]) (by simp [hspace])
    rw [visibleAliases_around, visibleAliases_beside, if_pos hspace, if_pos hspace, hnone,
      List.nil_append, Node.handedOn, if_pos hspace]
  · have hnone : n.childNodes.flatMap Node.introduced = [] := by
      refine List.flatMap_eq_nil_iff.mpr fun m hm => ?_
      have helement := Node.kind_of_mem_useDecl huse hformed m hm
      exact Node.introduced_eq_nil (by simp [helement]) (by simp [helement])
    rw [hnone, List.append_nil, visibleAliases_beside_eq (by simp [huse])]

/-! ### From one scope to the next -/

namespace Scope

variable {s : Scope} {options : Options} {files : SourceFiles} {f : Findings} {node : Node}

/-- Where a declaration succeeds its aliases are added, and where it fails there are none. -/
lemma imports_of_toOption {imported : Except Issue Scope}
    (h : imported.toOption = node.aliases?.map s.withAliases) :
    (∀ s', imported = .ok s' → s'.imports = s.imports.insertAll node.introduced) ∧
      ∀ issue, imported = .error issue → node.introduced = [] := by
  constructor
  · rintro s' rfl
    obtain ⟨aliases, haliases, rfl⟩ := Option.map_eq_some_iff.mp h.symm
    simp [Node.introduced, haliases, withAliases]
  · rintro issue rfl
    have hnone : node.aliases? = none := Option.map_eq_none_iff.mp h.symm
    simp [Node.introduced, hnone]

/-- At a namespace declaration there are no imports at first. Other nodes add the aliases that they
introduce, whether the walk goes down or passes over what is below them. -/
lemma imports_flow (s : Scope) (options : Options) (r : Registry) (node : Node) :
    (s.flow options r node).scope.imports =
      if node.kind = .namespaceDecl then .none else s.imports.insertAll node.introduced := by
  by_cases hspace : node.kind = .namespaceDecl
  · simp only [flow, hspace, if_true, Flow.scope, enterNamespace]
  rw [if_neg hspace]
  by_cases huse : node.kind = .useDecl
  · obtain ⟨hok, herror⟩ := imports_of_toOption (s.afterUse_toOption huse)
    simp only [flow, huse]
    split
    · exact hok _ ‹_›
    · rw [herror _ ‹_›]
      rfl
  by_cases hgroup : node.kind = .groupUse
  · obtain ⟨hok, herror⟩ := imports_of_toOption (s.afterGroupUse_toOption hgroup)
    simp only [flow, hgroup]
    split
    · exact hok _ ‹_›
    · rw [herror _ ‹_›]
      rfl
  rw [Node.introduced_eq_nil huse hgroup, Imports.insertAll_nil, flow]
  split
  case h_1 => contradiction
  case h_2 => contradiction
  case h_3 => contradiction
  -- a declaration that fails is passed over in the scope around it
  iterate 4
    · split <;> rfl
  all_goals rfl

/-- A walk goes down at a namespace declaration, and at another one only if it is well formed. -/
lemma passing_of_flow {s' : Scope} (h : s.flow options f.registry node = .descend s')
    (hpass : node.kind.passesImports = true) :
    node.kind = .namespaceDecl ∨ node.kind = .useDecl ∧ node.aliases?.isSome = true := by
  unfold Kind.passesImports at hpass
  split at hpass
  · exact .inl ‹_›
  · rename_i huse
    have himport := s.afterUse_toOption huse
    simp only [flow, huse] at h
    split at h
    · rename_i hafter
      rw [hafter] at himport
      obtain ⟨aliases, haliases, -⟩ := Option.map_eq_some_iff.mp himport.symm
      exact .inr ⟨huse, by rw [haliases]; rfl⟩
    · cases h
  · rename_i hgroup
    simp only [flow, hgroup] at h
    split at h <;> cases h
  · cases hpass

end Scope

/-! ### What a subtree leaves behind -/

section

variable (options : Options) (files : SourceFiles)

/-- A tree without namespace declarations leaves the namespace that it is walked in. -/
lemma space_walk :
    (∀ n s (f : Findings), s.Settled f.registry → n.lacks .namespaceDecl = true →
        (walk (visit options files) n s f).1.space = s.space) ∧
      ∀ cs s (f : Findings), s.Settled f.registry → Node.lacksAll .namespaceDecl cs = true →
        (walkAll (visit options files) cs s f).1.space = s.space := by
  refine Node.inductionOnRows ?_ ?_ ?_ ?_
  · intro n row s f hs hlacks
    have hkind := (Node.lacks_iff.mp hlacks).1
    have hspace : (visit options files n s f).1.scope.space = s.space := by
      rw [(answered_visit options files hs.grounded n).flow_eq, Scope.space_flow, if_neg hkind]
    rw [walk_eq]
    rcases hv : visit options files n s f with ⟨s' | s', f'⟩ <;> rw [hv] at hspace
    · exact (row s' f' (hs.visited hv) (Node.lacks_iff.mp hlacks).2).trans hspace
    · exact hspace
  · exact fun s f _ _ => rfl
  · intro n rest tree row s f hs hlacks
    rw [Node.lacksAll, Bool.and_eq_true] at hlacks
    have hafter := hs.afterTree options files n
    have hleft := tree s f hs hlacks.1
    rw [walkAll_node, row _ _ hafter hlacks.2, Scope.space_after (by rw [hleft, hs.formed]), hleft]
  · intro c rest hc row s f hs hlacks
    have hrest : Node.lacksAll .namespaceDecl rest = true := by
      rw [Node.lacksAll_iff] at hlacks ⊢
      rwa [List.filterMap_cons_none hc] at hlacks
    rw [walkAll_leaf _ hc]
    exact row s f hs hrest

/-- A scope that has the aliases which some nodes before it leave visible, and no others. -/
def Scope.Sees (s : Scope) (ps : List Prior) : Prop :=
  s.imports = Imports.none.insertAll (visibleAliases ps)

namespace Scope.Sees

variable {ps : List Prior} {s : Scope} {f : Findings} {n : Node}

/-- A visit takes the node into what comes before. -/
lemma visited (h : s.Sees ps) (hs : s.Settled f.registry) :
    (visit options files n s f).1.scope.Sees (ps ++ [.around n]) := by
  rw [Sees, (answered_visit options files hs.grounded n).flow_eq, imports_flow,
    visibleAliases_around]
  by_cases hspace : n.kind = .namespaceDecl
  · have hnone : n.introduced = [] := Node.introduced_eq_nil (by simp [hspace]) (by simp [hspace])
    rw [if_pos hspace, if_pos hspace, hnone, Imports.insertAll_nil]
  · rw [if_neg hspace, if_neg hspace, h, Imports.insertAll_append]

/-- What is below a declaration that hands on imports leaves its own part of them. -/
lemma below (hs : s.Settled f.registry) {s' : Scope} {f' : Findings}
    (hv : visit options files n s f = (.descend s', f')) (hpass : n.kind.passesImports = true)
    (hbelow : n.lacksBelow .namespaceDecl = true) {left : Scope}
    (h : left.Sees (ps ++ [.around n] ++ n.childNodes.map .beside)) :
    left.Sees (ps ++ [.beside n]) := by
  have hflow := (answered_visit options files hs.grounded n).flow_eq
  rw [hv] at hflow
  exact h.trans (congrArg _ (visibleAliases_below hbelow (passing_of_flow hflow.symm hpass) ps))

/-- Where the walk does not go down there is nothing else to leave. -/
lemma beside (hs : s.Settled f.registry) {s' : Scope} {f' : Findings}
    (hv : visit options files n s f = (.skip s', f')) (h : s'.Sees (ps ++ [.around n])) :
    s'.Sees (ps ++ [.beside n]) := by
  have hflow := (answered_visit options files hs.grounded n).flow_eq
  have hspace : n.kind ≠ .namespaceDecl := by
    intro hkind
    simp only [hv, flow, hkind] at hflow
    cases hflow
  rw [Sees, visibleAliases_beside_eq hspace]
  exact h

/-- What follows a node that hands on no imports sees the same as the node, as what is below the
node changes neither the namespace nor, therefore, the imports. -/
lemma after (h : s.Sees ps) (hs : s.Settled f.registry)
    (hbelow : n.lacksBelow .namespaceDecl = true) (hpass : n.kind.passesImports = false) :
    (s.after n.kind (walk (visit options files) n s f).1).Sees (ps ++ [.beside n]) := by
  have hkind : n.kind ≠ .namespaceDecl := by
    intro hkind
    rw [hkind] at hpass
    cases hpass
  have hspace := (space_walk options files).1 n s f hs (Node.lacks_iff.mpr ⟨hkind, hbelow⟩)
  have hsame : s.moveTo (walk (visit options files) n s f).1.space = s :=
    moveTo_of_eq (by rw [hspace, hs.formed])
  rw [Sees, Scope.after, if_neg (Bool.eq_false_iff.mp hpass), hsame,
    visibleAliases_of_notPassing hpass]
  exact h

end Scope.Sees

/-- What a tree leaves behind is its own part of what comes before the next, and so is what a row of
slots leaves. -/
theorem sees_walk :
    (∀ n ps s (f : Findings), s.Settled f.registry → n.kind.passesImports = true →
        n.lacksBelow .namespaceDecl = true → s.Sees ps →
        (walk (visit options files) n s f).1.Sees (ps ++ [.beside n])) ∧
      ∀ cs ps s (f : Findings), s.Settled f.registry →
        (∀ m ∈ cs.filterMap Child.node?, m.lacksBelow .namespaceDecl = true) → s.Sees ps →
        (walkAll (visit options files) cs s f).1.Sees
          (ps ++ (cs.filterMap Child.node?).map .beside) := by
  refine Node.inductionOnRows ?_ ?_ ?_ ?_
  · intro n row ps s f hs hpass hbelow h
    have hvisit := h.visited options files (n := n) hs
    rw [walk_eq]
    rcases hv : visit options files n s f with ⟨s' | s', f'⟩ <;> rw [hv] at hvisit
    · have hrow := row (ps ++ [Prior.around n]) s' f' (hs.visited hv)
        (fun m hm => (Node.lacks_iff.mp (Node.lacks_of_mem hbelow hm)).2) hvisit
      exact .below options files hs hv hpass hbelow hrow
    · exact .beside options files hs hv hvisit
  · intro ps s f _ _ h
    simpa using h
  · intro n rest tree row ps s f hs hbelow h
    rw [List.filterMap_cons_some (by rfl), List.forall_mem_cons] at hbelow
    rw [List.filterMap_cons_some (by rfl), List.map_cons, List.append_cons, walkAll_node]
    refine row _ _ _ (hs.afterTree options files n) hbelow.2 ?_
    cases hpass : n.kind.passesImports with
    | true =>
        have hleft := tree ps s f hs hpass hbelow.1 h
        rw [Scope.after, if_pos hpass]
        exact hleft
    | false => exact h.after options files hs hbelow.1 hpass
  · intro c rest hc row ps s f hs hbelow h
    rw [List.filterMap_cons_none hc] at hbelow ⊢
    rw [walkAll_leaf _ hc]
    exact row ps s f hs hbelow h

/-! ### What arrives at a site -/

variable {options files}

/-- On the way down from a tree whose scope has the aliases that are visible there, each site has
those that are visible at it. -/
theorem Reaches.sees {n : Node} {levels : List Level} {s : Scope} {f : Findings}
    {p : Site Findings} (h : Reaches (visit options files) n levels s f p)
    (hs : s.Settled f.registry)
    (hbelow : ∀ m ∈ n.childNodes, m.lacksBelow .namespaceDecl = true)
    (hsees : s.Sees (priors levels)) : p.scope.Sees (priors p.levels) := by
  induction h with
  | here => exact hsees
  | @down n m levels s s' f f' p xs ys hv hrow h ih =>
      have hxs : ∀ k ∈ xs.filterMap Child.node?, k ∈ n.childNodes := by
        intro k hk
        rw [Node.childNodes, hrow, List.filterMap_append]
        exact List.mem_append_left _ hk
      have hm : m ∈ n.childNodes := by
        rw [Node.childNodes, hrow]
        simp [Child.node?]
      have hbelow' : ∀ k ∈ m.childNodes, k.lacksBelow .namespaceDecl = true := fun k hk =>
        (Node.lacks_iff.mp (Node.lacks_of_mem (hbelow m hm) hk)).2
      have hvisit := hsees.visited options files (n := n) hs
      rw [hv] at hvisit
      have hleft := (sees_walk options files).2 xs (priors levels ++ [Prior.around n]) s' f'
        (hs.visited hv) (fun k hk => hbelow k (hxs k hk)) hvisit
      refine ih (hs.visited hv |>.afterRow options files xs) hbelow' ?_
      rw [priors_cons, Level.priors]
      rwa [List.append_assoc] at hleft

/-! ### Units -/

namespace SourceUnit

variable (options files) (u : SourceUnit) (r : Registry)

/-- The imports at the nodes of a unit. -/
structure LexicallyImported : Prop where
  /-- The sites are those of the nodes in the order of their visits. -/
  visited : (u.sites options files r).map Site.toMoment = u.moments options files r
  stands : ∀ p ∈ u.sites options files r, Stands u.root p.node p.levels
  /-- A node is visited with the aliases that are visible at its site, and with no others. -/
  imports_eq : ∀ p ∈ u.sites options files r,
    p.scope.imports = Imports.none.insertAll (visibleAliases (priors p.levels))
  /-- Of those that answer to a name the last is found. -/
  get?_eq : ∀ p ∈ u.sites options files r, ∀ kind name,
    p.scope.imports.get? kind name =
      ((visibleAliases (priors p.levels)).filter (·.answers kind name)).getLast?.map
        (dropLeading ·.target)
  /-- A declaration that is reported introduces no alias, not even those of its elements that are
  well formed. -/
  malformed : ∀ p ∈ u.sites options files r,
    p.node.kind = .useDecl ∨ p.node.kind = .groupUse →
      p.scope.reports options files p.node ≠ [] → p.node.introduced = []

/-- **Imports are lexically scoped** in a unit with its namespace declarations at the top: a node
sees the aliases of the declarations around it, of those beside the way down to it and of no
others, all from the last namespace declaration on. The aliases that a namespace declaration has in
its own slots, and not in a list of statements below it, are visible behind it as well. -/
theorem lexicallyImported (htop : ∀ n ∈ u.root.childNodes, n.lacksBelow .namespaceDecl = true) :
    u.LexicallyImported options files r := by
  have himports : ∀ p ∈ u.sites options files r,
      p.scope.imports = Imports.none.insertAll (visibleAliases (priors p.levels)) := by
    intro p hp
    exact (reaches_of_mem_sites hp).sees (u.settled_startScope r) htop rfl
  refine ⟨u.sites_toMoment_eq options files r, fun p => stands_of_mem_sites, himports, ?_, ?_⟩
  · intro p hp kind name
    rw [himports p hp, Imports.get?_insertAll, Imports.get?_none, Option.or_none]
  · intro p hp hkind hreports
    have hproblem {imported : Except Issue Scope}
        (h : imported.toOption = p.node.aliases?.map p.scope.withAliases)
        (hne : p.scope.importProblems p.node imported ≠ []) : p.node.introduced = [] := by
      cases imported with
      | ok s' => exact absurd rfl hne
      | error issue => exact (Scope.imports_of_toOption h).2 issue rfl
    rcases hkind with huse | hgroup
    · simp only [Scope.reports, huse] at hreports
      exact hproblem (p.scope.afterUse_toOption huse) hreports
    · simp only [Scope.reports, hgroup] at hreports
      exact hproblem (p.scope.afterGroupUse_toOption hgroup) hreports

/-- A unit with an import in a slot of a namespace declaration, and a class behind it. -/
def outwardUnit : SourceUnit where
  path := "outward.php"
  root := { kind := .stmtList, children := [
    .node { kind := .namespaceDecl, children := [
      .str "A",
      .node { kind := .useDecl, flags := 1, children := [
        .node { kind := .useElem, children := [.str "X\\Y", .empty] }] }] },
    .node { kind := .classDecl, children := [.str "C"] }] }

/-- Its namespace declaration is at the top. -/
theorem lexicallyImported_outwardUnit :
    (∀ n ∈ outwardUnit.root.childNodes, n.lacksBelow .namespaceDecl = true) ∧
      outwardUnit.LexicallyImported {} {} .empty :=
  ⟨by decide, lexicallyImported {} {} outwardUnit .empty (by decide)⟩

/-- Such an import is visible at the class, so it is not enough to count the declarations that are
around a node or beside the way down to it. -/
theorem imports_not_introduced_by_priors :
    ¬ ∀ u : SourceUnit, u.root.kind = .stmtList →
      (∀ n ∈ u.root.childNodes, n.lacksBelow .namespaceDecl = true) →
      ∀ p ∈ u.sites {} {} .empty, p.scope.imports =
        Imports.none.insertAll
          ((sinceNamespace (priors p.levels)).flatMap (·.node.introduced)) := by
  intro h
  have hall : (outwardUnit.sites {} {} .empty).all (fun p => decide (p.scope.imports =
      Imports.none.insertAll
        ((sinceNamespace (priors p.levels)).flatMap (·.node.introduced)))) = true :=
    List.all_eq_true.mpr fun p hp => decide_eq_true (h outwardUnit rfl (by decide) p hp)
  have hnot : (outwardUnit.sites {} {} .empty).all (fun p => decide (p.scope.imports =
      Imports.none.insertAll
        ((sinceNamespace (priors p.levels)).flatMap (·.node.introduced)))) = false := by
    decide +kernel
  exact absurd hall (by rw [hnot]; exact Bool.false_ne_true)

end SourceUnit

end

end PhpIndex
