import PhpIndex.Proofs.SourceUnit.Namespaces
import PhpIndex.Proofs.Walk.Sites

/-!
The scopes that a walk has.

* `Scope.Settled`: the declarations around a place are registered, and its namespace has the form
  in which namespaces are kept;
* `Settled.visited`, `Settled.afterTree`, `Settled.afterRow`: **a walk has such scopes everywhere**
  if it begins in one, below a node as well as behind a tree and behind a row of slots;
* `Settled.after_self`: then a tree that leaves the scope as it was leaves no trace behind it;
* `SourceUnit.sites`: the nodes of a unit with their sites, where scopes are settled, too.
-/

namespace PhpIndex

namespace Scope

variable {s : Scope} {options : Options} {files : SourceFiles} {f : Findings} {node : Node}

/-- A scope as walks have it: the declarations around it are registered, and its namespace has the
form in which namespaces are kept. -/
structure Settled (s : Scope) (r : Registry) : Prop where
  grounded : s.Grounded r
  formed : namespaceForm s.space = s.space

namespace Settled

variable (options files) in
/-- The namespace behind a visit has this form, too. -/
lemma formed_visit (h : s.Settled f.registry) (node : Node) :
    namespaceForm (visit options files node s f).1.scope.space =
      (visit options files node s f).1.scope.space := by
  rw [(answered_visit options files h.grounded node).flow_eq, space_flow]
  split
  · exact namespaceForm_namespaceForm _
  · exact h.formed

lemma visited (h : s.Settled f.registry) {s' : Scope} {f' : Findings}
    (hv : visit options files node s f = (.descend s', f')) : s'.Settled f'.registry := by
  have hformed := h.formed_visit options files node
  rw [hv] at hformed
  exact ⟨((registration options files).descend h.grounded hv).1, hformed⟩

variable (options files) in
/-- What follows a tree has such a scope again. -/
lemma afterTree (h : s.Settled f.registry) (n : Node) :
    (s.after n.kind (walk (visit options files) n s f).1).Settled
      (walk (visit options files) n s f).2.registry := by
  have hgrounded := (registration options files).moments.1 n s f h.grounded
  have hleft := (spaced_walk.1 n s f (fun m hm => by
    rw [(answered_visit options files (hgrounded m hm) m.node).flow_eq, space_flow]
    rfl) h.formed).2
  have hlater := (registration options files).later h.grounded
    ((registration options files).walk.1 n s f h.grounded)
  refine ⟨(registration options files).holds_after n.kind _ hlater, ?_⟩
  rw [space_after hleft]
  exact hleft

variable (options files) in
/-- So does the rest of a row. -/
lemma afterRow (h : s.Settled f.registry) (cs : List Child) :
    (walkAll (visit options files) cs s f).1.Settled
      (walkAll (visit options files) cs s f).2.registry :=
  walkAll_inherit (visit options files) (fun s f => s.Settled f.registry)
    (fun n _ _ h => h.afterTree options files n) h cs

/-- What follows a tree that leaves the scope it is walked in has this scope, too. -/
lemma after_self (h : s.Settled f.registry) (kind : Kind) : s.after kind s = s := by
  rw [after]
  split
  · rfl
  · exact moveTo_of_eq h.formed

end Settled

end Scope

/-- So has a site below it. -/
lemma Reaches.settled {options : Options} {files : SourceFiles} {n : Node} {levels : List Level}
    {s : Scope} {f : Findings} {p : Site Findings}
    (h : Reaches (visit options files) n levels s f p) (hs : s.Settled f.registry) :
    p.scope.Settled p.state.registry := by
  induction h with
  | here => exact hs
  | down hv hrow h ih => exact ih (hs.visited hv |>.afterRow options files _)

/-! ### Units -/

namespace SourceUnit

section

variable (options : Options) (files : SourceFiles) (u : SourceUnit) (r : Registry)

/-- A unit begins in such a scope. -/
lemma settled_startScope : u.startScope.Settled r :=
  ⟨u.grounded_startScope r, Scope.namespaceForm_empty⟩

/-- The nodes of a unit where they are visited, with their sites in the tree. -/
def sites : List (Site Findings) :=
  PhpIndex.sites (visit options files) u.root [] u.startScope { registry := r }

lemma sites_toMoment_eq :
    (u.sites options files r).map Site.toMoment = u.moments options files r :=
  (sites_toMoment (visit options files)).1 u.root [] u.startScope { registry := r }

end

variable {options : Options} {files : SourceFiles} {u : SourceUnit} {r : Registry}
variable {p : Site Findings} (hp : p ∈ u.sites options files r)

include hp

/-- The levels above a site lead up to the root of the unit. -/
lemma stands_of_mem_sites : Stands u.root p.node p.levels := by
  obtain ⟨inner, hlevels, hstands⟩ := (reaches_of_mem_sites hp).stands
  rwa [hlevels, List.append_nil]

lemma settled_of_mem_sites : p.scope.Settled p.state.registry :=
  (reaches_of_mem_sites hp).settled (u.settled_startScope r)

lemma file_eq_of_mem_sites : p.scope.file = u.path := by
  have hmoment : p.toMoment ∈ u.moments options files r := by
    rw [← u.sites_toMoment_eq]
    exact List.mem_map_of_mem hp
  obtain ⟨ℓ, hℓ, heq⟩ := u.exists_lineage options files r hmoment
  rw [← heq]
  exact (u.scopedBy_of_mem_lineages options files r ℓ hℓ).file_eq

end SourceUnit

end PhpIndex
