import PhpIndex.Proofs.Walk.Lockstep
import PhpIndex.Proofs.Walk.Response

/-!
Scopes that are the same but for their lines.

* `Scope.unranged`: a scope without the lines of the declaration around it;
* `Scope.operations_withRange`, `Scope.reports_withRange`: nothing that is done or reported at a
  node depends on these lines;
* `Scope.flow_withRange`, `Scope.after_unranged`: nor does the way in which the walk goes on.
-/

namespace PhpIndex

namespace Scope

/-- The scope without the lines of the declaration around it. -/
def unranged (s : Scope) : Scope := s.withRange {}

/-- A scope that is the same but for its lines is the scope with other lines. -/
lemma eq_withRange_of_unranged {s t : Scope} (h : s.unranged = t.unranged) :
    t = s.withRange t.range :=
  calc t = t.unranged.withRange t.range := rfl
    _ = s.unranged.withRange t.range := by rw [h]
    _ = s.withRange t.range := rfl

lemma keepsImports_withRange (range : LineRange) : KeepsImports (·.withRange range) :=
  ⟨fun _ _ _ _ => rfl, fun _ => rfl⟩

section

variable (s : Scope) (range : LineRange) (options : Options) (node : Node)

/-- What is done at a node does not depend on the lines around it. -/
lemma operations_withRange (r : Registry) :
    (s.withRange range).operations options r node = s.operations options r node := rfl

/-- Nor does what is reported. -/
lemma reports_withRange (files : SourceFiles) :
    (s.withRange range).reports options files node = s.reports options files node := by
  have hkeeps := keepsImports_withRange range
  have huse := hkeeps.importProblems_map s node (s.afterUse node)
  have hgroup := hkeeps.importProblems_map s node (s.afterGroupUse node)
  rw [← hkeeps.afterUse_map] at huse
  rw [← hkeeps.afterGroupUse_map] at hgroup
  rw [reports, reports]
  split
  · exact huse
  · exact hgroup
  all_goals rfl

/-- A walk goes on in the same way. -/
lemma flow_withRange (r : Registry) :
    (s.flow options r node).Both (fun s t => s.unranged = t.unranged)
      ((s.withRange range).flow options r node) := by
  have hkeeps := keepsImports_withRange range
  have hclass : (s.withRange range).newClass? options r node = s.newClass? options r node := rfl
  have hmethod : (s.withRange range).newMethod? options r node = s.newMethod? options r node := rfl
  have hfunction :
      (s.withRange range).newFunction? options r node = s.newFunction? options r node := rfl
  rw [flow, flow]
  split
  case h_2 =>
    rw [hkeeps.afterUse_map]
    cases s.afterUse node <;> exact rfl
  case h_3 =>
    rw [hkeeps.afterGroupUse_map]
    cases s.afterGroupUse node <;> exact rfl
  case h_4 =>
    rw [hclass]
    cases s.newClass? options r node <;> exact rfl
  case h_5 =>
    have haround : (s.withRange range).class? = s.class? := rfl
    rw [haround]
    cases s.class? <;> cases node.childOfKind? 0 .nameList <;> exact rfl
  case h_6 =>
    rw [hmethod]
    cases s.newMethod? options r node <;> exact rfl
  case h_7 =>
    rw [hfunction]
    cases s.newFunction? options r node <;> exact rfl
  all_goals exact rfl

end

/-- What siblings leave behind does not depend on the lines around them. -/
lemma after_unranged {s t s' t' : Scope} (kind : Kind) (h : s.unranged = t.unranged)
    (h' : s'.unranged = t'.unranged) :
    (s.after kind s').unranged = (t.after kind t').unranged := by
  rw [eq_withRange_of_unranged h, eq_withRange_of_unranged h', after, after]
  split <;> rfl

end Scope

end PhpIndex
