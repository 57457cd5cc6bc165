import PhpIndex.Diagnostic
import PhpIndex.Registry.Basic
import PhpIndex.Scope.Basic
import PhpIndex.Tree.Kind

/-!
What a walk brings together: declarations in the registry, and the problems it met.

* `Findings`: the registry, the problems, and how much of the registry comes from the walk itself;
* `Findings.report`: the diagnostics of the problems;
* `Findings.note`: one more problem at a line;
* `Findings.addClass`, `addMethod`, `addFunction`: one more declaration, counted as the walk's own
  unless the registry refuses it;
* `Kind.malformed`: the issue of a node that lacks what its kind needs.
-/

namespace PhpIndex

/-- How many declarations a walk has registered. -/
structure Registered where
  classes : Nat := 0
  methods : Nat := 0
  functions : Nat := 0
deriving DecidableEq

/-- What a walk has brought together. -/
structure Findings where
  registry : Registry := {}
  /-- The problems in the order in which they were met. -/
  problems : List Problem := []
  registered : Registered := {}
deriving DecidableEq

/-- The issue of a node of a kind that lacks what the kind needs. -/
def Kind.malformed (kind : Kind) (reason : String) : Issue := .malformedNode kind.text reason

namespace Findings

/-! ### Problems -/

/-- The findings with one more problem at a line of the scope's file. -/
def note (f : Findings) (s : Scope) (line : Nat) (issue : Issue) : Findings :=
  { f with problems := f.problems ++ [{ issue := issue, file := s.file, line := line }] }

/-- The findings with a problem that there may be. -/
def noteIfAny (f : Findings) (s : Scope) (line : Nat) : Option Issue → Findings
  | none => f
  | some issue => f.note s line issue

/-- The diagnostics of the problems. -/
def report (f : Findings) : Report := f.problems.map Problem.diagnostic

/-! ### Counts and changes -/

/-- The findings with one more of a kind counted. -/
def count (f : Findings) (kind : Counted) : Findings :=
  { f with registry := f.registry.count kind }

/-- The findings with a registered class changed. -/
def modifyClass (f : Findings) (name : Fqsen) (change : ClassLike → ClassLike) : Findings :=
  { f with registry := f.registry.modifyClass name change }

/-- The findings with a registered function or method changed. -/
def modifyFunction (f : Findings) (name : Fqsen) (change : FunctionLike → FunctionLike) :
    Findings :=
  { f with registry := f.registry.modifyFunction name change }

/-! ### Declarations -/

/-- The findings with one more class. -/
def addClass (f : Findings) (c : ClassLike) : Except Issue Findings :=
  match f.registry.addClass c with
  | .error e => .error (.refused e)
  | .ok r => .ok { f with
      registry := r.count .classes
      registered := { f.registered with classes := f.registered.classes + 1 } }

/-- The findings with one more method. -/
def addMethod (f : Findings) (m : FunctionLike) : Except Issue Findings :=
  match f.registry.addFunction m with
  | .error e => .error (.refused e)
  | .ok r => .ok { f with
      registry := r.count .methods
      registered := { f.registered with methods := f.registered.methods + 1 } }

/-- The findings with one more function. -/
def addFunction (f : Findings) (g : FunctionLike) : Except Issue Findings :=
  match f.registry.addFunction g with
  | .error e => .error (.refused e)
  | .ok r => .ok { f with
      registry := r.count .functions
      registered := { f.registered with functions := f.registered.functions + 1 } }

end Findings

end PhpIndex
