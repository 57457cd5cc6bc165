import PhpIndex.Walk.Visit

/-!
Source units and runs over them.

* `SourceUnit`: a path and the tree that was read from it;
* `SourceUnit.walk`: the walk of a unit, from a scope of its own;
* `SourceUnit.index`: the registration of a unit's declarations;
* `indexAll`: the same for several units in order, with one registry and a joined report;
* `indexAll_append`: the units can be given in parts;
* `indexInto`: the registration of several units with one flagged report for all of them, to which
  each unit adds its own;
* `indexInto_eq`: this is `indexAll` with the flag that the joined report calls for.
-/

namespace PhpIndex

/-- A source unit. -/
structure SourceUnit where
  /-- The path is recorded with each declaration, and names the file that is read again. -/
  path : String
  root : Node

/-- What the registration of a unit gives beside the registry. -/
structure UnitOutcome where
  /-- The scope at the end of the unit. -/
  scope : Scope
  problems : List Problem
  registered : Registered
deriving DecidableEq

/-- The diagnostics of a unit. -/
def UnitOutcome.report (o : UnitOutcome) : Report := o.problems.map Problem.diagnostic

section

variable (options : Options) (files : SourceFiles)

namespace SourceUnit

/-- The scope in which a unit begins. -/
def startScope (u : SourceUnit) : Scope := (Scope.ofFile u.path).withRange u.root.range

/-- The walk of a unit: the scope at its end, and the findings. -/
def walk (u : SourceUnit) (f : Findings) : Scope × Findings :=
  PhpIndex.walk (visit options files) u.root u.startScope f

/-- The registration of a unit's declarations. -/
def index (u : SourceUnit) (r : Registry) : UnitOutcome × Registry :=
  let (scope, f) := u.walk options files { registry := r }
  ({ scope := scope, problems := f.problems, registered := f.registered }, f.registry)

end SourceUnit

/-- The registration of several units in order: the diagnostics of all of them, and the
registry. -/
def indexAll : List SourceUnit → Registry → Report × Registry
  | [], r => ([], r)
  | u :: rest, r =>
      let (outcome, r') := u.index options files r
      let (report, r'') := indexAll rest r'
      (outcome.report ++ report, r'')

/-- The registration of units one after the other, each of which adds to the registry and to the
report. -/
def indexInto (us : List SourceUnit) (start : FlaggedReport × Registry) :
    FlaggedReport × Registry :=
  us.foldl (fun (report, r) u =>
    let (outcome, r') := u.index options files r
    (report.extend (.ofReport outcome.report), r')) start

theorem indexAll_cons (u : SourceUnit) (us : List SourceUnit) (r : Registry) :
    indexAll options files (u :: us) r =
      ((u.index options files r).1.report ++
          (indexAll options files us (u.index options files r).2).1,
        (indexAll options files us (u.index options files r).2).2) := rfl

/-- Units that are given in parts add to one registry, and their reports are joined. -/
theorem indexAll_append (us vs : List SourceUnit) (r : Registry) :
    indexAll options files (us ++ vs) r =
      ((indexAll options files us r).1 ++
          (indexAll options files vs (indexAll options files us r).2).1,
        (indexAll options files vs (indexAll options files us r).2).2) := by
  induction us generalizing r with
  | nil => rfl
  | cons u rest ih => simp [indexAll, ih]

/-- One report for all units has the diagnostics of each of them and the flag that these call
for. -/
theorem indexInto_eq (us : List SourceUnit) (report : FlaggedReport) (r : Registry) :
    indexInto options files us (report, r) =
      (report.extend (.ofReport (indexAll options files us r).1),
        (indexAll options files us r).2) := by
  induction us generalizing report r with
  | nil =>
      rw [indexInto, List.foldl_nil, indexAll, FlaggedReport.ofReport_eq]
      simp [FlaggedReport.extend, Report.hasFatal]
  | cons u rest ih =>
      rw [indexInto, List.foldl_cons, ← indexInto, ih, indexAll_cons, FlaggedReport.extend_assoc,
        FlaggedReport.extend_ofReport]

end

end PhpIndex
