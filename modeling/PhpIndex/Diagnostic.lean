import PhpIndex.Issue

/-!
Reports of the problems found in source units.

* `Problem`: an issue at a line of a file;
* `Diagnostic`: what is told of a problem, its kind, message and place;
* `Report`: diagnostics in the order in which they were made;
* `Report.ofCategory`, `Report.hasFatal`, `Report.worst?`: what a report holds of each kind;
* `Diagnostic.text`, `Report.text`: the written forms;
* `Report.hasFatal_append`: a joined report has a fatal diagnostic when one of its parts has;
* `FlaggedReport`: a report with a flag that is raised when a fatal diagnostic comes in;
* `FlaggedReport.ofReport_eq`, `FlaggedReport.extend_ofReport`: the flag is the one that the
  diagnostics call for, also where reports are joined.
-/

namespace PhpIndex

/-- An issue at a line of a file. -/
structure Problem where
  issue : Issue
  file : String
  line : Nat
deriving DecidableEq

/-- What is told of a problem. -/
structure Diagnostic where
  category : Category
  message : String
  file : String
  line : Nat
deriving DecidableEq

namespace Diagnostic

/-- The diagnostic of an issue at a line of a file. -/
def ofIssue (issue : Issue) (file : String) (line : Nat) : Diagnostic where
  category := issue.category
  message := issue.message
  file := file
  line := line

/-- How serious it is. -/
def severity (d : Diagnostic) : Severity := d.category.severity

/-- The written form: the place, the kind and the message. -/
def text (d : Diagnostic) : String :=
  d.file ++ ":" ++ toString d.line ++ ": " ++ d.category.text ++ ": " ++ d.message

end Diagnostic

/-- The diagnostic of a problem. -/
def Problem.diagnostic (p : Problem) : Diagnostic := .ofIssue p.issue p.file p.line

/-- Diagnostics in the order in which they were made. -/
abbrev Report := List Diagnostic

namespace Report

/-- The diagnostics of one kind. -/
def ofCategory (r : Report) (c : Category) : Report := r.filter (·.category = c)

/-- Whether some declaration could not be registered. -/
def hasFatal (r : Report) : Bool := r.any (·.category = .fatal)

/-- The highest severity among the diagnostics. -/
def worst? (r : Report) : Option Severity :=
  r.foldl (fun worst d => match worst with
    | none => some d.severity
    | some s => some (if s.rank < d.severity.rank then d.severity else s)) none

/-- The written form: a line for each diagnostic. -/
def text (r : Report) : String := String.join (r.map (·.text ++ "\n"))

theorem hasFatal_append (r s : Report) :
    hasFatal (r ++ s) = (hasFatal r || hasFatal s) := by
  simp [hasFatal]

end Report

/-! ### Flagged reports -/

/-- A report with a flag that tells whether there is a fatal diagnostic in it. -/
structure FlaggedReport where
  diagnostics : Report := []
  hasFatal : Bool := false

namespace FlaggedReport

/-- The report with one more diagnostic. A fatal one raises the flag. -/
def add (r : FlaggedReport) (d : Diagnostic) : FlaggedReport where
  diagnostics := r.diagnostics ++ [d]
  hasFatal := if d.category = .fatal then true else r.hasFatal

/-- The report followed by another one. The flag is raised if one of them has it raised. -/
def extend (r r' : FlaggedReport) : FlaggedReport where
  diagnostics := r.diagnostics ++ r'.diagnostics
  hasFatal := r.hasFatal || r'.hasFatal

/-- The flagged report that some diagnostics make one after the other. -/
def ofReport (report : Report) : FlaggedReport := report.foldl add {}

theorem foldl_add (r : FlaggedReport) (report : Report) :
    report.foldl add r =
      { diagnostics := r.diagnostics ++ report, hasFatal := r.hasFatal || report.hasFatal } := by
  induction report generalizing r with
  | nil => simp [Report.hasFatal]
  | cons d report ih =>
      rw [List.foldl_cons, ih, add]
      by_cases hd : d.category = .fatal <;> simp [Report.hasFatal, hd]

/-- The flag that diagnostics raise as they come in is the one they call for together. -/
theorem ofReport_eq (report : Report) :
    ofReport report = { diagnostics := report, hasFatal := report.hasFatal } := by
  rw [ofReport, foldl_add, List.nil_append, Bool.false_or]

/-- So it is with reports that are joined. -/
theorem extend_ofReport (report report' : Report) :
    (ofReport report).extend (ofReport report') = ofReport (report ++ report') := by
  simp only [ofReport_eq, extend, Report.hasFatal_append]

theorem extend_assoc (r r' r'' : FlaggedReport) :
    (r.extend r').extend r'' = r.extend (r'.extend r'') := by
  simp only [extend, List.append_assoc, Bool.or_assoc]

end FlaggedReport

end PhpIndex
