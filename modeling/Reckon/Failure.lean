/-
Module: Reckon.Failure
Purpose: How a program can fail as a whole: it is refused, its run fails, or its tree cannot be
  lowered.
Main exports: Report, Report.render, MachineFault.report, Obstacle.report, Failure, Failure.render
-/
import Reckon.Code.Lower
import Reckon.Machine

namespace Reckon

/-- The stage that a failure comes from: the run of the code, or the work on the tree before it. -/
inductive Origin where
  | runtime
  | internal
deriving DecidableEq, Repr, Inhabited

/-- The name of an origin. -/
def Origin.name : Origin → String
  | .runtime => "RuntimeError"
  | .internal => "InternalError"

/-- A failure in words: where it comes from, what went wrong, and what to do about it. -/
structure Report where
  origin : Origin
  message : String
  advice : String
deriving DecidableEq, Repr, Inhabited

/-- A report as text. -/
def Report.render (r : Report) : String :=
  r.origin.name ++ ": " ++ r.message ++ "\nAdvice: " ++ r.advice

/-- The report of a failed run. -/
def MachineFault.report (fault : MachineFault) : Report :=
  ⟨.runtime, fault.message, fault.advice⟩

/-- The report of a tree that cannot be lowered. -/
def Obstacle.report : Obstacle → Report
  | .errorNode diagnostic =>
    ⟨.internal, "Cannot lower a tree which still contains an error (" ++ diagnostic.render ++ ").",
      "Check the tree with `check_error` before lowering it."⟩
  | .coalesceOperator =>
    ⟨.internal, "The null coalesce operator was lowered as a plain binary operation.",
      "Report this issue with the expression which caused it."⟩

/-- How a program fails. -/
inductive Failure where
  | refused (diagnostic : Diagnostic)
  | failed (fault : MachineFault)
  | blocked (obstacle : Obstacle)
deriving DecidableEq, Repr, Inhabited

/-- A failure as text. -/
def Failure.render : Failure → String
  | .refused diagnostic => diagnostic.render
  | .failed fault => fault.report.render
  | .blocked obstacle => obstacle.report.render

end Reckon
