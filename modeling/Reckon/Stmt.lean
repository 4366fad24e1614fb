/-
Module: Reckon.Stmt
Purpose: Statements: expressions, and blocks of statements.
Main exports: Stmt, Stmt.expressions, Stmt.fold, Stmt.firstError?, Stmt.render
-/
import Reckon.Expr.Fold
import Reckon.Expr.Render

namespace Reckon

/-- Statements. -/
inductive Stmt (F : Type := Float) where
  | expression (e : Expr F)
  | block (body : List (Stmt F))
deriving Repr

namespace Stmt

variable {F : Type}

instance : Inhabited (Stmt F) :=
  ⟨.block []⟩

mutual

/-- The expressions of a statement in the order in which they are evaluated. -/
def expressions : Stmt F → List (Expr F)
  | .expression e => [e]
  | .block body => expressionsOf body

/-- The expressions of a list of statements. -/
def expressionsOf : List (Stmt F) → List (Expr F)
  | [] => []
  | s :: rest => s.expressions ++ expressionsOf rest

end

mutual

/-- Folds every expression of a statement. -/
def fold [Floats F] : Stmt F → Stmt F
  | .expression e => .expression e.fold
  | .block body => .block (foldAll body)

/-- Folds every statement of a list. -/
def foldAll [Floats F] : List (Stmt F) → List (Stmt F)
  | [] => []
  | s :: rest => s.fold :: foldAll rest

end

/-- The diagnostic of the first error node of a statement. -/
def firstError? (s : Stmt F) : Option Diagnostic :=
  s.expressions.findSome? Expr.firstError?

mutual

/-- The text of a statement. A block has a line for each of its statements. -/
def render : Stmt → String
  | .expression e => "(" ++ e.render ++ ")"
  | .block body => "[\n" ++ renderLines body ++ "]"

/-- The statements of a block, each with a newline behind it. -/
def renderLines : List Stmt → String
  | [] => ""
  | s :: rest => s.render ++ "\n" ++ renderLines rest

end

end Stmt

end Reckon
