/-
Module: Reckon.Proofs.LoweringGuard
Purpose: Which statements have code. Lowering meets an obstacle where the statement holds an error
  node, or the coalescing operator in a plain binary node, and nowhere else. A folded statement
  holds such an operator only beside an error: without errors it consists of literals. So behind
  folding, lowering needs no guard but the search for an error.
Main exports: Expr.Blocks, Expr.obstacle?_eq_none_iff, Stmt.Holds, Stmt.Lowerable,
  Stmt.lower_isOk_iff, Stmt.expressions_fold, Stmt.lower_fold_isOk_iff, Stmt.lower_ok_iff_lowerable
-/
import Reckon.Failure
import Reckon.Proofs.CompilerCorrectness
import Reckon.Proofs.NormalForm

namespace Reckon

/-! ### Nodes that stand in the way -/

/-- Coalescing alone has no operation. -/
theorem BinaryOp.eq_coalesce_of_operation? {op : BinaryOp} (missing : op.operation? = none) :
    op = .coalesce := by
  cases op with
  | coalesce => rfl
  | _ => cases missing

namespace Expr

variable {e : Expr} {obstacle : Obstacle}

/-- The root of the tree cannot be lowered. -/
inductive Blocks : Expr → Obstacle → Prop where
  | errorNode (diagnostic : Diagnostic) : Blocks (.error diagnostic) (.errorNode diagnostic)
  | coalesceOperator (family : Family) (left right : Expr) :
      Blocks (.binary family .coalesce left right) .coalesceOperator

/-- What lowering a tree meets first is its root, or what lowering an operand meets first. -/
theorem blocks_or_child (found : e.obstacle? = some obstacle) :
    e.Blocks obstacle ∨ ∃ child ∈ e.children, child.obstacle? = some obstacle := by
  cases e with
  | value span v => cases found
  | unary op opSpan operand => exact .inr ⟨operand, List.mem_singleton_self operand, found⟩
  | binary family op left right =>
      rw [obstacle?, Option.or_eq_some_iff, Option.or_eq_some_iff] at found
      rcases found with (found | ⟨_, found⟩) | ⟨_, own⟩
      · exact .inr ⟨left, by simp [children], found⟩
      · exact .inr ⟨right, by simp [children], found⟩
      · split at own
        · next missing =>
            cases own
            rw [BinaryOp.eq_coalesce_of_operation? (Option.isNone_iff_eq_none.mp missing)]
            exact .inl (.coalesceOperator family left right)
        · cases own
  | coalesce left right =>
      rw [obstacle?, Option.or_eq_some_iff] at found
      rcases found with found | ⟨_, found⟩
      · exact .inr ⟨left, by simp [children], found⟩
      · exact .inr ⟨right, by simp [children], found⟩
  | conditional cond ifTrue ifFalse =>
      rw [obstacle?, Option.or_eq_some_iff, Option.or_eq_some_iff] at found
      rcases found with (found | ⟨_, found⟩) | ⟨_, found⟩
      · exact .inr ⟨cond, by simp [children], found⟩
      · exact .inr ⟨ifFalse, by simp [children], found⟩
      · exact .inr ⟨ifTrue, by simp [children], found⟩
  | guarded cond ifTrue =>
      rw [obstacle?, Option.or_eq_some_iff] at found
      rcases found with found | ⟨_, found⟩
      · exact .inr ⟨cond, by simp [children], found⟩
      · exact .inr ⟨ifTrue, by simp [children], found⟩
  | error diagnostic =>
      cases found
      exact .inl (.errorNode diagnostic)

/-- An obstacle that lowering meets is a node of the tree. -/
theorem exists_part_of_obstacle? (found : e.obstacle? = some obstacle) :
    ∃ part : Expr, part.Part e ∧ part.Blocks obstacle := by
  induction e using children_induction with
  | node e inChildren =>
      rcases blocks_or_child found with blocks | ⟨child, member, found⟩
      · exact ⟨e, .whole e, blocks⟩
      · obtain ⟨part, inside, blocks⟩ := inChildren child member found
        exact ⟨part, .under member inside, blocks⟩

/-- A tree with a node in the way at its root has an obstacle. -/
theorem Blocks.obstacle?_ne_none (blocks : e.Blocks obstacle) : e.obstacle? ≠ none := by
  cases blocks with
  | errorNode diagnostic => exact nofun
  | coalesceOperator family left right => simp [obstacle?, BinaryOp.operation?]

/-- Lowering a tree meets what lowering its operands meets. -/
theorem obstacle?_of_child {child : Expr} (member : child ∈ e.children)
    (clear : e.obstacle? = none) : child.obstacle? = none := by
  cases e <;> grind [children, obstacle?, Option.or_eq_none_iff]

/-- A tree is lowered if none of its nodes stands in the way. -/
theorem obstacle?_eq_none_iff :
    e.obstacle? = none ↔ ∀ part : Expr, part.Part e → ∀ obstacle, ¬ part.Blocks obstacle := by
  constructor
  · intro clear part inside obstacle blocks
    induction inside with
    | whole => exact blocks.obstacle?_ne_none clear
    | under member _ inChild => exact inChild (obstacle?_of_child member clear)
  · intro free
    cases found : e.obstacle? with
    | none => rfl
    | some obstacle =>
        obtain ⟨part, inside, blocks⟩ := exists_part_of_obstacle? found
        exact absurd blocks (free part inside obstacle)

end Expr

/-! ### Statements -/

namespace Stmt

variable {s : Stmt}

/-- The tree stands somewhere in the statement. -/
inductive Holds (part : Expr) : Stmt → Prop where
  | expression {e : Expr} (inside : part.Part e) : Holds part (.expression e)
  | block {s : Stmt} {body : List Stmt} (member : s ∈ body) (inside : Holds part s) :
      Holds part (.block body)

mutual

/-- A statement holds the parts of its expressions. -/
theorem holds_iff (part : Expr) (s : Stmt) : s.Holds part ↔ ∃ e ∈ s.expressions, part.Part e :=
  match s with
  | .expression e => by
      constructor
      · intro held
        cases held with
        | expression inside => exact ⟨e, List.mem_singleton_self e, inside⟩
      · rintro ⟨e, member, inside⟩
        rw [List.mem_singleton.mp member] at inside
        exact .expression inside
  | .block body => by
      rw [expressions, ← exists_holds_iff part body]
      constructor
      · intro held
        cases held with
        | block member inside => exact ⟨_, member, inside⟩
      · rintro ⟨s, member, inside⟩
        exact .block member inside

theorem exists_holds_iff (part : Expr) (body : List Stmt) :
    (∃ s ∈ body, s.Holds part) ↔ ∃ e ∈ expressionsOf body, part.Part e :=
  match body with
  | [] => by simp [expressionsOf]
  | s :: rest => by
      simp only [expressionsOf, List.mem_cons, List.mem_append, or_and_right, exists_or,
        exists_eq_left, holds_iff part s, exists_holds_iff part rest]

end

/-- A statement without error nodes, whose plain binary nodes do not carry the coalescing
operator. -/
structure Lowerable (s : Stmt) : Prop where
  errorless : ∀ diagnostic, ¬ s.Holds (.error diagnostic)
  plain : ∀ family left right, ¬ s.Holds (.binary family .coalesce left right)

/-- A statement can be lowered if none of its expressions has an obstacle. -/
theorem lowerable_iff : s.Lowerable ↔ ∀ e ∈ s.expressions, e.obstacle? = none := by
  constructor
  · intro lowerable e member
    rw [Expr.obstacle?_eq_none_iff]
    intro part inside obstacle blocks
    have held : s.Holds part := (holds_iff part s).mpr ⟨e, member, inside⟩
    cases blocks with
    | errorNode diagnostic => exact lowerable.errorless diagnostic held
    | coalesceOperator family left right => exact lowerable.plain family left right held
  · intro clear
    have free : ∀ part, s.Holds part → ∀ obstacle, ¬ part.Blocks obstacle := by
      intro part held
      obtain ⟨e, member, inside⟩ := (holds_iff part s).mp held
      exact Expr.obstacle?_eq_none_iff.mp (clear e member) part inside
    constructor
    case errorless => exact fun diagnostic held => free _ held _ (.errorNode diagnostic)
    case plain =>
      exact fun family left right held => free _ held _ (.coalesceOperator family left right)

/-- Lowering succeeds exactly on the statements that can be lowered. -/
theorem lower_isOk_iff : (∃ code, s.lower = .ok code) ↔ s.Lowerable := by
  rw [lowerable_iff]
  constructor
  · rintro ⟨code, lowered⟩
    exact (lower_eq_ok.mp lowered).1
  · intro clear
    exact ⟨_, lower_eq_ok.mpr ⟨clear, rfl⟩⟩

/-- Where lowering fails, it fails for a node of the statement. -/
theorem exists_holds_of_lower {obstacle : Obstacle} (failed : s.lower = .error obstacle) :
    ∃ part, s.Holds part ∧ part.Blocks obstacle := by
  rw [lower_eq] at failed
  split at failed
  · next found =>
      cases failed
      obtain ⟨e, member, found⟩ := List.exists_of_findSome?_eq_some found
      obtain ⟨part, inside, blocks⟩ := Expr.exists_part_of_obstacle? found
      exact ⟨part, (holds_iff part s).mpr ⟨e, member, inside⟩, blocks⟩
  · cases failed

/-! ### Folded statements -/

mutual

/-- Folding a statement folds each of its expressions. -/
theorem expressions_fold (s : Stmt) : s.fold.expressions = s.expressions.map Expr.fold :=
  match s with
  | .expression e => rfl
  | .block body => by rw [fold, expressions, expressions, expressionsOf_foldAll body]

theorem expressionsOf_foldAll (body : List Stmt) :
    expressionsOf (foldAll body) = (expressionsOf body).map Expr.fold :=
  match body with
  | [] => rfl
  | s :: rest => by
      rw [foldAll, expressionsOf, expressionsOf, List.map_append, expressions_fold s,
        expressionsOf_foldAll rest]

end

/-- A folded statement is lowered if it shows no error: then each of its expressions is a
literal. -/
theorem lower_fold_isOk_iff : (∃ code, s.fold.lower = .ok code) ↔ s.fold.firstError? = none := by
  rw [lower_isOk_iff, firstError?, List.findSome?_eq_none_iff]
  constructor
  · intro lowerable e member
    cases found : e.firstError? with
    | none => rfl
    | some diagnostic =>
        have held := (holds_iff _ s.fold).mpr ⟨e, member, Expr.part_of_firstError? found⟩
        exact absurd held (lowerable.errorless diagnostic)
  · intro faultless
    rw [lowerable_iff]
    intro e member
    have none := faultless e member
    rw [expressions_fold, List.mem_map] at member
    obtain ⟨unfolded, _, rfl⟩ := member
    obtain ⟨span, v, literal, _⟩ := Expr.exists_value_of_firstError? none
    rw [literal]
    rfl

/-- A statement is lowered if and only if it holds no error node and no plain binary node with the
coalescing operator. Otherwise lowering fails for such a node, which is reported as an internal
error. Of a folded statement the search for an error tells whether it is lowered. -/
theorem lower_ok_iff_lowerable (s : Stmt) :
    ((∃ code, s.lower = .ok code) ↔ s.Lowerable) ∧
      (¬ s.Lowerable → ∃ obstacle, s.lower = .error obstacle ∧ obstacle.report.origin = .internal ∧
        ∃ part, s.Holds part ∧ part.Blocks obstacle) ∧
      ((∃ code, s.fold.lower = .ok code) ↔ s.fold.firstError? = none) := by
  refine ⟨lower_isOk_iff, ?_, lower_fold_isOk_iff⟩
  intro blocked
  cases lowered : s.lower with
  | ok code => exact absurd (lower_isOk_iff.mp ⟨code, lowered⟩) blocked
  | error obstacle =>
      have internal : obstacle.report.origin = .internal := by cases obstacle <;> rfl
      exact ⟨obstacle, rfl, internal, exists_holds_of_lower lowered⟩

/-- The coalescing operator of two integers in a node that is not one of coalescing. -/
def misplacedSample : Stmt :=
  .expression (.binary .additive .coalesce (.value ⟨0, 1, 1, 1⟩ (.integer 1))
    (.value ⟨5, 6, 1, 6⟩ (.integer 2)))

/-- An error in a branch that folding drops is in the way of lowering the statement, and not of
lowering it folded. The search for an error does not see the misplaced operator before folding has
made an error of it. -/
theorem lower_ok_iff_lowerable_samples :
    (¬ (droppedSample Expr.faultySample.fold).Lowerable ∧
        ∃ code, (droppedSample Expr.faultySample.fold).fold.lower = .ok code) ∧
      misplacedSample.firstError? = none ∧ (∀ code, misplacedSample.lower ≠ .ok code) ∧
      misplacedSample.fold.firstError? ≠ none ∧ ∀ code, misplacedSample.fold.lower ≠ .ok code := by
  have dropped : ¬ (droppedSample Expr.faultySample.fold).Lowerable := by
    rw [lowerable_iff]
    decide +kernel
  have misplaced : ¬ misplacedSample.Lowerable := by
    rw [lowerable_iff]
    decide +kernel
  have shown : misplacedSample.fold.firstError? ≠ none := by decide +kernel
  refine ⟨⟨dropped, (lower_ok_iff_lowerable _).2.2.mpr (by decide +kernel)⟩, rfl, ?_, shown, ?_⟩
  · exact fun code lowered => misplaced ((lower_ok_iff_lowerable _).1.mp ⟨code, lowered⟩)
  · exact fun code lowered => shown ((lower_ok_iff_lowerable _).2.2.mp ⟨code, lowered⟩)

end Stmt

end Reckon
