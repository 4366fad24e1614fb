/-
Module: Reckon.Proofs.Writing
Purpose: How trees are written as tokens, said on its own and not through the readers. Each place of
  an expression asks for a rank, a number that says how tightly what stands there must bind; a tree
  that binds looser is written in parentheses, and parentheses may stand around any other tree as
  well. The left operand of an operator is asked for the operator's own rank and the right one for
  the next, so that chains group from the left.
Main exports: Level.rank, levelOf, spelling, Written, Written.loosen, Written.exists_head, Writable,
  exists_written, Written.writable
-/
import Reckon.Grammar.Expression

namespace Reckon.Grammar

/-! ### Precedence -/

/-- The rank of a level of binary operators. Conditionals have the rank 0, below all levels. -/
def Level.rank : Level → Nat
  | .coalesce => 1
  | .or => 2
  | .xor => 3
  | .and => 4
  | .bitOr => 5
  | .bitXor => 6
  | .bitAnd => 7
  | .equality => 8
  | .relational => 9
  | .shift => 10
  | .additive => 11
  | .multiplicative => 12

/-- The rank of an operand with a sign. -/
def signRank : Nat := 13

/-- The rank of literals and groups. -/
def primaryRank : Nat := 14

/-- The level of an operator. -/
def levelOf : BinaryOp → Level
  | .coalesce => .coalesce
  | .orOr => .or
  | .xorWord => .xor
  | .andAnd | .andWord => .and
  | .bitOr => .bitOr
  | .bitXor => .bitXor
  | .bitAnd => .bitAnd
  | .equal | .notEqual | .same | .notSame => .equality
  | .greater | .greaterEqual | .less | .lessEqual => .relational
  | .shiftLeft | .shiftRight => .shift
  | .plus | .minus => .additive
  | .times | .divide | .floorDivide | .remainder | .power => .multiplicative

/-- The kinds of the tokens that an operator is written with. -/
def spelling : BinaryOp → List TokenKind
  | .plus => [.plus]
  | .minus => [.minus]
  | .times => [.star]
  | .divide => [.slash]
  | .floorDivide => [.slashSlash]
  | .remainder => [.percent]
  | .power => [.starStar]
  | .shiftLeft => [.lessLess]
  | .shiftRight => [.greaterGreater]
  | .greater => [.greater]
  | .greaterEqual => [.greaterEqual]
  | .less => [.less]
  | .lessEqual => [.lessEqual]
  | .equal => [.equalEqual]
  | .notEqual => [.bangEqual]
  | .same => [.isWord]
  | .notSame => [.isWord, .notWord]
  | .bitAnd => [.amp]
  | .bitOr => [.bar]
  | .bitXor => [.caret]
  | .andAnd => [.ampAmp]
  | .orOr => [.barBar]
  | .andWord => [.andWord]
  | .xorWord => [.xorWord]
  | .coalesce => [.questionQuestion]

/-- The kind of the token that a sign is written with. -/
def signKind : UnaryOp → TokenKind
  | .plus => .plus
  | .minus => .minus

/-! ### Written trees -/

/-- Tokens that write a tree at a place that asks for a rank, with groups and branches of
conditionals nested to a depth. The spans of the tree are not looked at. -/
inductive Written : (rank depth : Nat) → Expr → List Token → Prop where
  /-- A literal is a token that stands for its value. -/
  | literal {rank : Nat} {span : Span} {v : Value} {token : Token}
      (reads : literal token = .ok v) : Written rank 0 (.value span v) [token]
  /-- The least integer is a minus sign and its magnitude. -/
  | least {rank : Nat} {span : Span} {sign number : Token} (loose : rank ≤ signRank)
      (minus : sign.kind = .minus) (magnitude : isLeastMagnitude number = true) :
      Written rank 0 (.value span (.integer Int64.minValue)) [sign, number]
  /-- Any tree may stand in parentheses. -/
  | group {rank depth : Nat} {e : Expr} {tokens : List Token} {opening closing : Token}
      (opens : opening.kind = .leftParen) (closes : closing.kind = .rightParen)
      (inside : Written 0 depth e tokens) :
      Written rank (depth + 1) e (opening :: (tokens ++ [closing]))
  | unary {rank depth : Nat} {op : UnaryOp} {opSpan : Span} {operand : Expr} {sign : Token}
      {tokens : List Token} (loose : rank ≤ signRank) (signs : sign.kind = signKind op)
      (inOperand : Written primaryRank depth operand tokens) :
      Written rank depth (.unary op opSpan operand) (sign :: tokens)
  /-- A binary node has an operator of its own family. -/
  | binary {rank leftDepth rightDepth : Nat} {family : Family} {op : BinaryOp}
      {left right : Expr} {leftTokens opTokens rightTokens : List Token}
      (loose : rank ≤ (levelOf op).rank) (own : op.family? = some family)
      (spelled : opTokens.map Token.kind = spelling op)
      (inLeft : Written (levelOf op).rank leftDepth left leftTokens)
      (inRight : Written ((levelOf op).rank + 1) rightDepth right rightTokens) :
      Written rank (max leftDepth rightDepth) (.binary family op left right)
        (leftTokens ++ (opTokens ++ rightTokens))
  | coalesce {rank leftDepth rightDepth : Nat} {left right : Expr}
      {leftTokens opTokens rightTokens : List Token}
      (loose : rank ≤ Level.coalesce.rank)
      (spelled : opTokens.map Token.kind = spelling .coalesce)
      (inLeft : Written Level.coalesce.rank leftDepth left leftTokens)
      (inRight : Written (Level.coalesce.rank + 1) rightDepth right rightTokens) :
      Written rank (max leftDepth rightDepth) (.coalesce left right)
        (leftTokens ++ (opTokens ++ rightTokens))
  /-- Without an alternative the branch may be any expression. -/
  | guarded {condDepth trueDepth : Nat} {cond ifTrue : Expr} {question : Token}
      {condTokens trueTokens : List Token} (asks : question.kind = .question)
      (inCond : Written Level.coalesce.rank condDepth cond condTokens)
      (inTrue : Written 0 trueDepth ifTrue trueTokens) :
      Written 0 (max condDepth (trueDepth + 1)) (.guarded cond ifTrue)
        (condTokens ++ question :: trueTokens)
  /-- Before an alternative a branch that is itself a conditional stands in parentheses, since the
  alternative would go with it. -/
  | conditional {condDepth trueDepth falseDepth : Nat} {cond ifTrue ifFalse : Expr}
      {question colon : Token} {condTokens trueTokens falseTokens : List Token}
      (asks : question.kind = .question) (parts : colon.kind = .colon)
      (inCond : Written Level.coalesce.rank condDepth cond condTokens)
      (inTrue : Written Level.coalesce.rank trueDepth ifTrue trueTokens)
      (inFalse : Written 0 falseDepth ifFalse falseTokens) :
      Written 0 (max condDepth (max trueDepth falseDepth + 1)) (.conditional cond ifTrue ifFalse)
        (condTokens ++ question :: (trueTokens ++ colon :: falseTokens))

/-! ### Facts about writings -/

theorem Level.rank_pos (level : Level) : 0 < level.rank := by
  cases level <;> decide

/-- Signs bind tighter than every operator. -/
theorem Level.rank_lt_signRank (level : Level) : level.rank < signRank := by
  cases level <;> decide

/-- A token that stands for a value is of one of the kinds of literals. -/
theorem literal_kind {token : Token} {v : Value} (reads : literal token = .ok v) :
    token.kind ∈ [.integer, .float, .string, .bool, .null] := by
  revert reads
  unfold literal
  cases token.kind <;> simp

namespace Written

variable {rank depth : Nat} {e : Expr} {tokens : List Token}

/-- What is written for a place may stand at a place that asks for less. -/
theorem loosen {lower : Nat} (written : Written rank depth e tokens) (le : lower ≤ rank) :
    Written lower depth e tokens := by
  cases written with
  | literal reads => exact .literal reads
  | least loose minus magnitude => exact .least (Nat.le_trans le loose) minus magnitude
  | group opens closes inside => exact .group opens closes inside
  | unary loose signs inOperand => exact .unary (Nat.le_trans le loose) signs inOperand
  | binary loose own spelled inLeft inRight =>
      exact .binary (Nat.le_trans le loose) own spelled inLeft inRight
  | coalesce loose spelled inLeft inRight =>
      exact .coalesce (Nat.le_trans le loose) spelled inLeft inRight
  | guarded asks inCond inTrue =>
      obtain rfl := Nat.le_zero.mp le
      exact .guarded asks inCond inTrue
  | conditional asks parts inCond inTrue inFalse =>
      obtain rfl := Nat.le_zero.mp le
      exact .conditional asks parts inCond inTrue inFalse

/-- A writing begins with a literal, a sign or a parenthesis, so never with the word `not`. -/
theorem exists_head (written : Written rank depth e tokens) :
    ∃ head tail, tokens = head :: tail ∧ head.kind ≠ .notWord := by
  induction written with
  | @literal _ _ _ token reads =>
      refine ⟨token, [], rfl, fun word => ?_⟩
      simpa [word] using literal_kind reads
  | @least _ _ sign number _ minus _ => exact ⟨sign, [number], rfl, by simp [minus]⟩
  | @group _ _ _ tokens opening closing opens _ _ _ =>
      exact ⟨opening, tokens ++ [closing], rfl, by simp [opens]⟩
  | @unary _ _ op _ _ sign tokens _ signs _ _ =>
      exact ⟨sign, tokens, rfl, by cases op <;> simp [signs, signKind]⟩
  | binary _ _ _ _ _ leftHead _ =>
      obtain ⟨head, tail, rfl, noWord⟩ := leftHead
      exact ⟨head, _, rfl, noWord⟩
  | coalesce _ _ _ _ leftHead _ =>
      obtain ⟨head, tail, rfl, noWord⟩ := leftHead
      exact ⟨head, _, rfl, noWord⟩
  | guarded _ _ _ condHead _ =>
      obtain ⟨head, tail, rfl, noWord⟩ := condHead
      exact ⟨head, _, rfl, noWord⟩
  | conditional _ _ _ _ _ condHead _ _ =>
      obtain ⟨head, tail, rfl, noWord⟩ := condHead
      exact ⟨head, _, rfl, noWord⟩

end Written

/-! ### Trees that can be written -/

/-- The trees that can be written: their binary nodes have operators of their own families, and
their leaves are the least integer and values that a token stands for. -/
def Writable : Expr → Prop
  | .value _ v => v = .integer Int64.minValue ∨ ∃ token, literal token = .ok v
  | .unary _ _ operand => Writable operand
  | .binary family op left right => op.family? = some family ∧ Writable left ∧ Writable right
  | .coalesce left right => Writable left ∧ Writable right
  | .conditional cond ifTrue ifFalse => Writable cond ∧ Writable ifTrue ∧ Writable ifFalse
  | .guarded cond ifTrue => Writable cond ∧ Writable ifTrue
  | .error _ => False

/-- A token of a given kind. -/
def tokenOf (kind : TokenKind) : Token :=
  ⟨kind, none, kind.name, .endOfInput⟩

theorem map_kind_tokenOf (kinds : List TokenKind) : (kinds.map tokenOf).map Token.kind = kinds := by
  rw [List.map_map]
  exact List.map_id kinds

/-- What is written for some place is written for any other, in parentheses. -/
theorem Written.exists_at {rank depth : Nat} {e : Expr} {tokens : List Token}
    (written : Written rank depth e tokens) (other : Nat) :
    ∃ depth tokens, Written other depth e tokens := by
  have opens : (tokenOf .leftParen).kind = .leftParen := rfl
  have closes : (tokenOf .rightParen).kind = .rightParen := rfl
  exact ⟨_, _, .group opens closes (written.loosen (Nat.zero_le rank))⟩

/-- Every tree that can be written has a writing for every place. -/
theorem exists_written {e : Expr} (writable : Writable e) (rank : Nat) :
    ∃ depth tokens, Written rank depth e tokens := by
  have asks : (tokenOf .question).kind = .question := rfl
  induction e generalizing rank with
  | value span v =>
      rcases writable with rfl | ⟨token, reads⟩
      · have magnitude : isLeastMagnitude ⟨.integer, some "9223372036854775808", "", .endOfInput⟩ =
            true := by
          decide
        have minus : (tokenOf .minus).kind = .minus := rfl
        exact (Written.least (Nat.le_refl _) minus magnitude).exists_at rank
      · exact ⟨_, _, .literal reads⟩
  | unary op opSpan operand operandWritten =>
      obtain ⟨_, _, inOperand⟩ := operandWritten writable primaryRank
      have signs : (tokenOf (signKind op)).kind = signKind op := rfl
      exact (Written.unary (Nat.le_refl _) signs inOperand).exists_at rank
  | binary family op left right leftWritten rightWritten =>
      obtain ⟨own, leftWritable, rightWritable⟩ := writable
      obtain ⟨_, _, inLeft⟩ := leftWritten leftWritable (levelOf op).rank
      obtain ⟨_, _, inRight⟩ := rightWritten rightWritable ((levelOf op).rank + 1)
      have spelled := map_kind_tokenOf (spelling op)
      exact (Written.binary (Nat.le_refl _) own spelled inLeft inRight).exists_at rank
  | coalesce left right leftWritten rightWritten =>
      obtain ⟨_, _, inLeft⟩ := leftWritten writable.1 Level.coalesce.rank
      obtain ⟨_, _, inRight⟩ := rightWritten writable.2 (Level.coalesce.rank + 1)
      have spelled := map_kind_tokenOf (spelling .coalesce)
      exact (Written.coalesce (Nat.le_refl _) spelled inLeft inRight).exists_at rank
  | conditional cond ifTrue ifFalse condWritten trueWritten falseWritten =>
      obtain ⟨condWritable, trueWritable, falseWritable⟩ := writable
      obtain ⟨_, _, inCond⟩ := condWritten condWritable Level.coalesce.rank
      obtain ⟨_, _, inTrue⟩ := trueWritten trueWritable Level.coalesce.rank
      obtain ⟨_, _, inFalse⟩ := falseWritten falseWritable 0
      have parts : (tokenOf .colon).kind = .colon := rfl
      exact (Written.conditional asks parts inCond inTrue inFalse).exists_at rank
  | guarded cond ifTrue condWritten trueWritten =>
      obtain ⟨_, _, inCond⟩ := condWritten writable.1 Level.coalesce.rank
      obtain ⟨_, _, inTrue⟩ := trueWritten writable.2 0
      exact (Written.guarded asks inCond inTrue).exists_at rank
  | error diagnostic => exact writable.elim

/-- Only trees that can be written have writings. -/
theorem Written.writable {rank depth : Nat} {e : Expr} {tokens : List Token}
    (written : Written rank depth e tokens) : Writable e := by
  induction written with
  | literal reads => exact .inr ⟨_, reads⟩
  | least _ _ _ => exact .inl rfl
  | group _ _ _ inside => exact inside
  | unary _ _ _ operand => exact operand
  | binary _ own _ _ _ left right => exact ⟨own, left, right⟩
  | coalesce _ _ _ _ left right => exact ⟨left, right⟩
  | guarded _ _ _ cond ifTrue => exact ⟨cond, ifTrue⟩
  | conditional _ _ _ _ _ cond ifTrue ifFalse => exact ⟨cond, ifTrue, ifFalse⟩

end Reckon.Grammar
