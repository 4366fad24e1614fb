/-
Module: Reckon.Proofs.Derivation
Purpose: The grammar of expressions as a relation between trees with their spans and the tokens they
  come from. The grammar has a stratum for each rank; a stratum holds what the next one holds and
  adds its own forms. From a derivation it can be read off that no token is lost, doubled or moved:
  the tokens outside parentheses spell the marks that one meets on a walk through the tree from left
  to right.
Main exports: Operator, Derives, Expr.Mark, Expr.inOrder, Spells, Spelled, LeafOf, Balanced,
  Expr.OwnFamilies, Derives.spelled, Derives.leaves, Derives.balanced, Derives.ownFamilies,
  Derives.ne_endOfInput
-/
import Mathlib.Data.List.Forall2
import Reckon.Proofs.Writing

namespace Reckon

/-! ### Walks through trees -/

/-- What one meets on a walk through a tree from left to right. -/
inductive Expr.Mark where
  | leaf (span : Span) (v : Value)
  | sign (op : UnaryOp) (span : Span)
  | operator (op : BinaryOp)
  | question
  | colon
deriving DecidableEq, Repr

namespace Expr

/-- The marks of a tree from left to right, each operator between its operands. -/
def inOrder : Expr → List Mark
  | .value span v => [.leaf span v]
  | .unary op opSpan operand => .sign op opSpan :: operand.inOrder
  | .binary _ op left right => left.inOrder ++ .operator op :: right.inOrder
  | .coalesce left right => left.inOrder ++ .operator .coalesce :: right.inOrder
  | .conditional cond ifTrue ifFalse =>
    cond.inOrder ++ .question :: (ifTrue.inOrder ++ .colon :: ifFalse.inOrder)
  | .guarded cond ifTrue => cond.inOrder ++ .question :: ifTrue.inOrder
  | .error _ => []

/-- The place and the value of a leaf. -/
def Mark.leaf? : Mark → Option (Span × Value)
  | .leaf span v => some (span, v)
  | _ => none

/-- The leaves of a tree from left to right. -/
def leaves (e : Expr) : List (Span × Value) :=
  e.inOrder.filterMap Mark.leaf?

/-- Every binary node has an operator of its own family, and there is no error node. -/
def OwnFamilies : Expr → Prop
  | .value _ _ => True
  | .unary _ _ operand => operand.OwnFamilies
  | .binary family op left right =>
    op.family? = some family ∧ left.OwnFamilies ∧ right.OwnFamilies
  | .coalesce left right => left.OwnFamilies ∧ right.OwnFamilies
  | .conditional cond ifTrue ifFalse =>
    cond.OwnFamilies ∧ ifTrue.OwnFamilies ∧ ifFalse.OwnFamilies
  | .guarded cond ifTrue => cond.OwnFamilies ∧ ifTrue.OwnFamilies
  | .error _ => False

end Expr

/-- The kinds of literals. -/
def TokenKind.isLiteral : TokenKind → Bool
  | .integer | .float | .string | .bool | .null => true
  | _ => false

/-- The kinds of parentheses. -/
def TokenKind.isParen : TokenKind → Bool
  | .leftParen | .rightParen => true
  | _ => false

namespace Grammar

/-! ### The grammar -/

/-- The operators of a level: how they join their operands, and the kinds of the tokens they are
written with. Besides the operators that are written in their own spelling, the level of `or` has
the word `or`, which means the same operator as the word `and`. -/
inductive Operator : Level → Joint → List TokenKind → Prop where
  | own {op : BinaryOp} {family : Family} (own : op.family? = some family) :
      Operator (levelOf op) (.binary family op) (spelling op)
  | coalesce : Operator .coalesce .coalesce (spelling .coalesce)
  | orWord : Operator .or (.binary .logical .andWord) [.orWord]

/-- Tokens from which a tree derives in the stratum of a rank. -/
inductive Derives : (rank : Nat) → Expr → List Token → Prop where
  /-- A literal has the value and the place of its token. -/
  | literal {token : Token} {v : Value} (reads : literal token = .ok v) :
      Derives primaryRank (.value token.span v) [token]
  /-- A group leaves no trace in the tree. -/
  | group {e : Expr} {tokens : List Token} {opening closing : Token}
      (opens : opening.kind = .leftParen) (closes : closing.kind = .rightParen)
      (inside : Derives 0 e tokens) : Derives primaryRank e (opening :: (tokens ++ [closing]))
  /-- The least integer covers its sign and its digits. -/
  | least {sign number : Token} (minus : sign.kind = .minus)
      (magnitude : isLeastMagnitude number = true) :
      Derives signRank (.value (sign.span.extendBack number.span) (.integer Int64.minValue))
        [sign, number]
  | unary {op : UnaryOp} {operand : Expr} {sign : Token} {tokens : List Token}
      (signs : sign.kind = signKind op) (inOperand : Derives primaryRank operand tokens) :
      Derives signRank (.unary op sign.span operand) (sign :: tokens)
  /-- A chain groups from the left: its last operand is of the next stratum. -/
  | joined {level : Level} {joint : Joint} {left right : Expr}
      {leftTokens opTokens rightTokens : List Token}
      (spelled : Operator level joint (opTokens.map Token.kind))
      (inLeft : Derives level.rank left leftTokens)
      (inRight : Derives (level.rank + 1) right rightTokens) :
      Derives level.rank (joint.build left right) (leftTokens ++ (opTokens ++ rightTokens))
  | guarded {cond ifTrue : Expr} {question : Token} {condTokens trueTokens : List Token}
      (asks : question.kind = .question) (inCond : Derives Level.coalesce.rank cond condTokens)
      (inTrue : Derives 0 ifTrue trueTokens) :
      Derives 0 (.guarded cond ifTrue) (condTokens ++ question :: trueTokens)
  | conditional {cond ifTrue ifFalse : Expr} {question colon : Token}
      {condTokens trueTokens falseTokens : List Token}
      (asks : question.kind = .question) (parts : colon.kind = .colon)
      (inCond : Derives Level.coalesce.rank cond condTokens)
      (inTrue : Derives 0 ifTrue trueTokens) (inFalse : Derives 0 ifFalse falseTokens) :
      Derives 0 (.conditional cond ifTrue ifFalse)
        (condTokens ++ question :: (trueTokens ++ colon :: falseTokens))
  /-- A stratum holds what the next one holds. -/
  | looser {rank : Nat} {e : Expr} {tokens : List Token} (tighter : Derives (rank + 1) e tokens) :
      Derives rank e tokens

/-! ### Operators -/

/-- The operator that a joint stands for. -/
def Joint.op : Joint → BinaryOp
  | .binary _ op => op
  | .coalesce => .coalesce

/-- A tree that is built from two reads as the left one, the operator and the right one. -/
theorem inOrder_build (joint : Joint) (left right : Expr) :
    (joint.build left right).inOrder = left.inOrder ++ .operator joint.op :: right.inOrder := by
  cases joint <;> rfl

/-- No operator is written with a parenthesis or a literal. -/
theorem Operator.kinds {level : Level} {joint : Joint} {kinds : List TokenKind}
    (operator : Operator level joint kinds) :
    ∀ kind ∈ kinds, kind.isParen = false ∧ kind.isLiteral = false := by
  cases operator with
  | @own op _ _ => cases op <;> decide
  | coalesce => decide
  | orWord => decide

/-- An operator joins trees by a node of its own family. -/
theorem Operator.ownFamilies {level : Level} {joint : Joint} {kinds : List TokenKind}
    (operator : Operator level joint kinds) {left right : Expr} (leftOwn : left.OwnFamilies)
    (rightOwn : right.OwnFamilies) : (joint.build left right).OwnFamilies := by
  cases operator with
  | own own => exact ⟨own, leftOwn, rightOwn⟩
  | coalesce => exact ⟨leftOwn, rightOwn⟩
  | orWord => exact ⟨rfl, leftOwn, rightOwn⟩

/-! ### No token is lost or moved -/

/-- The tokens that a mark is written with. -/
inductive Spells : Expr.Mark → List Token → Prop where
  | literal {token : Token} {v : Value} (reads : literal token = .ok v) :
      Spells (.leaf token.span v) [token]
  | least {sign number : Token} (minus : sign.kind = .minus)
      (magnitude : isLeastMagnitude number = true) :
      Spells (.leaf (sign.span.extendBack number.span) (.integer Int64.minValue)) [sign, number]
  | sign {op : UnaryOp} {token : Token} (signs : token.kind = signKind op) :
      Spells (.sign op token.span) [token]
  | operator {op : BinaryOp} {tokens : List Token} (spelled : tokens.map Token.kind = spelling op) :
      Spells (.operator op) tokens
  | orWord {token : Token} (word : token.kind = .orWord) : Spells (.operator .andWord) [token]
  | question {token : Token} (asks : token.kind = .question) : Spells .question [token]
  | colon {token : Token} (parts : token.kind = .colon) : Spells .colon [token]

/-- Marks that are written one after another, with every token used for one of them. -/
inductive Spelled : List Expr.Mark → List Token → Prop where
  | nil : Spelled [] []
  | cons {mark : Expr.Mark} {marks : List Expr.Mark} {tokens rest : List Token}
      (first : Spells mark tokens) (others : Spelled marks rest) :
      Spelled (mark :: marks) (tokens ++ rest)

/-- What is spelled in two parts is spelled as a whole. -/
theorem Spelled.append {marks more : List Expr.Mark} {tokens rest : List Token}
    (first : Spelled marks tokens) (second : Spelled more rest) :
    Spelled (marks ++ more) (tokens ++ rest) := by
  induction first with
  | nil => exact second
  | cons spells _ inductionHypothesis =>
      rw [List.append_assoc]
      exact .cons spells inductionHypothesis

/-- The tokens of an operator spell its mark. -/
theorem Operator.spells {level : Level} {joint : Joint} {opTokens : List Token}
    (operator : Operator level joint (opTokens.map Token.kind)) :
    Spells (.operator joint.op) opTokens := by
  generalize kindsEq : opTokens.map Token.kind = kinds at operator
  cases operator with
  | own _ => exact .operator kindsEq
  | coalesce => exact .operator kindsEq
  | orWord =>
      obtain ⟨token, _, rfl, word, ended⟩ := List.map_eq_cons_iff.mp kindsEq
      obtain rfl := List.map_eq_nil_iff.mp ended
      exact .orWord word

/-- The tokens that are no parentheses. -/
def withoutParens (tokens : List Token) : List Token :=
  tokens.filter fun token => !token.kind.isParen

theorem withoutParens_append (tokens rest : List Token) :
    withoutParens (tokens ++ rest) = withoutParens tokens ++ withoutParens rest :=
  List.filter_append tokens rest

theorem withoutParens_cons {token : Token} (noParen : token.kind.isParen = false)
    (rest : List Token) : withoutParens (token :: rest) = token :: withoutParens rest := by
  simp [withoutParens, noParen]

/-- There is no parenthesis in an operator. -/
theorem withoutParens_operator {level : Level} {joint : Joint} {opTokens : List Token}
    (operator : Operator level joint (opTokens.map Token.kind)) :
    withoutParens opTokens = opTokens := by
  apply List.filter_eq_self.mpr
  intro token member
  simp [(operator.kinds token.kind (List.mem_map_of_mem member)).1]

/-- A literal is no parenthesis. -/
theorem isLiteral_of_literal {token : Token} {v : Value} (reads : literal token = .ok v) :
    token.kind.isLiteral = true ∧ token.kind.isParen = false := by
  have kinds := literal_kind reads
  revert kinds
  cases token.kind <;> decide

/-- The magnitude of the least integer is an integer literal. -/
theorem kind_of_isLeastMagnitude {number : Token} (magnitude : isLeastMagnitude number = true) :
    number.kind = .integer := by
  simp only [isLeastMagnitude, Bool.and_eq_true, beq_iff_eq] at magnitude
  exact magnitude.1

theorem signKind_ne (op : UnaryOp) :
    (signKind op).isParen = false ∧ (signKind op).isLiteral = false := by
  cases op <;> decide

namespace Derives

variable {rank : Nat} {e : Expr} {tokens : List Token}

/-- The tokens outside parentheses spell the walk through the tree, each used once and in its
order. -/
theorem spelled (derives : Derives rank e tokens) : Spelled e.inOrder (withoutParens tokens) := by
  induction derives with
  | literal reads =>
      rw [withoutParens_cons (isLiteral_of_literal reads).2]
      exact .cons (.literal reads) .nil
  | @group e tokens opening closing opens closes _ inside =>
      have inParens : withoutParens (opening :: (tokens ++ [closing])) = withoutParens tokens := by
        simp [withoutParens, opens, closes, TokenKind.isParen]
      rw [inParens]
      exact inside
  | @least sign number minus magnitude =>
      have integer := kind_of_isLeastMagnitude magnitude
      rw [withoutParens_cons (by rw [minus]; rfl), withoutParens_cons (by rw [integer]; rfl)]
      exact .cons (.least minus magnitude) .nil
  | @unary op _ _ _ signs _ operand =>
      rw [withoutParens_cons (by rw [signs]; exact (signKind_ne op).1)]
      exact .cons (.sign signs) operand
  | @joined level joint left right _ opTokens _ operator _ _ inLeft inRight =>
      rw [inOrder_build, withoutParens_append, withoutParens_append,
        withoutParens_operator operator]
      exact inLeft.append (.cons operator.spells inRight)
  | guarded asks _ _ cond ifTrue =>
      rw [withoutParens_append, withoutParens_cons (by rw [asks]; rfl)]
      exact cond.append (.cons (.question asks) ifTrue)
  | conditional asks parts _ _ _ cond ifTrue ifFalse =>
      rw [withoutParens_append, withoutParens_cons (by rw [asks]; rfl), withoutParens_append,
        withoutParens_cons (by rw [parts]; rfl)]
      exact cond.append (.cons (.question asks) (ifTrue.append (.cons (.colon parts) ifFalse)))
  | looser _ inside => exact inside

end Derives

/-! ### Leaves -/

/-- The leaf that a literal token makes. It has the place and the value of the token; the magnitude
of the least integer makes one together with the minus sign directly before it. -/
inductive LeafOf (tokens : List Token) : Span × Value → Token → Prop where
  | literal {token : Token} {v : Value} (reads : literal token = .ok v) :
      LeafOf tokens (token.span, v) token
  | least {sign number : Token} (together : [sign, number] <:+: tokens)
      (minus : sign.kind = .minus) (magnitude : isLeastMagnitude number = true) :
      LeafOf tokens (sign.span.extendBack number.span, .integer Int64.minValue) number

/-- A leaf among some tokens is one among more. -/
theorem LeafOf.widen {tokens more : List Token} {leaf : Span × Value} {token : Token}
    (leafOf : LeafOf tokens leaf token) (within : tokens <:+: more) : LeafOf more leaf token := by
  cases leafOf with
  | literal reads => exact .literal reads
  | least together minus magnitude => exact .least (together.trans within) minus magnitude

/-- The tokens that are literals. -/
def literalTokens (tokens : List Token) : List Token :=
  tokens.filter fun token => token.kind.isLiteral

theorem literalTokens_append (tokens rest : List Token) :
    literalTokens (tokens ++ rest) = literalTokens tokens ++ literalTokens rest :=
  List.filter_append tokens rest

theorem literalTokens_cons {token : Token} (noLiteral : token.kind.isLiteral = false)
    (rest : List Token) : literalTokens (token :: rest) = literalTokens rest := by
  simp [literalTokens, noLiteral]

/-- There is no literal in an operator. -/
theorem literalTokens_operator {level : Level} {joint : Joint} {opTokens : List Token}
    (operator : Operator level joint (opTokens.map Token.kind)) : literalTokens opTokens = [] := by
  apply List.filter_eq_nil_iff.mpr
  intro token member
  simp [(operator.kinds token.kind (List.mem_map_of_mem member)).2]

/-- Leaves and literals correspond one to one. -/
def LeavesOf (tokens : List Token) (leaves : List (Span × Value)) (literals : List Token) : Prop :=
  List.Forall₂ (LeafOf tokens) leaves literals

/-- Leaves among some tokens are leaves among more. -/
theorem LeavesOf.widen {tokens more literals : List Token} {leaves : List (Span × Value)}
    (leavesOf : LeavesOf tokens leaves literals) (within : tokens <:+: more) :
    LeavesOf more leaves literals :=
  leavesOf.imp fun _ _ leafOf => leafOf.widen within

/-- The leaves of a tree that is built from two are those of both, in order. -/
theorem leaves_build (joint : Joint) (left right : Expr) :
    (joint.build left right).leaves = left.leaves ++ right.leaves := by
  simp [Expr.leaves, inOrder_build, List.filterMap_cons, Expr.Mark.leaf?]

theorem leaves_guarded (cond ifTrue : Expr) :
    (Expr.guarded cond ifTrue).leaves = cond.leaves ++ ifTrue.leaves := by
  simp [Expr.leaves, Expr.inOrder, List.filterMap_cons, Expr.Mark.leaf?]

theorem leaves_conditional (cond ifTrue ifFalse : Expr) :
    (Expr.conditional cond ifTrue ifFalse).leaves =
      cond.leaves ++ (ifTrue.leaves ++ ifFalse.leaves) := by
  simp [Expr.leaves, Expr.inOrder, List.filterMap_cons, Expr.Mark.leaf?]

namespace Derives

variable {rank : Nat} {e : Expr} {tokens : List Token}

/-- Every literal token makes one leaf, and there are no other leaves. -/
theorem leaves (derives : Derives rank e tokens) :
    LeavesOf tokens e.leaves (literalTokens tokens) := by
  induction derives with
  | @literal token v reads =>
      have single : literalTokens [token] = [token] := by
        simp [literalTokens, (isLiteral_of_literal reads).1]
      rw [single]
      exact .cons (.literal reads) .nil
  | @group e tokens opening closing opens closes _ inside =>
      have inParens : literalTokens (opening :: (tokens ++ [closing])) = literalTokens tokens := by
        simp [literalTokens, opens, closes, TokenKind.isLiteral]
      rw [inParens]
      exact inside.widen ⟨[opening], [closing], rfl⟩
  | @least sign number minus magnitude =>
      have single : literalTokens [sign, number] = [number] := by
        simp [literalTokens, minus, kind_of_isLeastMagnitude magnitude, TokenKind.isLiteral]
      rw [single]
      exact .cons (.least (List.infix_refl _) minus magnitude) .nil
  | @unary op operand sign tokens signs _ inOperand =>
      rw [literalTokens_cons (by rw [signs]; exact (signKind_ne op).2)]
      exact inOperand.widen (List.suffix_cons sign tokens).isInfix
  | @joined _ joint left right leftTokens opTokens rightTokens operator _ _ inLeft inRight =>
      rw [leaves_build, literalTokens_append, literalTokens_append, literalTokens_operator operator]
      exact List.rel_append (inLeft.widen (List.prefix_append _ _).isInfix)
        (inRight.widen ⟨leftTokens ++ opTokens, [], by simp⟩)
  | @guarded cond ifTrue question condTokens trueTokens asks _ _ inCond inTrue =>
      rw [leaves_guarded, literalTokens_append, literalTokens_cons (by rw [asks]; rfl)]
      exact List.rel_append (inCond.widen (List.prefix_append _ _).isInfix)
        (inTrue.widen ⟨condTokens ++ [question], [], by simp⟩)
  | @conditional cond ifTrue ifFalse question colon condTokens trueTokens falseTokens asks parts
      _ _ _ inCond inTrue inFalse =>
      rw [leaves_conditional, literalTokens_append, literalTokens_cons (by rw [asks]; rfl),
        literalTokens_append, literalTokens_cons (by rw [parts]; rfl)]
      exact List.rel_append (inCond.widen (List.prefix_append _ _).isInfix)
        (List.rel_append
          (inTrue.widen ⟨condTokens ++ [question], colon :: falseTokens, by simp⟩)
          (inFalse.widen ⟨condTokens ++ question :: (trueTokens ++ [colon]), [], by simp⟩))
  | looser _ inside => exact inside

end Derives

/-! ### Parentheses and families -/

/-- How many groups are open behind the tokens, if `depth` are open before them; `none` if a
parenthesis closes a group that was never opened. -/
def openGroups? : (depth : Nat) → List Token → Option Nat
  | depth, [] => some depth
  | depth, token :: rest =>
    if token.kind = .leftParen then openGroups? (depth + 1) rest
    else if token.kind = .rightParen then
      if depth = 0 then none else openGroups? (depth - 1) rest
    else openGroups? depth rest

/-- The parentheses of the tokens are balanced. -/
def Balanced (tokens : List Token) : Prop :=
  openGroups? 0 tokens = some 0

/-- Groups are opened and closed in one part after another. -/
theorem openGroups?_append (depth : Nat) (tokens rest : List Token) :
    openGroups? depth (tokens ++ rest) = (openGroups? depth tokens).bind (openGroups? · rest) := by
  induction tokens generalizing depth with
  | nil => rfl
  | cons token tokens inductionHypothesis =>
      rw [List.cons_append, openGroups?, openGroups?]
      split
      · exact inductionHypothesis (depth + 1)
      · split
        · split
          · rfl
          · exact inductionHypothesis (depth - 1)
        · exact inductionHypothesis depth

theorem openGroups?_cons {token : Token} (noParen : token.kind.isParen = false) (depth : Nat)
    (rest : List Token) : openGroups? depth (token :: rest) = openGroups? depth rest := by
  have noOpening : token.kind ≠ .leftParen := by
    intro opens
    simp [opens, TokenKind.isParen] at noParen
  have noClosing : token.kind ≠ .rightParen := by
    intro closes
    simp [closes, TokenKind.isParen] at noParen
  simp [openGroups?, noOpening, noClosing]

/-- Tokens without parentheses leave the groups as they are. -/
theorem openGroups?_of_noParens {tokens : List Token}
    (noParens : ∀ token ∈ tokens, token.kind.isParen = false) (depth : Nat) :
    openGroups? depth tokens = some depth := by
  induction tokens with
  | nil => rfl
  | cons token tokens inductionHypothesis =>
      rw [openGroups?_cons (noParens token (by simp))]
      exact inductionHypothesis fun other member => noParens other (by simp [member])

namespace Derives

variable {rank : Nat} {e : Expr} {tokens : List Token}

/-- The tokens of a derivation leave open as many groups as were open before them. -/
theorem openGroups?_eq (derives : Derives rank e tokens) (depth : Nat) :
    openGroups? depth tokens = some depth := by
  induction derives generalizing depth with
  | literal reads => rw [openGroups?_cons (isLiteral_of_literal reads).2, openGroups?]
  | group opens closes _ inside =>
      rw [openGroups?, if_pos opens, openGroups?_append, inside, Option.bind_some]
      simp [openGroups?, closes]
  | least minus magnitude =>
      have integer := kind_of_isLeastMagnitude magnitude
      rw [openGroups?_cons (by rw [minus]; rfl), openGroups?_cons (by rw [integer]; rfl),
        openGroups?]
  | @unary op _ _ _ signs _ operand =>
      rw [openGroups?_cons (by rw [signs]; exact (signKind_ne op).1), operand]
  | joined operator _ _ inLeft inRight =>
      have noParens := fun token member =>
        (operator.kinds (Token.kind token) (List.mem_map_of_mem member)).1
      rw [openGroups?_append, inLeft, Option.bind_some, openGroups?_append,
        openGroups?_of_noParens noParens, Option.bind_some, inRight]
  | guarded asks _ _ cond ifTrue =>
      rw [openGroups?_append, cond, Option.bind_some, openGroups?_cons (by rw [asks]; rfl), ifTrue]
  | conditional asks parts _ _ _ cond ifTrue ifFalse =>
      rw [openGroups?_append, cond, Option.bind_some, openGroups?_cons (by rw [asks]; rfl),
        openGroups?_append, ifTrue, Option.bind_some, openGroups?_cons (by rw [parts]; rfl),
        ifFalse]
  | looser _ inside => exact inside depth

/-- The parentheses of a derivation are balanced. -/
theorem balanced (derives : Derives rank e tokens) : Balanced tokens :=
  derives.openGroups?_eq 0

/-- Every node of a tree that derives has an operator of its own family. -/
theorem ownFamilies (derives : Derives rank e tokens) : e.OwnFamilies := by
  induction derives with
  | literal _ => exact trivial
  | group _ _ _ inside => exact inside
  | least _ _ => exact trivial
  | unary _ _ operand => exact operand
  | joined operator _ _ left right => exact operator.ownFamilies left right
  | guarded _ _ _ cond ifTrue => exact ⟨cond, ifTrue⟩
  | conditional _ _ _ _ _ cond ifTrue ifFalse => exact ⟨cond, ifTrue, ifFalse⟩
  | looser _ inside => exact inside

end Derives

/-! ### The end of the input -/

/-- The end of the input is no part of an operator. -/
theorem Operator.ne_endOfInput {level : Level} {joint : Joint} {kinds : List TokenKind}
    (operator : Operator level joint kinds) : ∀ kind ∈ kinds, kind ≠ .endOfInput := by
  cases operator with
  | @own op _ _ => cases op <;> decide
  | coalesce => decide
  | orWord => decide

/-- The end of the input is no literal. -/
theorem ne_endOfInput_of_literal {token : Token} {v : Value} (reads : literal token = .ok v) :
    token.kind ≠ .endOfInput := by
  intro kindEq
  have isLiteral := (isLiteral_of_literal reads).1
  rw [kindEq] at isLiteral
  cases isLiteral

namespace Derives

variable {rank : Nat} {e : Expr} {tokens : List Token}

/-- Nothing derives from no tokens. -/
theorem ne_nil (derives : Derives rank e tokens) : tokens ≠ [] := by
  induction derives with
  | literal | group | least | unary | guarded | conditional => simp
  | joined _ _ _ left _ => exact List.append_ne_nil_of_left_ne_nil left _
  | looser _ inside => exact inside

/-- A tree never derives from the end of the input. -/
theorem ne_endOfInput (derives : Derives rank e tokens) :
    ∀ token ∈ tokens, token.kind ≠ .endOfInput := by
  induction derives with
  | literal reads => simpa using ne_endOfInput_of_literal reads
  | group opens closes _ inside =>
      simp only [List.mem_cons, List.mem_append, List.not_mem_nil, or_false]
      rintro token (rfl | member | rfl)
      · simp [opens]
      · exact inside token member
      · simp [closes]
  | least minus magnitude => simp [minus, kind_of_isLeastMagnitude magnitude]
  | @unary op _ _ _ signs _ operand =>
      simp only [List.mem_cons]
      rintro token (rfl | member)
      · rw [signs]
        cases op <;> decide
      · exact operand token member
  | joined operator _ _ left right =>
      simp only [List.mem_append]
      rintro token (member | member | member)
      · exact left token member
      · exact operator.ne_endOfInput token.kind (List.mem_map_of_mem member)
      · exact right token member
  | guarded asks _ _ cond ifTrue =>
      simp only [List.mem_append, List.mem_cons]
      rintro token (member | rfl | member)
      · exact cond token member
      · simp [asks]
      · exact ifTrue token member
  | conditional asks parts _ _ _ cond ifTrue ifFalse =>
      simp only [List.mem_append, List.mem_cons]
      rintro token (member | rfl | member | rfl | member)
      · exact cond token member
      · simp [asks]
      · exact ifTrue token member
      · simp [parts]
      · exact ifFalse token member
  | looser _ inside => exact inside

end Derives

end Grammar

end Reckon
