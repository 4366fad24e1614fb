/-
Module: Reckon.Proofs.ConstantPool
Purpose: The pool of constants of lowered code. Its entries have different texts, every entry is
  used, and the entries stand in the order of their first use: what the first instructions of the
  code refer to is what the pool begins with. The instructions that push constants refer, one by
  one, to the literals that the trees call for.
Main exports: Expr.literals, Stmt.literals, Code.constant_mem_take_iff, Code.idxOf_constant_lt,
  Stmt.lower_constants
-/
import Reckon.Proofs.CompilerCorrectness

namespace Reckon

/-! ### Literals of trees -/

/-- The literals that a tree calls for, in the order of its code: those of its leaves, the null that
a coalescing node compares with and that a conditional without an alternative may give, and the
truth that a condition is compared with. -/
def Expr.literals : Expr → List Value
  | .value _ v => [v]
  | .unary _ _ operand => operand.literals
  | .binary _ _ left right => left.literals ++ right.literals
  | .coalesce left right => left.literals ++ .null :: right.literals
  | .conditional cond ifTrue ifFalse =>
      cond.literals ++ .bool true :: (ifFalse.literals ++ ifTrue.literals)
  | .guarded cond ifTrue => cond.literals ++ .bool true :: .null :: ifTrue.literals
  | .error _ => []

/-- The literals that the expressions of a statement call for. -/
def Stmt.literals (s : Stmt) : List Value :=
  s.expressions.flatMap Expr.literals

/-- The code of a tree pushes the literals that the tree calls for, and no other constants. -/
theorem Expr.constantsOf_code (e : Expr) (next : Nat) : constantsOf (e.code next) = e.literals := by
  induction e generalizing next with
  | value span v => rfl
  | unary op opSpan operand inOperand =>
      cases op <;> simp [code, literals, inOperand, Instr.constant?]
  | binary family op left right inLeft inRight =>
      have noConstant : constantsOf (op.operation?.toList.map fun operation =>
          (.operate operation, left.span.join right.span)) = [] := by
        cases op.operation? <;> rfl
      simp [code, literals, inLeft, inRight, noConstant]
  | coalesce left right inLeft inRight => simp [code, literals, inLeft, inRight, Instr.constant?]
  | conditional cond ifTrue ifFalse inCond inTrue inFalse =>
      simp [code, literals, inCond, inTrue, inFalse, Instr.constant?]
  | guarded cond ifTrue inCond inTrue => simp [code, literals, inCond, inTrue, Instr.constant?]
  | error diagnostic => rfl

/-- The code of expressions uses the literals of each in turn. -/
theorem Expr.constantsOf_codeAll (exprs : List Expr) (next : Nat) :
    constantsOf (codeAll exprs next) = exprs.flatMap literals := by
  induction exprs generalizing next with
  | nil => rfl
  | cons e rest inductionHypothesis =>
      rw [codeAll, constantsOf_append, constantsOf_code, inductionHypothesis, List.flatMap_cons]

/-! ### First uses -/

theorem Instr.constant?_map {κ μ : Type} (f : κ → μ) (instr : Instr κ) :
    (instr.map f).constant? = instr.constant?.map f := by
  cases instr <;> rfl

/-- Only a constant instruction refers to a constant. -/
theorem Instr.eq_constant {κ : Type} {instr : Instr κ} {c : κ} (found : instr.constant? = some c) :
    instr = .constant c := by
  cases instr <;> cases found
  rfl

namespace Code

variable (located : List (Instr Value × Span))

/-- The pool of the first instructions is what the whole pool begins with. -/
theorem constantPool_take_prefix (count : Nat) :
    constantPool (located.take count) <+: constantPool located := by
  have parts : constantsOf located =
      constantsOf (located.take count) ++ constantsOf (located.drop count) := by
    rw [← constantsOf_append, List.take_append_drop]
  rw [constantPool, constantPool, parts, List.foldl_append]
  exact prefix_foldl_intern _ _

/-- The first instructions refer to the first entries of the pool, as many as they have different
literals, and to all of these. -/
theorem constant_mem_take_iff (count k : Nat) :
    .constant k ∈ (assemble located).instrs.take count ↔
      k < (constantPool (located.take count)).length := by
  have isPrefix := constantPool_take_prefix located count
  rw [instrs_assemble, List.map_map, ← List.map_take, List.mem_map]
  constructor
  · rintro ⟨entry, member, written⟩
    have pushed : (entry.1.map (constantPool located).idxOf).constant? = some k := by
      rw [Function.comp_apply] at written
      rw [written]
      rfl
    rw [Instr.constant?_map, Option.map_eq_some_iff] at pushed
    obtain ⟨v, found, rfl⟩ := pushed
    have inPool : v ∈ constantPool (located.take count) :=
      mem_constantPool.mpr ⟨entry, member, found⟩
    rw [idxOf_of_isPrefix isPrefix inPool]
    exact List.idxOf_lt_length_of_mem inPool
  · intro inside
    obtain ⟨entry, member, found⟩ := mem_constantPool.mp (List.getElem_mem inside)
    refine ⟨entry, member, ?_⟩
    rw [Function.comp_apply, Instr.eq_constant found, Instr.map,
      idxOf_of_isPrefix isPrefix (List.getElem_mem inside), (nodup_constantPool _).idxOf_getElem]

/-- Assembled code refers to all entries of its pool, and to nothing else. -/
theorem constant_mem_iff (k : Nat) :
    .constant k ∈ (assemble located).instrs ↔ k < (assemble located).constants.length := by
  have whole := constant_mem_take_iff located located.length k
  have lengthEq : (assemble located).instrs.length = located.length := by
    rw [instrs_assemble, List.length_map, List.length_map]
  rwa [List.take_length, ← lengthEq, List.take_length, ← constants_assemble] at whole

/-- An earlier entry of the pool has its first use before a later one. -/
theorem idxOf_constant_lt {j k : Nat} (less : j < k)
    (inPool : k < (assemble located).constants.length) :
    (assemble located).instrs.idxOf (.constant j) <
      (assemble located).instrs.idxOf (.constant k) := by
  have inside := List.idxOf_lt_length_of_mem ((constant_mem_iff located k).mpr inPool)
  have standing := List.getElem_idxOf inside
  generalize (assemble located).instrs.idxOf (.constant k) = place at inside standing ⊢
  have upToPlace := List.take_succ_eq_append_getElem inside
  rw [standing] at upToPlace
  -- The instructions up to the first use of `k` refer to `k`, so they refer to every entry before
  -- it too.
  have soFar : k < (constantPool (located.take (place + 1))).length := by
    rw [← constant_mem_take_iff, upToPlace]
    exact List.mem_append_right _ List.mem_cons_self
  have earlier := (constant_mem_take_iff located (place + 1) j).mpr (less.trans soFar)
  rw [upToPlace, List.mem_append, List.mem_singleton, Instr.constant.injEq] at earlier
  have before := earlier.resolve_right less.ne
  calc (assemble located).instrs.idxOf (.constant j)
      = ((assemble located).instrs.take place).idxOf (.constant j) := by
        nth_rewrite 1 [← List.take_append_drop place (assemble located).instrs]
        exact List.idxOf_append_of_mem before
    _ < ((assemble located).instrs.take place).length := List.idxOf_lt_length_of_mem before
    _ ≤ place := List.length_take_le _ _

/-- The constants that the instructions refer to are, one by one, the literals of the code. -/
theorem constants_read (located : List (Instr Value × Span)) :
    ((assemble located).instrs.filterMap Instr.constant?).map ((assemble located).constants[·]?) =
      (constantsOf located).map some := by
  have referred : (assemble located).instrs.filterMap Instr.constant? =
      (constantsOf located).map (constantPool located).idxOf := by
    rw [instrs_assemble, List.map_map, List.filterMap_map, constantsOf, List.map_filterMap]
    congr 1
    funext entry
    exact Instr.constant?_map _ _
  rw [referred, constants_assemble, List.map_map]
  apply List.map_congr_left
  intro v member
  obtain ⟨entry, inCode, found⟩ := List.mem_filterMap.mp member
  have inPool : v ∈ constantPool located := mem_constantPool.mpr ⟨entry, inCode, found⟩
  rw [Function.comp_apply, List.getElem?_eq_getElem (List.idxOf_lt_length_of_mem inPool),
    List.getElem_idxOf]

end Code

/-! ### Lowered statements -/

namespace Stmt

/-- In the code of a statement the constants have different texts; every one of them is pushed by an
instruction; an earlier one has its first use before a later one; and the instructions that push
constants push, one by one, the literals that the statement calls for. -/
theorem lower_constants {s : Stmt} {code : Code} (lowered : s.lower = .ok code) :
    (code.constants.map Value.inspect).Nodup ∧
      (∀ k < code.constants.length, .constant k ∈ code.instrs) ∧
      (∀ j k, j < k → k < code.constants.length →
        code.instrs.idxOf (.constant j) < code.instrs.idxOf (.constant k)) ∧
      (code.instrs.filterMap Instr.constant?).map (code.constants[·]?) = s.literals.map some := by
  obtain ⟨_, rfl⟩ := lower_eq_ok.mp lowered
  refine ⟨?_, fun k inPool => ?_, fun j k less inPool => ?_, ?_⟩
  · rw [Code.constants_assemble]
    exact (nodup_constantPool _).map fun _ _ => Value.inspect_injective
  · exact (Code.constant_mem_iff _ k).mpr inPool
  · exact Code.idxOf_constant_lt _ less inPool
  · rw [Code.constants_read, Expr.constantsOf_codeAll, literals]

/-- The statements `-0.0 ?? 0.0` and `1 < 1.5 ? "null"` and `True ? (0.0 / 0.0) : 1`, in which the
quotient is a literal already. -/
def pooledSample : Stmt :=
  .block
    [.expression (.coalesce (.value .endOfInput (.float (-0.0))) (.value .endOfInput (.float 0.0))),
    .expression (.guarded
      (.binary .relational .less (.value .endOfInput (.integer 1))
        (.value .endOfInput (.float 1.5)))
      (.value .endOfInput (.string "null"))),
    .expression (.conditional (.value .endOfInput (.bool true))
      (.value .endOfInput (.float (0.0 / 0.0)))
      (.value .endOfInput (.integer 1)))]

/-- Zero with and without a sign, a text that spells null and a number that equals no other each
have an entry of their own. -/
theorem lower_constants_pooledSample :
    ∃ code, pooledSample.lower = .ok code ∧
      code.constants =
        [.float (-0.0), .null, .float 0.0, .integer 1, .float 1.5, .bool true, .string "null",
          .float (0.0 / 0.0)] ∧
      (code.constants.map Value.inspect).Nodup ∧
      (∀ k < code.constants.length, .constant k ∈ code.instrs) ∧
      (∀ j k, j < k → k < code.constants.length →
        code.instrs.idxOf (.constant j) < code.instrs.idxOf (.constant k)) ∧
      (code.instrs.filterMap Instr.constant?).map (code.constants[·]?) =
        pooledSample.literals.map some := by
  have lowered : pooledSample.lower = .ok (.assemble (Expr.codeAll pooledSample.expressions 0)) :=
    lower_eq _
  exact ⟨_, lowered, by decide +kernel, lower_constants lowered⟩

end Stmt

end Reckon
