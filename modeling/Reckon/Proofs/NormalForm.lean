/-
Module: Reckon.Proofs.NormalForm
Purpose: The trees that folding leaves behind. In a normal tree every literal is narrowed, and no
  node stands over the literals that would decide it. Folding makes every tree normal and leaves a
  normal tree alone. So a folded tree is one literal or shows an error, and folding some parts of a
  tree ahead does not change what it folds to.
Main exports: Expr.Part, Expr.parts, Expr.Normal, Expr.normal_fold, Expr.Normal.fold_eq,
  Expr.fold_eq_value_iff, Expr.Prefolded, Stmt.Prefolded, fold_of_prefolded
-/
import Reckon.Proofs.Folding
import Reckon.Proofs.Replacement

namespace Reckon

/-! ### Parts of a tree -/

namespace Expr

variable {F : Type}

/-- The trees right below the root, from left to right. -/
def children : Expr F → List (Expr F)
  | .value _ _ | .error _ => []
  | .unary _ _ operand => [operand]
  | .binary _ _ left right | .coalesce left right => [left, right]
  | .conditional cond ifTrue ifFalse => [cond, ifTrue, ifFalse]
  | .guarded cond ifTrue => [cond, ifTrue]

/-- The first tree is the second or stands somewhere in it. -/
inductive Part : Expr F → Expr F → Prop where
  | whole (e : Expr F) : Part e e
  | under {e child parent : Expr F} (member : child ∈ parent.children) (inChild : Part e child) :
      Part e parent

/-- What holds of a tree whenever it holds of those right below the root holds of every tree. -/
theorem children_induction {P : Expr F → Prop}
    (node : ∀ e : Expr F, (∀ child ∈ e.children, P child) → P e) (e : Expr F) : P e := by
  induction e with
  | value span v => exact node _ (List.forall_mem_nil _)
  | unary op opSpan operand inOperand => exact node _ (List.forall_mem_singleton.mpr inOperand)
  | binary family op left right inLeft inRight => exact node _ (by simp [children, inLeft, inRight])
  | coalesce left right inLeft inRight => exact node _ (by simp [children, inLeft, inRight])
  | conditional cond ifTrue ifFalse inCond inTrue inFalse =>
      exact node _ (by simp [children, inCond, inTrue, inFalse])
  | guarded cond ifTrue inCond inTrue => exact node _ (by simp [children, inCond, inTrue])
  | error diagnostic => exact node _ (List.forall_mem_nil _)

/-- All parts of a tree, a tree before those that stand in it. -/
def parts : Expr F → List (Expr F)
  | .value span v => [.value span v]
  | .unary op opSpan operand => .unary op opSpan operand :: operand.parts
  | .binary family op left right => .binary family op left right :: (left.parts ++ right.parts)
  | .coalesce left right => .coalesce left right :: (left.parts ++ right.parts)
  | .conditional cond ifTrue ifFalse =>
      .conditional cond ifTrue ifFalse :: (cond.parts ++ ifTrue.parts ++ ifFalse.parts)
  | .guarded cond ifTrue => .guarded cond ifTrue :: (cond.parts ++ ifTrue.parts)
  | .error diagnostic => [.error diagnostic]

theorem mem_parts_self (e : Expr F) : e ∈ e.parts := by
  cases e <;> exact List.mem_cons_self

/-- The parts of a child are parts of its parent. -/
theorem parts_subset_of_child {child parent : Expr F} (member : child ∈ parent.children) :
    child.parts ⊆ parent.parts := by
  cases parent <;> simp only [children, List.mem_cons, List.not_mem_nil, or_false] at member
  all_goals grind [parts]

/-- The parts of a tree are listed. -/
theorem Part.mem_parts {part e : Expr F} (inside : part.Part e) : part ∈ e.parts := by
  induction inside with
  | whole => exact mem_parts_self part
  | under member _ inChild => exact parts_subset_of_child member inChild

/-- The first error is the diagnostic of a node of the tree. -/
theorem part_of_firstError? {e : Expr F} {diagnostic : Diagnostic}
    (found : e.firstError? = some diagnostic) : (Expr.error diagnostic).Part e := by
  induction e with
  | value span v => cases found
  | unary op opSpan operand inOperand => exact .under (by simp [children]) (inOperand found)
  | binary family op left right inLeft inRight =>
      rw [firstError?, Option.or_eq_some_iff] at found
      rcases found with found | ⟨_, found⟩
      · exact .under (by simp [children]) (inLeft found)
      · exact .under (by simp [children]) (inRight found)
  | coalesce left right inLeft inRight =>
      rw [firstError?, Option.or_eq_some_iff] at found
      rcases found with found | ⟨_, found⟩
      · exact .under (by simp [children]) (inLeft found)
      · exact .under (by simp [children]) (inRight found)
  | conditional cond ifTrue ifFalse inCond inTrue inFalse =>
      rw [firstError?, Option.or_eq_some_iff, Option.or_eq_some_iff] at found
      rcases found with (found | ⟨_, found⟩) | ⟨_, found⟩
      · exact .under (by simp [children]) (inCond found)
      · exact .under (by simp [children]) (inTrue found)
      · exact .under (by simp [children]) (inFalse found)
  | guarded cond ifTrue inCond inTrue =>
      rw [firstError?, Option.or_eq_some_iff] at found
      rcases found with found | ⟨_, found⟩
      · exact .under (by simp [children]) (inCond found)
      · exact .under (by simp [children]) (inTrue found)
  | error own =>
      cases found
      exact .whole _

/-! ### Where folding has nothing to decide, it rebuilds the node -/

/-- A sign before what is no literal stays. -/
theorem foldUnary_of_undecided [Floats F] (op : UnaryOp) (opSpan : Span) {operand : Expr F}
    (undecided : operand.isLiteral = false) :
    foldUnary op opSpan operand = .unary op opSpan operand := by
  cases operand with
  | value => cases undecided
  | _ => rfl

/-- An operation stays if one of its operands is no literal. -/
theorem foldBinary_of_undecided [Floats F] (family : Family) (op : BinaryOp) {left right : Expr F}
    (undecided : left.isLiteral = false ∨ right.isLiteral = false) :
    foldBinary family op left right = .binary family op left right := by
  cases left with
  | value =>
      cases right with
      | value => rcases undecided with undecided | undecided <;> cases undecided
      | _ => rfl
  | _ => rfl

/-- Coalescing stays behind what is no literal. -/
theorem foldCoalesce_of_undecided {left : Expr F} (right : Expr F)
    (undecided : left.isLiteral = false) : foldCoalesce left right = .coalesce left right := by
  cases left with
  | value => cases undecided
  | _ => rfl

/-- A condition is undecided if it is no literal. -/
theorem verdict_eq_unknown_iff {cond : Expr F} :
    cond.verdict = .unknown ↔ cond.isLiteral = false := by
  cases cond with
  | value span v =>
      cases v with
      | bool b => cases b <;> exact iff_of_false nofun nofun
      | _ => exact iff_of_false nofun nofun
  | _ => exact iff_of_true rfl rfl

/-- A conditional stays if its condition is undecided. -/
theorem foldConditional_of_undecided {cond : Expr F} (ifTrue ifFalse : Expr F)
    (undecided : cond.isLiteral = false) :
    foldConditional cond ifTrue ifFalse = .conditional cond ifTrue ifFalse := by
  rw [foldConditional, verdict_eq_unknown_iff.mpr undecided]

theorem foldGuarded_of_undecided {cond : Expr F} (ifTrue : Expr F)
    (undecided : cond.isLiteral = false) : foldGuarded cond ifTrue = .guarded cond ifTrue := by
  rw [foldGuarded, verdict_eq_unknown_iff.mpr undecided]

/-! ### Normal trees -/

variable [Floats F]

/-- Trees in which nothing is left to fold: the operands that would decide a node are no
literals. -/
inductive Normal : Expr F → Prop where
  | value (span : Span) {v : Value F} (narrowed : v.narrow = v) : Normal (.value span v)
  | unary (op : UnaryOp) (opSpan : Span) {operand : Expr F} (operandNormal : Normal operand)
      (undecided : operand.isLiteral = false) : Normal (.unary op opSpan operand)
  | binary (family : Family) (op : BinaryOp) {left right : Expr F} (leftNormal : Normal left)
      (rightNormal : Normal right) (undecided : left.isLiteral = false ∨ right.isLiteral = false) :
      Normal (.binary family op left right)
  | coalesce {left right : Expr F} (leftNormal : Normal left) (rightNormal : Normal right)
      (undecided : left.isLiteral = false) : Normal (.coalesce left right)
  | conditional {cond ifTrue ifFalse : Expr F} (condNormal : Normal cond)
      (trueNormal : Normal ifTrue)
      (falseNormal : Normal ifFalse) (undecided : cond.isLiteral = false) :
      Normal (.conditional cond ifTrue ifFalse)
  | guarded {cond ifTrue : Expr F} (condNormal : Normal cond) (trueNormal : Normal ifTrue)
      (undecided : cond.isLiteral = false) : Normal (.guarded cond ifTrue)
  | error (diagnostic : Diagnostic) : Normal (.error diagnostic)

/-- The children of a normal tree are normal. -/
theorem Normal.child {e child : Expr F} (normal : e.Normal) (member : child ∈ e.children) :
    child.Normal := by
  cases normal with
  | value | error => cases member
  | unary op opSpan operandNormal _ =>
      rw [children, List.mem_singleton] at member
      rwa [member]
  | binary family op leftNormal rightNormal _ =>
      simp only [children, List.mem_cons, List.not_mem_nil, or_false] at member
      rcases member with rfl | rfl
      · exact leftNormal
      · exact rightNormal
  | coalesce leftNormal rightNormal _ =>
      simp only [children, List.mem_cons, List.not_mem_nil, or_false] at member
      rcases member with rfl | rfl
      · exact leftNormal
      · exact rightNormal
  | conditional condNormal trueNormal falseNormal _ =>
      simp only [children, List.mem_cons, List.not_mem_nil, or_false] at member
      rcases member with rfl | rfl | rfl
      · exact condNormal
      · exact trueNormal
      · exact falseNormal
  | guarded condNormal trueNormal _ =>
      simp only [children, List.mem_cons, List.not_mem_nil, or_false] at member
      rcases member with rfl | rfl
      · exact condNormal
      · exact trueNormal

/-- All parts of a normal tree are normal. -/
theorem Normal.part {e part : Expr F} (normal : e.Normal) (inside : part.Part e) : part.Normal := by
  induction inside with
  | whole => exact normal
  | under member _ inChild => exact inChild (normal.child member)

/-- Folding leaves a normal tree as it is. -/
theorem Normal.fold_eq {e : Expr F} (normal : e.Normal) : e.fold = e := by
  induction normal with
  | value span narrowed => rw [fold, narrowed]
  | unary op opSpan _ undecided operandEq =>
      rw [fold, operandEq, foldUnary_of_undecided op opSpan undecided]
  | binary family op _ _ undecided leftEq rightEq =>
      rw [fold, leftEq, rightEq, foldBinary_of_undecided family op undecided]
  | coalesce _ _ undecided leftEq rightEq =>
      rw [fold, leftEq, rightEq, foldCoalesce_of_undecided _ undecided]
  | conditional _ _ _ undecided condEq trueEq falseEq =>
      rw [fold, condEq, trueEq, falseEq, foldConditional_of_undecided _ _ undecided]
  | guarded _ _ undecided condEq trueEq =>
      rw [fold, condEq, trueEq, foldGuarded_of_undecided _ undecided]
  | error diagnostic => rfl

/-! ### Folding makes a tree normal -/

/-- A sign before a normal operand folds to a normal tree. -/
theorem normal_foldUnary (op : UnaryOp) (opSpan : Span) {operand : Expr F}
    (operandNormal : operand.Normal) : (foldUnary op opSpan operand).Normal := by
  cases literal : operand.isLiteral with
  | false =>
      rw [foldUnary_of_undecided op opSpan literal]
      exact .unary op opSpan operandNormal literal
  | true =>
      obtain ⟨span, v, rfl⟩ := exists_value_of_isLiteral literal
      simp only [foldUnary]
      split
      · next result applied => exact .value _ (Value.narrow_of_unary applied)
      · exact .error _

/-- Two literals fold to a literal or to an error, which are normal. -/
theorem normal_foldLiterals (family : Family) (op : BinaryOp) (span : Span) (left right : Value F) :
    (foldLiterals family op span left right).Normal := by
  simp only [foldLiterals]
  split
  · exact .error _
  · split
    · next result applied => exact .value _ (Value.narrow_of_binary applied)
    · exact .error _

/-- An operation on normal operands folds to a normal tree. -/
theorem normal_foldBinary (family : Family) (op : BinaryOp) {left right : Expr F}
    (leftNormal : left.Normal) (rightNormal : right.Normal) :
    (foldBinary family op left right).Normal := by
  by_cases undecided : left.isLiteral = false ∨ right.isLiteral = false
  · rw [foldBinary_of_undecided family op undecided]
    exact .binary family op leftNormal rightNormal undecided
  · rw [not_or, Bool.not_eq_false, Bool.not_eq_false] at undecided
    obtain ⟨leftSpan, l, rfl⟩ := exists_value_of_isLiteral undecided.1
    obtain ⟨rightSpan, r, rfl⟩ := exists_value_of_isLiteral undecided.2
    exact normal_foldLiterals family op _ l r

/-- Coalescing of normal sides folds to a normal tree. -/
theorem normal_foldCoalesce {left right : Expr F} (leftNormal : left.Normal)
    (rightNormal : right.Normal) : (foldCoalesce left right).Normal := by
  cases literal : left.isLiteral with
  | false =>
      rw [foldCoalesce_of_undecided right literal]
      exact .coalesce leftNormal rightNormal literal
  | true =>
      obtain ⟨span, v, rfl⟩ := exists_value_of_isLiteral literal
      cases v with
      | null => exact rightNormal
      | _ => exact leftNormal

/-- A conditional of normal parts folds to a normal tree. -/
theorem normal_foldConditional {cond ifTrue ifFalse : Expr F} (condNormal : cond.Normal)
    (trueNormal : ifTrue.Normal) (falseNormal : ifFalse.Normal) :
    (foldConditional cond ifTrue ifFalse).Normal := by
  unfold foldConditional
  split
  · exact trueNormal
  · exact falseNormal
  · exact .error _
  · next unknown =>
      exact .conditional condNormal trueNormal falseNormal (verdict_eq_unknown_iff.mp unknown)

theorem normal_foldGuarded {cond ifTrue : Expr F} (condNormal : cond.Normal)
    (trueNormal : ifTrue.Normal) : (foldGuarded cond ifTrue).Normal := by
  unfold foldGuarded
  split
  · exact trueNormal
  · exact .value _ rfl
  · exact .error _
  · next unknown => exact .guarded condNormal trueNormal (verdict_eq_unknown_iff.mp unknown)

/-- Folding makes every tree normal. -/
theorem normal_fold (e : Expr F) : e.fold.Normal := by
  induction e with
  | value span v => exact .value span (Value.narrow_narrow v)
  | unary op opSpan operand operandNormal => exact normal_foldUnary op opSpan operandNormal
  | binary family op left right leftNormal rightNormal =>
      exact normal_foldBinary family op leftNormal rightNormal
  | coalesce left right leftNormal rightNormal => exact normal_foldCoalesce leftNormal rightNormal
  | conditional cond ifTrue ifFalse condNormal trueNormal falseNormal =>
      exact normal_foldConditional condNormal trueNormal falseNormal
  | guarded cond ifTrue condNormal trueNormal => exact normal_foldGuarded condNormal trueNormal
  | error diagnostic => exact .error diagnostic

/-- Folding twice is folding once. -/
@[simp] theorem fold_fold (e : Expr F) : e.fold.fold = e.fold :=
  (normal_fold e).fold_eq

/-- A folded tree is a literal if and only if it shows no error; otherwise one of its nodes is the
first error. Every literal in it is narrowed, also one that stands beside an error. -/
theorem fold_eq_value_iff (e : Expr) :
    ((∃ span v, e.fold = .value span v) ↔ e.fold.firstError? = none) ∧
      ((∀ span v, e.fold ≠ .value span v) →
        ∃ diagnostic, e.fold.firstError? = some diagnostic ∧
          (Expr.error diagnostic).Part e.fold) ∧
      ∀ span v, (Expr.value span v).Part e.fold → v.narrow = v := by
  refine ⟨⟨?_, ?_⟩, ?_, ?_⟩
  · rintro ⟨span, v, folded⟩
    rw [folded]
    rfl
  · intro faultless
    obtain ⟨span, v, folded, _⟩ := exists_value_of_firstError? faultless
    exact ⟨span, v, folded⟩
  · intro noLiteral
    rcases settled_fold e with ⟨span, v, folded⟩ | ⟨diagnostic, found⟩
    · exact absurd folded (noLiteral span v)
    · exact ⟨diagnostic, found, part_of_firstError? found⟩
  · intro span v inside
    cases (normal_fold e).part inside with
    | value _ narrowed => exact narrowed

end Expr

/-! ### Folding parts ahead -/

section AnyFloats

variable {F : Type} [Floats F]

/-- The second tree is the first with some of its parts, none of them inside another, folded
ahead. -/
abbrev Expr.Prefolded : Expr F → Expr F → Prop :=
  Expr.Replaced fun e e' => e.fold = e'

/-- The second statement is the first with some parts of its expressions folded ahead. -/
abbrev Stmt.Prefolded : Stmt F → Stmt F → Prop :=
  Stmt.Replaced fun e e' => e.fold = e'

/-- A tree of which parts are folded ahead folds to the same tree. -/
theorem Expr.Replaced.fold_eq {e e' : Expr F} (prefolded : e.Prefolded e') : e'.fold = e.fold := by
  induction prefolded with
  | part folded => rw [← folded, fold_fold]
  | value span v => rfl
  | unary op opSpan _ operandEq => rw [fold, fold, operandEq]
  | binary family op _ _ leftEq rightEq => rw [fold, fold, leftEq, rightEq]
  | coalesce _ _ leftEq rightEq => rw [fold, fold, leftEq, rightEq]
  | conditional _ _ _ condEq trueEq falseEq => rw [fold, fold, condEq, trueEq, falseEq]
  | guarded _ _ condEq trueEq => rw [fold, fold, condEq, trueEq]
  | error diagnostic => rfl

namespace Stmt

mutual

/-- Folding a statement as a whole is folding all of its expressions ahead. -/
theorem prefolded_fold : (s : Stmt F) → s.Prefolded s.fold
  | .expression _ => .expression (.part rfl)
  | .block body => .block (bodyPrefolded_foldAll body)

/-- The same for statements one after another. -/
theorem bodyPrefolded_foldAll :
    (body : List (Stmt F)) → BodyReplaced (fun e e' => e.fold = e') body (foldAll body)
  | [] => .nil
  | s :: rest => .cons s.prefolded_fold (bodyPrefolded_foldAll rest)

end

mutual

/-- A statement of which parts are folded ahead folds to the same statement. -/
theorem Replaced.fold_eq {s s' : Stmt F} : s.Prefolded s' → s'.fold = s.fold
  | .expression inExpression => by rw [fold, fold, inExpression.fold_eq]
  | .block inBody => by rw [fold, fold, inBody.foldAll_eq]

theorem BodyReplaced.foldAll_eq {body body' : List (Stmt F)} :
    BodyReplaced (fun e e' => e.fold = e') body body' → foldAll body' = foldAll body
  | .nil => rfl
  | .cons inHead inRest => by rw [foldAll, foldAll, inHead.fold_eq, inRest.foldAll_eq]

end

end Stmt

/-- Whatever parts of a tree, or of a statement, are folded ahead, it folds to the same: the same
literals, spans and diagnostics. In particular folding twice is folding once. The floats may be any,
so two literals are the same here only if their floats are: a NaN keeps its bits. -/
theorem fold_of_prefolded :
    (∀ e e' : Expr F, e.Prefolded e' → e'.fold = e.fold) ∧ (∀ e : Expr F, e.fold.fold = e.fold) ∧
      (∀ s s' : Stmt F, s.Prefolded s' → s'.fold = s.fold) ∧ (∀ s : Stmt F, s.Prefolded s.fold) ∧
      ∀ s : Stmt F, s.fold.fold = s.fold :=
  ⟨fun _ _ => Expr.Replaced.fold_eq, Expr.fold_fold, fun _ _ => Stmt.Replaced.fold_eq,
    Stmt.prefolded_fold, fun s => s.prefolded_fold.fold_eq⟩

end AnyFloats

/-- The statement `1 == 2 ? branch`, whose branch is never taken. -/
def Stmt.droppedSample (branch : Expr) : Stmt :=
  .block [.expression (.guarded
    (.binary .equality .equal (.value ⟨0, 1, 1, 1⟩ (.integer 1)) (.value ⟨5, 6, 1, 6⟩ (.integer 2)))
    branch)]

/-- The tree of `'a' - 3`, which folds to an error. -/
def Expr.faultySample : Expr :=
  .binary .additive .minus (.value ⟨9, 12, 1, 10⟩ (.string "a"))
    (.value ⟨15, 16, 1, 16⟩ (.integer 3))

/-- Floats known by their bits alone, as the machine keeps them in memory. -/
structure FloatBits where
  bits : UInt64
deriving DecidableEq, Repr

namespace FloatBits

/-- The float that the bits stand for. All NaNs are one there. -/
def float (x : FloatBits) : Float :=
  .ofBits x.bits

/-- An operation, which hands the bits of a NaN on. -/
def lift (f : Float → Float → Float) (a b : FloatBits) : FloatBits :=
  if a.float.isNaN then a else if b.float.isNaN then b else ⟨(f a.float b.float).toBits⟩

instance : Floats FloatBits where
  add := lift (· + ·)
  sub := lift (· - ·)
  mul := lift (· * ·)
  div := lift (· / ·)
  neg a := ⟨a.bits ^^^ 0x8000000000000000⟩
  beq a b := a.float == b.float
  zero := ⟨0⟩
  lt a b := Floats.lt a.float b.float
  le a b := Floats.le a.float b.float
  pow := lift Floats.pow
  remainder := lift Floats.remainder
  floor? a := Floats.floor? a.float
  integer? a := Floats.integer? a.float
  ofInteger n := ⟨(Floats.ofInteger n : Float).toBits⟩
  text a := Floats.text a.float

/-- A NaN with the given low bits. -/
def nan (payload : UInt64) : FloatBits :=
  ⟨0x7ff8000000000000 ||| payload⟩

end FloatBits

/-- The tree of a NaN plus three. -/
def Expr.nanSample (payload : UInt64) : Expr FloatBits :=
  .binary .additive .plus (.value ⟨1, 4, 1, 2⟩ (.float (.nan payload)))
    (.value ⟨7, 8, 1, 8⟩ (.integer 3))

/-- Folding a branch ahead makes an error of it, which covers the same text; the folded statement is
null there in both cases. Folding a sum ahead hands on the NaN with its bits, and the bits are told
apart in what the whole folds to. -/
theorem fold_of_prefolded_droppedBranch :
    (Stmt.droppedSample Expr.faultySample).Prefolded (.droppedSample Expr.faultySample.fold) ∧
      (Stmt.droppedSample Expr.faultySample.fold).fold =
        (Stmt.droppedSample Expr.faultySample).fold ∧
      (Stmt.droppedSample Expr.faultySample).fold =
        .block [.expression (.value ⟨9, 16, 1, 10⟩ .null)] ∧
      (Expr.unary .minus ⟨0, 1, 1, 1⟩ (.nanSample 1)).Prefolded
        (.unary .minus ⟨0, 1, 1, 1⟩ (.value ⟨1, 8, 1, 2⟩ (.float (.nan 1)))) ∧
      (Expr.unary .minus ⟨0, 1, 1, 1⟩ (.value ⟨1, 8, 1, 2⟩ (.float (FloatBits.nan 1)))).fold =
        (Expr.unary .minus ⟨0, 1, 1, 1⟩ (.nanSample 1)).fold ∧
      (Expr.unary .minus ⟨0, 1, 1, 1⟩ (.nanSample 1)).fold ≠
        (Expr.unary .minus ⟨0, 1, 1, 1⟩ (.nanSample 2)).fold := by
  have dropped : (Stmt.droppedSample Expr.faultySample).Prefolded
      (.droppedSample Expr.faultySample.fold) :=
    .block (.cons (.expression (.guarded (.binary _ _ (.value _ _) (.value _ _)) (.part rfl))) .nil)
  have summed : (Expr.unary .minus ⟨0, 1, 1, 1⟩ (.nanSample 1)).Prefolded
      (.unary .minus ⟨0, 1, 1, 1⟩ (.value ⟨1, 8, 1, 2⟩ (.float (.nan 1)))) :=
    .unary _ _ (.part rfl)
  exact ⟨dropped, fold_of_prefolded.2.2.1 _ _ dropped, rfl, summed, fold_of_prefolded.1 _ _ summed,
    by decide +kernel⟩

end Reckon
