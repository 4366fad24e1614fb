/-
Module: Reckon.Proofs.UniqueReadability
Purpose: The text of a tree tells the tree. Every node stands in parentheses, and the character
  behind the first of them tells literals, signs and joined operands apart. Names and numbers hold
  no parenthesis, so each of them ends where the next parenthesis stands. So the text of a tree is
  told from whatever stands behind it, operand by operand, and trees of one text differ in their
  spans only.
Main exports: Value.eq_of_display_eq, Value.closing_notMem_display, BinaryOp.name_injective,
  Expr.Legible, Expr.Joined, Expr.Shape, Expr.Told, Expr.told, Expr.render_eq_iff_withoutSpans
-/
import Reckon.Expr.Render
import Reckon.Proofs.Derivation
import Reckon.Proofs.Inspection
import Reckon.Proofs.NormalForm
import Reckon.Proofs.ReadBack

namespace Reckon

/-! ### The texts of values -/

/-- The characters that numbers are written with. -/
def writesNumber (c : Char) : Bool :=
  c.isDigit || c == '.' || c == 'e' || c == '-'

section Numbers

variable {c : Char} {digits : List Char}

theorem writesNumber_of_isDigit (isDigit : c.isDigit = true) : writesNumber c = true := by
  simp [writesNumber, isDigit]

theorem writesNumber_of_mem_toString {k : Int} (member : c ∈ (toString k).toList) :
    writesNumber c = true := by
  rw [Int.toString_eq_repr, Int.repr_eq_if] at member
  split at member
  · rw [Nat.toList_repr] at member
    exact writesNumber_of_isDigit (isDigit_of_mem_toDigits member)
  · rw [String.toList_append, Nat.toList_repr] at member
    rcases List.mem_append.mp member with sign | digit
    · cases List.mem_singleton.mp sign
      rfl
    · exact writesNumber_of_isDigit (isDigit_of_mem_toDigits digit)

theorem writesNumber_of_mem_positional (areDigits : ∀ c ∈ digits, c.isDigit = true) {place : Int}
    (member : c ∈ positional digits place) : writesNumber c = true := by
  have ofDigit : c ∈ digits → writesNumber c = true :=
    fun digit => writesNumber_of_isDigit (areDigits c digit)
  have ofZero {count : Nat} : c ∈ List.replicate count '0' → writesNumber c = true := fun zero =>
    writesNumber_of_isDigit (isDigit_of_mem_zeros zero)
  unfold positional at member
  split at member
  · simp only [List.mem_cons, List.mem_append] at member
    rcases member with rfl | rfl | zero | digit
    · rfl
    · rfl
    · exact ofZero zero
    · exact ofDigit digit
  · split at member
    · simp only [List.mem_append, List.mem_cons, List.not_mem_nil, or_false] at member
      rcases member with (digit | zero) | rfl | rfl
      · exact ofDigit digit
      · exact ofZero zero
      · rfl
      · rfl
    · rcases List.mem_append.mp member with before | behind
      · exact ofDigit (List.mem_of_mem_take before)
      · rcases List.mem_cons.mp behind with rfl | after
        · rfl
        · exact ofDigit (List.mem_of_mem_drop after)

theorem writesNumber_of_mem_scientific (areDigits : ∀ c ∈ digits, c.isDigit = true) {place : Int}
    (member : c ∈ scientific digits place) : writesNumber c = true := by
  have ofDigit : c ∈ digits → writesNumber c = true :=
    fun digit => writesNumber_of_isDigit (areDigits c digit)
  unfold scientific at member
  dsimp only at member
  rcases List.mem_append.mp member with mantissa | power
  · split at mantissa
    · simp only [List.mem_cons] at mantissa ofDigit
      rcases mantissa with first | rfl | later
      · exact ofDigit (.inl first)
      · rfl
      · exact ofDigit (.inr later)
    · exact ofDigit mantissa
  · rcases List.mem_cons.mp power with rfl | exponent
    · rfl
    · exact writesNumber_of_mem_toString exponent

/-- The text of a decimal holds no other characters than those of numbers. -/
theorem Decimal.writesNumber_of_mem_render {style : FloatNotation} {d : Decimal}
    (member : c ∈ d.render style) : writesNumber c = true := by
  have areDigits : ∀ c ∈ Nat.toDigits 10 d.coefficient, c.isDigit = true :=
    fun _ => isDigit_of_mem_toDigits
  unfold render at member
  dsimp only at member
  split at member
  · exact writesNumber_of_mem_positional areDigits member
  · split at member
    · exact writesNumber_of_mem_positional areDigits member
    · exact writesNumber_of_mem_scientific areDigits member

end Numbers

/-- The text of a float holds no closing parenthesis. -/
theorem FloatContent.closing_notMem_render (content : FloatContent) :
    ')' ∉ (content.render .standard).toList := by
  rw [toList_render]
  intro member
  rcases List.mem_append.mp member with sign | unsigned
  · split at sign <;> simp at sign
  · cases content with
    | nan => exact absurd unsigned (show ')' ∉ "NaN".toList by decide)
    | infinite _ => exact absurd unsigned (show ')' ∉ "inf".toList by decide)
    | finite _ _ _ => exact absurd (Decimal.writesNumber_of_mem_render unsigned) (by decide)

namespace Value

/-- Only the text of a string can hold a parenthesis. -/
theorem closing_notMem_display {v : Value} (noString : v.kind ≠ .string) :
    ')' ∉ v.display.toList := by
  cases v with
  | integer n => exact fun member => absurd (writesNumber_of_mem_toString member) (by decide)
  | float x => exact FloatContent.closing_notMem_render _
  | bool b => cases b <;> decide
  | string s => exact absurd rfl noString
  | null => decide

/-- Values of one kind are told apart by their texts. -/
theorem eq_of_display_eq {v w : Value} (sameKind : v.kind = w.kind) (same : v.display = w.display) :
    v = w := by
  cases v <;> cases w <;> cases sameKind
  · rw [Int64.toInt_inj.mp (Int.repr_inj.mp same)]
  · rw [floatText_injective same]
  · next a b =>
      revert same
      cases a <;> cases b <;> decide
  · exact congrArg Value.string same
  · rfl

end Value

/-! ### The names in a text -/

namespace ValueKind

theorem name_injective {kind other : ValueKind} (same : kind.name = other.name) : kind = other := by
  revert same
  cases kind <;> cases other <;> decide

theorem space_notMem_name (kind : ValueKind) : ' ' ∉ kind.name.toList := by
  cases kind <;> decide

theorem exists_name_eq (kind : ValueKind) :
    ∃ c rest, kind.name.toList = c :: rest ∧ c.isUpper = true := by
  cases kind with
  | integer => exact ⟨'I', _, rfl, rfl⟩
  | float => exact ⟨'F', _, rfl, rfl⟩
  | bool => exact ⟨'B', _, rfl, rfl⟩
  | string => exact ⟨'S', _, rfl, rfl⟩
  | null => exact ⟨'N', _, rfl, rfl⟩

end ValueKind

namespace UnaryOp

theorem name_injective {op other : UnaryOp} (same : op.name = other.name) : op = other := by
  revert same
  cases op <;> cases other <;> decide

theorem space_notMem_name (op : UnaryOp) : ' ' ∉ op.name.toList := by
  cases op <;> decide

theorem exists_name_eq (op : UnaryOp) :
    ∃ c rest, op.name.toList = c :: rest ∧ c.isUpper = false ∧ c ≠ '(' := by
  cases op with
  | plus => exact ⟨'p', _, rfl, by decide⟩
  | minus => exact ⟨'m', _, rfl, by decide⟩

end UnaryOp

namespace BinaryOp

/-- The operator of a name. -/
def ofName? (name : String) : Option BinaryOp :=
  [plus, minus, times, divide, floorDivide, remainder, power, shiftLeft, shiftRight, greater,
    greaterEqual, less, lessEqual, equal, notEqual, same, notSame, bitAnd, bitOr, bitXor, andAnd,
    orOr, andWord, xorWord, coalesce].find? fun op => op.name == name

/-- The name of an operator tells the operator. -/
theorem ofName?_name (op : BinaryOp) : ofName? op.name = some op := by
  cases op <;> decide

theorem name_injective {op other : BinaryOp} (same : op.name = other.name) : op = other := by
  have found := congrArg ofName? same
  rwa [ofName?_name, ofName?_name, Option.some.injEq] at found

theorem name_ne_question (op : BinaryOp) : op.name ≠ "?" := by
  cases op <;> decide

theorem opening_notMem_name (op : BinaryOp) : '(' ∉ op.name.toList := by
  cases op <;> decide

end BinaryOp

namespace Expr

/-! ### Legible trees -/

/-- A tree without error nodes in which every binary node has an operator of its own family and no
leaf is a string. The texts of strings and errors may hold anything, so they would hide where a node
ends. -/
structure Legible (e : Expr) : Prop where
  ownFamilies : e.OwnFamilies
  noString : ∀ leaf ∈ e.leaves, leaf.2.kind ≠ .string

/-- The leaves of a child are leaves of its parent. -/
theorem leaves_subset_of_child {child parent : Expr} (member : child ∈ parent.children) :
    child.leaves ⊆ parent.leaves := by
  cases parent with
  | value | error => cases member
  | unary op opSpan operand =>
      cases List.mem_singleton.mp member
      exact List.Subset.refl _
  | binary family op left right =>
      have leavesEq := Grammar.leaves_build (.binary family op) left right
      grind [children, Grammar.Joint.build]
  | coalesce left right =>
      have leavesEq := Grammar.leaves_build .coalesce left right
      grind [children, Grammar.Joint.build]
  | conditional cond ifTrue ifFalse => grind [children, Grammar.leaves_conditional]
  | guarded cond ifTrue => grind [children, Grammar.leaves_guarded]

theorem ownFamilies_of_child {child parent : Expr} (own : parent.OwnFamilies)
    (member : child ∈ parent.children) : child.OwnFamilies := by
  cases parent <;> simp only [children, List.mem_cons, List.not_mem_nil, or_false] at member
  all_goals grind [OwnFamilies]

/-- The children of a legible tree are legible. -/
theorem Legible.child {child parent : Expr} (legible : parent.Legible)
    (member : child ∈ parent.children) :
    child.Legible where
  ownFamilies := ownFamilies_of_child legible.ownFamilies member
  noString leaf inside := legible.noString leaf (leaves_subset_of_child member inside)

/-! ### The shapes of nodes -/

/-- A node that has words between its first two operands, and perhaps an alternative as a third. -/
inductive Joined :
    Expr → (left : Expr) → (words : String) → (right : Expr) → (alternative : Option Expr) →
      Prop where
  | binary (family : Family) (op : BinaryOp) (left right : Expr) :
      Joined (.binary family op left right) left op.name right none
  | coalesce (left right : Expr) :
      Joined (.coalesce left right) left BinaryOp.coalesce.name right none
  | conditional (cond ifTrue ifFalse : Expr) :
      Joined (.conditional cond ifTrue ifFalse) cond "?" ifTrue (some ifFalse)
  | guarded (cond ifTrue : Expr) : Joined (.guarded cond ifTrue) cond "?" ifTrue none

/-- What can be seen of the root of a tree. -/
inductive Shape : Expr → Prop where
  | literal (span : Span) (v : Value) : Shape (.value span v)
  | signed (op : UnaryOp) (opSpan : Span) (operand : Expr) : Shape (.unary op opSpan operand)
  | joined {e left right : Expr} {words : String} {alternative : Option Expr}
      (joined : Joined e left words right alternative) : Shape e

/-- A legible tree is a literal, a sign, or a node that joins others by words. -/
theorem Legible.shape {e : Expr} (legible : e.Legible) : e.Shape := by
  cases e with
  | value span v => exact .literal span v
  | unary op opSpan operand => exact .signed op opSpan operand
  | binary family op left right => exact .joined (.binary family op left right)
  | coalesce left right => exact .joined (.coalesce left right)
  | conditional cond ifTrue ifFalse => exact .joined (.conditional cond ifTrue ifFalse)
  | guarded cond ifTrue => exact .joined (.guarded cond ifTrue)
  | error diagnostic => exact legible.ownFamilies.elim

/-- The text of a tree, character by character. -/
def characters (e : Expr) : List Char :=
  e.render.toList

theorem characters_value (span : Span) (v : Value) :
    (value span v).characters = '(' ::
      (v.kind.name.toList ++ ' ' :: (v.display.toList ++ [')'])) := by
  simp [characters, render]

theorem characters_unary (op : UnaryOp) (opSpan : Span) (operand : Expr) :
    (unary op opSpan operand).characters =
      '(' :: (op.name.toList ++ ' ' :: (operand.characters ++ [')'])) := by
  simp [characters, render]

/-- An alternative stands behind a colon. -/
def alternativeCharacters : Option Expr → List Char
  | none => []
  | some e => ' ' :: ':' :: ' ' :: e.characters

namespace Joined

variable {e left right : Expr} {words : String} {alternative : Option Expr}

/-- The text of a node that joins others: its parts and its words, apart by spaces, in
parentheses. -/
theorem characters_eq (joined : Joined e left words right alternative) :
    e.characters = '(' :: (left.characters ++ ' ' :: (words.toList ++ ' ' :: (right.characters ++
      (alternativeCharacters alternative ++ [')'])))) := by
  cases joined <;> simp [characters, render, alternativeCharacters]

theorem children_eq (joined : Joined e left words right alternative) :
    e.children = left :: right :: alternative.toList := by
  cases joined <;> rfl

theorem opening_notMem_words (joined : Joined e left words right alternative) :
    '(' ∉ words.toList := by
  cases joined with
  | binary _ op _ _ => exact op.opening_notMem_name
  | coalesce _ _ => exact BinaryOp.coalesce.opening_notMem_name
  | conditional _ _ _ | guarded _ _ => decide

/-- The words of a node and the operands tell the node, as an operator tells its family. -/
theorem withoutSpans_eq {e' left' right' : Expr} {alternative' : Option Expr}
    (joined : Joined e left words right alternative)
    (joined' : Joined e' left' words right' alternative') (own : e.OwnFamilies)
    (own' : e'.OwnFamilies) (sameLeft : left.withoutSpans = left'.withoutSpans)
    (sameRight : right.withoutSpans = right'.withoutSpans)
    (sameAlternative : alternative.map withoutSpans = alternative'.map withoutSpans) :
    e.withoutSpans = e'.withoutSpans := by
  generalize wordsEq : words = words' at joined'
  cases joined with
  | binary family op _ _ =>
      cases joined' with
      | binary family' op' _ _ =>
          obtain rfl := BinaryOp.name_injective wordsEq
          obtain rfl : family = family' := Option.some.inj (own.1.symm.trans own'.1)
          simp only [withoutSpans, sameLeft, sameRight]
      | coalesce _ _ =>
          -- The coalescing operator is of no family.
          obtain rfl := BinaryOp.name_injective wordsEq
          cases own.1
      | conditional _ _ _ | guarded _ _ => exact absurd wordsEq op.name_ne_question
  | coalesce _ _ =>
      cases joined' with
      | binary family' op' _ _ =>
          obtain rfl := BinaryOp.name_injective wordsEq
          cases own'.1
      | coalesce _ _ => simp only [withoutSpans, sameLeft, sameRight]
      | conditional _ _ _ | guarded _ _ => exact absurd wordsEq (BinaryOp.name_ne_question _)
  | conditional _ _ ifFalse =>
      cases joined' with
      | binary _ op' _ _ => exact absurd wordsEq.symm op'.name_ne_question
      | coalesce _ _ => exact absurd wordsEq.symm (BinaryOp.name_ne_question _)
      | conditional _ _ ifFalse' =>
          simp only [withoutSpans, sameLeft, sameRight, Option.some.inj sameAlternative]
      | guarded _ _ => cases sameAlternative
  | guarded _ _ =>
      cases joined' with
      | binary _ op' _ _ => exact absurd wordsEq.symm op'.name_ne_question
      | coalesce _ _ => exact absurd wordsEq.symm (BinaryOp.name_ne_question _)
      | conditional _ _ _ => cases sameAlternative
      | guarded _ _ => simp only [withoutSpans, sameLeft, sameRight]

end Joined

/-! ### The first characters of a text -/

theorem Legible.exists_characters_eq {e : Expr} (legible : e.Legible) :
    ∃ inside, e.characters = '(' :: inside := by
  cases legible.shape with
  | literal span v => exact ⟨_, characters_value span v⟩
  | signed op opSpan operand => exact ⟨_, characters_unary op opSpan operand⟩
  | joined joined => exact ⟨_, joined.characters_eq⟩

/-- The character behind the first parenthesis. -/
def second? (e : Expr) : Option Char :=
  e.characters[1]?

/-- Behind its parenthesis the text of a literal begins with a capital letter. -/
theorem second?_value (span : Span) (v : Value) :
    ∃ c, (value span v).second? = some c ∧ c.isUpper = true := by
  obtain ⟨c, rest, nameEq, upper⟩ := v.kind.exists_name_eq
  rw [second?, characters_value, nameEq]
  exact ⟨c, rfl, upper⟩

/-- Behind its parenthesis the text of a sign begins with neither a capital letter nor another
parenthesis. -/
theorem second?_unary (op : UnaryOp) (opSpan : Span) (operand : Expr) :
    ∃ c, (unary op opSpan operand).second? = some c ∧ c.isUpper = false ∧ c ≠ '(' := by
  obtain ⟨c, rest, nameEq, other⟩ := op.exists_name_eq
  rw [second?, characters_unary, nameEq]
  exact ⟨c, rfl, other⟩

/-- The text of a node that joins others begins with two parentheses, the second that of its first
part. -/
theorem Joined.second?_eq {e left right : Expr} {words : String} {alternative : Option Expr}
    (joined : Joined e left words right alternative) (legible : e.Legible) :
    e.second? = some '(' := by
  have leftLegible : left.Legible := legible.child (by simp [joined.children_eq])
  obtain ⟨inside, leftEq⟩ := leftLegible.exists_characters_eq
  rw [second?, joined.characters_eq, leftEq]
  rfl

/-- Texts that begin alike have the same second character. -/
theorem second?_inj {e e' : Expr} {c c' : Char} {a b : List Char} (found : e.second? = some c)
    (found' : e'.second? = some c') (same : e.characters ++ a = e'.characters ++ b) : c = c' := by
  have kept {e : Expr} {c : Char} (found : e.second? = some c) (rest : List Char) :
      (e.characters ++ rest)[1]? = some c := by
    rw [List.getElem?_append_left (List.getElem?_eq_some_iff.mp found).1]
    exact found
  have sameSecond := kept found a
  rw [same, kept found' b] at sameSecond
  exact (Option.some.inj sameSecond).symm

/-! ### Trees of one text -/

/-- The text of a tree is told from what stands behind it, and tells the tree up to its spans. -/
def Told (e : Expr) : Prop :=
  ∀ e' : Expr, e'.Legible → ∀ a b : List Char, e.characters ++ a = e'.characters ++ b →
    e.withoutSpans = e'.withoutSpans ∧ a = b

/-- A literal: the name of its kind ends at a space, and its value at the parenthesis. -/
theorem told_value {span : Span} {v : Value} (legible : (value span v).Legible) :
    Told (value span v) := by
  intro e' legible' a b same
  obtain ⟨c, found, upper⟩ := second?_value span v
  cases legible'.shape with
  | literal span' v' =>
      have noString : v.kind ≠ .string := legible.noString (span, v) List.mem_cons_self
      have noString' : v'.kind ≠ .string := legible'.noString (span', v') List.mem_cons_self
      simp only [characters_value, List.cons_append, List.append_assoc, List.nil_append,
        List.cons.injEq, true_and] at same
      obtain ⟨sameName, sameRest⟩ :=
        append_cons_inj_of_stop v.kind.space_notMem_name v'.kind.space_notMem_name same
      obtain ⟨sameText, sameTail⟩ := append_cons_inj_of_stop (Value.closing_notMem_display noString)
        (Value.closing_notMem_display noString') sameRest
      have sameKind := ValueKind.name_injective (String.toList_inj.mp sameName)
      obtain rfl := Value.eq_of_display_eq sameKind (String.toList_inj.mp sameText)
      exact ⟨rfl, sameTail⟩
  | signed op opSpan operand =>
      obtain ⟨c', found', lower, _⟩ := second?_unary op opSpan operand
      obtain rfl := second?_inj found found' same
      rw [upper] at lower
      cases lower
  | joined joined =>
      obtain rfl := second?_inj found (joined.second?_eq legible') same
      exact absurd upper (by decide)

/-- A sign: its name ends at a space, and behind that stands the operand. -/
theorem told_unary {op : UnaryOp} {opSpan : Span} {operand : Expr} (operandTold : operand.Told) :
    Told (unary op opSpan operand) := by
  intro e' legible' a b same
  obtain ⟨c, found, lower, noParen⟩ := second?_unary op opSpan operand
  cases legible'.shape with
  | literal span' v' =>
      obtain ⟨c', found', upper⟩ := second?_value span' v'
      obtain rfl := second?_inj found found' same
      rw [upper] at lower
      cases lower
  | signed op' opSpan' operand' =>
      have operandLegible' : operand'.Legible := legible'.child List.mem_cons_self
      simp only [characters_unary, List.cons_append, List.append_assoc, List.nil_append,
        List.cons.injEq, true_and] at same
      obtain ⟨sameName, sameRest⟩ :=
        append_cons_inj_of_stop op.space_notMem_name op'.space_notMem_name same
      obtain rfl := UnaryOp.name_injective (String.toList_inj.mp sameName)
      obtain ⟨sameOperand, sameTail⟩ := operandTold operand' operandLegible' _ _ sameRest
      refine ⟨?_, (List.cons.inj sameTail).2⟩
      simp only [withoutSpans, sameOperand]
  | joined joined => exact absurd (second?_inj found (joined.second?_eq legible') same) noParen

/-- Words end before the parenthesis of the operand behind them, whatever spaces they hold. -/
theorem words_append_inj {words words' : String} {right right' : Expr} {a b : List Char}
    (noParen : '(' ∉ words.toList) (noParen' : '(' ∉ words'.toList) (legible : right.Legible)
    (legible' : right'.Legible)
    (same : words.toList ++ ' ' :: (right.characters ++ a) =
      words'.toList ++ ' ' :: (right'.characters ++ b)) :
    words = words' ∧ right.characters ++ a = right'.characters ++ b := by
  obtain ⟨inside, rightEq⟩ := legible.exists_characters_eq
  obtain ⟨inside', rightEq'⟩ := legible'.exists_characters_eq
  rw [rightEq, rightEq', List.cons_append, List.cons_append] at same ⊢
  -- Words may hold spaces, so the space behind them is no mark of their end; the parenthesis behind
  -- it is.
  have upToParen : (words.toList ++ [' ']) ++ '(' :: (inside ++ a) =
      (words'.toList ++ [' ']) ++ '(' :: (inside' ++ b) := by
    simpa using same
  obtain ⟨sameWords, sameRest⟩ :=
    append_cons_inj_of_stop (by simpa using noParen) (by simpa using noParen') upToParen
  exact ⟨String.toList_inj.mp (List.append_cancel_right sameWords), congrArg _ sameRest⟩

/-- Behind the second operand, a space begins an alternative and a parenthesis ends the node. -/
theorem told_alternative {alternative alternative' : Option Expr} {a b : List Char}
    (alternativeTold : ∀ e ∈ alternative, e.Told) (legible' : ∀ e ∈ alternative', e.Legible)
    (same : alternativeCharacters alternative ++ ')' :: a = alternativeCharacters alternative' ++
      ')' :: b) :
    alternative.map withoutSpans = alternative'.map withoutSpans ∧ a = b := by
  cases alternative with
  | none =>
      cases alternative' with
      | none => exact ⟨rfl, (List.cons.inj same).2⟩
      | some e' => simp [alternativeCharacters] at same
  | some e =>
      cases alternative' with
      | none => simp [alternativeCharacters] at same
      | some e' =>
          simp only [alternativeCharacters, List.cons_append, List.cons.injEq, true_and] at same
          obtain ⟨sameTree, sameTail⟩ := alternativeTold e rfl e' (legible' e' rfl) _ _ same
          exact ⟨congrArg some sameTree, (List.cons.inj sameTail).2⟩

/-- Joined operands: each of them is told in its turn, and so are the words between them. -/
theorem told_joined {e left right : Expr} {words : String} {alternative : Option Expr}
    (joined : Joined e left words right alternative) (legible : e.Legible)
    (below : ∀ child ∈ e.children, child.Told) : Told e := by
  intro e' legible' a b same
  have found := joined.second?_eq legible
  cases legible'.shape with
  | literal span' v' =>
      obtain ⟨c', found', upper⟩ := second?_value span' v'
      obtain rfl := second?_inj found found' same
      exact absurd upper (by decide)
  | signed op' opSpan' operand' =>
      obtain ⟨c', found', _, noParen⟩ := second?_unary op' opSpan' operand'
      exact absurd (second?_inj found found' same).symm noParen
  | joined joined' =>
      have legibleChild : ∀ child ∈ e.children, child.Legible :=
        fun child member => legible.child member
      have legibleChild' : ∀ child ∈ e'.children, child.Legible :=
        fun child member => legible'.child member
      rw [joined.children_eq] at below legibleChild
      rw [joined'.children_eq] at legibleChild'
      simp only [List.forall_mem_cons, Option.mem_toList] at below legibleChild legibleChild'
      obtain ⟨leftTold, rightTold, alternativeTold⟩ := below
      obtain ⟨_, rightLegible, _⟩ := legibleChild
      obtain ⟨leftLegible', rightLegible', alternativeLegible'⟩ := legibleChild'
      -- What both texts begin with is taken off them: the left operand, the words, the right
      -- operand, and last the alternative, if there is one.
      rw [joined.characters_eq, joined'.characters_eq] at same
      simp only [List.cons_append, List.append_assoc, List.nil_append, List.cons.injEq,
        true_and] at same
      obtain ⟨sameLeft, behindLeft⟩ := leftTold _ leftLegible' _ _ same
      obtain ⟨rfl, sameRest⟩ :=
        words_append_inj joined.opening_notMem_words joined'.opening_notMem_words
        rightLegible rightLegible' (List.cons.inj behindLeft).2
      obtain ⟨sameRight, behindRight⟩ := rightTold _ rightLegible' _ _ sameRest
      obtain ⟨sameAlternative, sameTail⟩ :=
        told_alternative alternativeTold alternativeLegible' behindRight
      exact ⟨joined.withoutSpans_eq joined' legible.ownFamilies legible'.ownFamilies sameLeft
        sameRight sameAlternative, sameTail⟩

/-- By induction over the tree, every legible tree is told by its text. -/
theorem told {e : Expr} (legible : e.Legible) : e.Told := by
  induction e using children_induction with
  | node e inductionHypothesis =>
      have below : ∀ child ∈ e.children, child.Told := fun child member =>
        inductionHypothesis child member (legible.child member)
      cases legible.shape with
      | literal span v => exact told_value legible
      | signed op opSpan operand => exact told_unary (below operand List.mem_cons_self)
      | joined joined => exact told_joined joined legible below

/-- The text of a tree shows no span. -/
theorem render_withoutSpans (e : Expr) : e.withoutSpans.render = e.render := by
  induction e with
  | value | error => rfl
  | unary | binary | coalesce | conditional | guarded => simp_all [withoutSpans, render]

/-- Two trees have the same text exactly if they are the same tree up to their spans, provided that
they have no error nodes and no strings, and that their binary nodes have operators of their own
families. Floats are told by their texts as well, all not-a-numbers being one float. -/
theorem render_eq_iff_withoutSpans {e e' : Expr} (legible : e.Legible) (legible' : e'.Legible) :
    e.render = e'.render ↔ e.withoutSpans = e'.withoutSpans := by
  constructor
  · intro same
    have sameCharacters : e.characters ++ [] = e'.characters ++ [] := by
      rw [characters, characters, same]
    exact (told legible e' legible' [] [] sameCharacters).1
  · intro same
    rw [← render_withoutSpans e, same, render_withoutSpans]

/-- A conditional over two kinds of minus, a guarded branch and a comparison, with one place for all
its parts. -/
def printedSample (span : Span) : Expr :=
  .conditional
    (.binary .additive .minus (.unary .minus span (.value span (.float 1e-7)))
      (.value span (.integer (-5))))
    (.guarded (.value span (.bool true)) (.value span .null))
    (.binary .equality .notSame (.value span (.float (0.0 / 0.0))) (.value span (.float 2.0)))

theorem legible_printedSample (span : Span) : (printedSample span).Legible where
  ownFamilies := by simp [printedSample, OwnFamilies, BinaryOp.family?]
  noString := by
    simp only [printedSample, leaves, inOrder, List.cons_append, List.nil_append,
      List.filterMap_cons, Mark.leaf?, List.filterMap_nil, List.forall_mem_cons]
    simp [Value.kind]

/-- Two trees that differ in their spans only have the same text. -/
theorem render_eq_iff_withoutSpans_printedSample :
    (printedSample ⟨0, 4, 1, 1⟩).Legible ∧ (printedSample ⟨7, 9, 2, 3⟩).Legible ∧
      (printedSample ⟨0, 4, 1, 1⟩).render = (printedSample ⟨7, 9, 2, 3⟩).render ∧
      (printedSample ⟨0, 4, 1, 1⟩).withoutSpans = (printedSample ⟨7, 9, 2, 3⟩).withoutSpans := by
  have same : (printedSample ⟨0, 4, 1, 1⟩).render = (printedSample ⟨7, 9, 2, 3⟩).render := rfl
  exact ⟨legible_printedSample _, legible_printedSample _, same,
    (render_eq_iff_withoutSpans (legible_printedSample _) (legible_printedSample _)).mp same⟩

end Expr

end Reckon
