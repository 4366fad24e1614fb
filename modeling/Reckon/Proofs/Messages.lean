/-
Module: Reckon.Proofs.Messages
Purpose: What can be told from the wording of a message. Its first character tells a message about a
  label from all others that a run can fail with, and the number in it tells the label.
Main exports: head?_toList_append, Fault.exists_head?_message,
  MachineFault.message_eq_duplicate_iff, MachineFault.message_eq_unknown_iff
-/
import Std.Data.String.ToNat
import Reckon.Proofs.Steps

namespace Reckon

/-- A text that goes on begins as it did. -/
theorem head?_toList_append {first : String} {c : Char} (begins : first.toList.head? = some c)
    (second : String) : (first ++ second).toList.head? = some c := by
  rw [String.toList_append, List.head?_append, begins, Option.some_or]

/-- The characters that the message of an operator begins with. -/
theorem Fault.exists_head?_message (fault : Fault) (name use : String) :
    ∃ c ∈ ['C', 'T', 'd', 'I', 'n'], (fault.message name use).toList.head? = some c := by
  cases fault with
  | unsupported => exact ⟨'C', by decide, head?_toList_append rfl _⟩
  | undefinedForString | undefinedWithFloat =>
      exact ⟨'T', by decide, head?_toList_append (head?_toList_append rfl _) _⟩
  | divisionByZero =>
      exact ⟨'d', by decide, show "division by zero".toList.head? = some 'd' from rfl⟩
  | overflow => exact ⟨'I', by decide, head?_toList_append (head?_toList_append rfl _) _⟩
  | negativeShift =>
      exact ⟨'n', by decide, show "negative shift count".toList.head? = some 'n' from rfl⟩

namespace MachineFault

variable {fault : MachineFault} {id : Nat}

theorem head?_duplicateLabel : (duplicateLabel id).message.toList.head? = some 'L' :=
  head?_toList_append (head?_toList_append rfl _) _

theorem head?_unknownLabel : (unknownLabel id).message.toList.head? = some 'J' :=
  head?_toList_append (head?_toList_append rfl _) _

/-- No other message begins as one about a label does. -/
theorem exists_head?_message (other : fault.concern ≠ .labels) :
    ∃ c ∈ ['C', 'T', 'd', 'I', 'n', 'S'], fault.message.toList.head? = some c := by
  have ofOperator : ∀ (inner : Fault) (name use : String),
      ∃ c ∈ ['C', 'T', 'd', 'I', 'n', 'S'], (inner.message name use).toList.head? = some c := by
    intro inner name use
    obtain ⟨c, member, begins⟩ := inner.exists_head?_message name use
    exact ⟨c, List.mem_append_left ['S'] member, begins⟩
  cases fault with
  | duplicateLabel | unknownLabel => exact absurd rfl other
  | missingOperand | nothingToDuplicate =>
      exact ⟨'S', by decide, show "Stack underflow.".toList.head? = some 'S' from rfl⟩
  | invalidConstant =>
      exact ⟨'I', by decide, show "Invalid constant index in byte code.".toList.head? =
        some 'I' from rfl⟩
  | binaryFault inner op left right => exact ofOperator inner _ _
  | negateFault inner operand => exact ofOperator inner _ _
  | stepLimit => exact ⟨'S', by decide, show "Step limit reached.".toList.head? = some 'S' from rfl⟩

/-- Only messages about labels begin with one of these two letters. -/
theorem concern_of_head? {c : Char} (begins : fault.message.toList.head? = some c)
    (label : c = 'L' ∨ c = 'J') : fault.concern = .labels := by
  apply Decidable.byContradiction
  intro other
  obtain ⟨c', member, begins'⟩ := exists_head?_message other
  rw [begins, Option.some.injEq] at begins'
  subst begins'
  rcases label with rfl | rfl <;> simp at member

/-- A message that a label is defined twice is one about that label. -/
theorem message_eq_duplicate_iff :
    fault.message = "Label L" ++ toString id ++ " is defined more than once." ↔
      fault = .duplicateLabel id := by
  constructor
  · intro same
    have begins : fault.message.toList.head? = some 'L' := same ▸ head?_duplicateLabel
    cases fault with
    | duplicateLabel other =>
        have sameNumber := (String.append_right_inj _).mp ((String.append_left_inj _).mp same)
        rw [Nat.repr_inj.mp sameNumber]
    | unknownLabel other =>
        rw [head?_unknownLabel] at begins
        cases begins
    | _ => cases concern_of_head? begins (.inl rfl)
  · rintro rfl
    rfl

/-- A message that a label is unknown is one about that label. -/
theorem message_eq_unknown_iff :
    fault.message = "Jump to the unknown label L" ++ toString id ++ "." ↔
      fault = .unknownLabel id := by
  constructor
  · intro same
    have begins : fault.message.toList.head? = some 'J' := same ▸ head?_unknownLabel
    cases fault with
    | unknownLabel other =>
        have sameNumber := (String.append_right_inj _).mp ((String.append_left_inj _).mp same)
        rw [Nat.repr_inj.mp sameNumber]
    | duplicateLabel other =>
        rw [head?_duplicateLabel] at begins
        cases begins
    | _ => cases concern_of_head? begins (.inr rfl)
  · rintro rfl
    rfl

end MachineFault

end Reckon
