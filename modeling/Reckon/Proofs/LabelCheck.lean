/-
Module: Reckon.Proofs.LabelCheck
Purpose: Labels are checked before a run takes its first step. The check says exactly whether a
  label is defined twice and, if not, which jump is the first to an undefined label. Where it finds
  nothing, every label has one place, so each jump that is taken goes on there, and no run of any
  length fails for a label.
Main exports: Code.DefinesTwice, Code.JumpsAstray, Code.FirstAstray, Code.labelFault?_eq_none_iff,
  Code.target?_of_once, Code.run_eq_error_iff, Instr.Jumps, Code.exists_place_of_jumps,
  Code.run_checks_labels
-/
import Reckon.Proofs.Messages

namespace Reckon

/-! ### Labels and jumps of a piece of code -/

section Instructions

variable {κ : Type} {instrs : List (Instr κ)} {id : Nat}

theorem Instr.label?_eq_some {instr : Instr κ} : instr.label? = some id ↔ instr = .label id := by
  cases instr <;> simp [label?]

theorem mem_labels : id ∈ instrs.filterMap Instr.label? ↔ .label id ∈ instrs := by
  simp [List.mem_filterMap, Instr.label?_eq_some]

end Instructions

namespace Code

variable {code : Code} {id : Nat}

/-- Two instructions of the code define one label. -/
def DefinesTwice (code : Code) (id : Nat) : Prop :=
  ∃ i j : Nat, i < j ∧ code.instrs[i]? = some (.label id) ∧ code.instrs[j]? = some (.label id)

/-- A jump of the code, whether a run comes to it or not, names a label that the code does not
define. -/
def JumpsAstray (code : Code) (id : Nat) : Prop :=
  ∃ instr ∈ code.instrs, instr.jump? = some id ∧ .label id ∉ code.instrs

/-- The first such jump, in the order of the code, names this label. -/
def FirstAstray (code : Code) (id : Nat) : Prop :=
  ∃ before instr after, code.instrs = before ++ instr :: after ∧ instr.jump? = some id ∧
    .label id ∉ code.instrs ∧
    ∀ earlier ∈ before, ∀ other, earlier.jump? = some other → .label other ∈ code.instrs

/-- Every label is defined once if no id is repeated among those of the labels. -/
theorem nodup_labels_iff :
    (code.instrs.filterMap Instr.label?).Nodup ↔ ∀ id, ¬ code.DefinesTwice id := by
  rw [List.Nodup, List.pairwise_filterMap, List.pairwise_iff_getElem]
  constructor
  · rintro distinct id ⟨i, j, before, first, second⟩
    obtain ⟨iInside, firstEq⟩ := List.getElem?_eq_some_iff.mp first
    obtain ⟨jInside, secondEq⟩ := List.getElem?_eq_some_iff.mp second
    exact distinct i j iInside jInside before id (Instr.label?_eq_some.mpr firstEq) id
      (Instr.label?_eq_some.mpr secondEq) rfl
  · rintro once i j iInside jInside before id first _ second rfl
    have firstEq := Instr.label?_eq_some.mp first
    have secondEq := Instr.label?_eq_some.mp second
    exact once id ⟨i, j, before, List.getElem?_eq_some_iff.mpr ⟨iInside, firstEq⟩,
      List.getElem?_eq_some_iff.mpr ⟨jInside, secondEq⟩⟩

/-! ### Where labels are -/

/-- A label has no target if no instruction defines it. -/
theorem target?_eq_none_iff : code.target? id = none ↔ .label id ∉ code.instrs := by
  rw [target?, List.findIdx?_eq_none_iff]
  constructor
  · intro absent member
    simpa [Instr.label?] using absent _ member
  · intro absent instr member
    rw [beq_eq_false_iff_ne]
    intro defines
    rw [Instr.label?_eq_some] at defines
    exact absent (defines ▸ member)

/-- A label that is defined once is found where it is defined. -/
theorem target?_of_once (once : ¬ code.DefinesTwice id) {j : Nat}
    (place : code.instrs[j]? = some (.label id)) : code.target? id = some j := by
  obtain ⟨inside, placeEq⟩ := List.getElem?_eq_some_iff.mp place
  rw [target?, List.findIdx?_eq_some_iff_getElem]
  refine ⟨inside, by simp [placeEq, Instr.label?], ?_⟩
  intro i before defines
  rw [beq_iff_eq, Instr.label?_eq_some] at defines
  exact once ⟨i, j, before, List.getElem?_eq_some_iff.mpr ⟨Nat.lt_trans before inside, defines⟩,
    place⟩

/-! ### What the check finds -/

/-- No id is found to be repeated if none occurs twice and none was seen before. -/
theorem firstRepeated?_eq_none_iff {seen ids : List Nat} :
    firstRepeated? seen ids = none ↔ ids.Nodup ∧ ∀ id ∈ ids, id ∉ seen := by
  induction ids generalizing seen with
  | nil => simp [firstRepeated?]
  | cons id rest inductionHypothesis =>
      by_cases known : id ∈ seen
      · simp [firstRepeated?, known]
      · simp only [firstRepeated?, List.contains_iff_mem, known, if_false, inductionHypothesis,
          List.nodup_cons, List.mem_cons, not_or, forall_eq_or_imp, not_false_eq_true, true_and]
        -- That the rest avoids the head is said on one side of its ids, on the other side of the
        -- head.
        grind

/-- The label of the first jump astray, as the check looks for it. -/
def astray? (code : Code) : Option Nat :=
  (code.instrs.filterMap Instr.jump?).find? fun id =>
    !(code.instrs.filterMap Instr.label?).contains id

theorem not_contains_labels_iff :
    (!(code.instrs.filterMap Instr.label?).contains id) = true ↔ .label id ∉ code.instrs := by
  rw [Bool.not_eq_true', ← Bool.not_eq_true, List.contains_iff_mem, mem_labels]

/-- The search finds the first jump to a label that is nowhere defined. -/
theorem astray?_eq_some_iff : code.astray? = some id ↔ code.FirstAstray id := by
  rw [astray?, List.find?_filterMap, Option.bind_eq_some_iff]
  constructor
  · rintro ⟨instr, found, jumps⟩
    obtain ⟨astray, before, after, split, earlierDefined⟩ := List.find?_eq_some_iff_append.mp found
    rw [jumps, Option.any_some, not_contains_labels_iff] at astray
    refine ⟨before, instr, after, split, jumps, astray, ?_⟩
    intro earlier member other jumpsOther
    have defined := earlierDefined earlier member
    rw [jumpsOther, Option.any_some, Bool.not_not, List.contains_iff_mem] at defined
    exact mem_labels.mp defined
  · rintro ⟨before, instr, after, split, jumps, astray, earlierDefined⟩
    refine ⟨instr, List.find?_eq_some_iff_append.mpr ⟨?_, before, after, split, ?_⟩, jumps⟩
    · rw [jumps, Option.any_some, not_contains_labels_iff]
      exact astray
    · intro earlier member
      cases jumpsOther : earlier.jump? with
      | none => rfl
      | some other =>
          rw [Option.any_some, Bool.not_not, List.contains_iff_mem, mem_labels]
          exact earlierDefined earlier member other jumpsOther

/-- The search finds nothing if every jump has a label. -/
theorem astray?_eq_none_iff : code.astray? = none ↔ ∀ id, ¬ code.JumpsAstray id := by
  rw [astray?, List.find?_eq_none]
  constructor
  · rintro none id ⟨instr, member, jumps, astray⟩
    exact none id (List.mem_filterMap.mpr ⟨instr, member, jumps⟩)
      (not_contains_labels_iff.mpr astray)
  · intro none id member astray
    obtain ⟨instr, instrMember, jumps⟩ := List.mem_filterMap.mp member
    exact none id ⟨instr, instrMember, jumps, not_contains_labels_iff.mp astray⟩

/-- There is a first jump astray if there is any. -/
theorem exists_firstAstray_iff : (∃ id, code.FirstAstray id) ↔ ∃ id, code.JumpsAstray id := by
  constructor
  · rintro ⟨id, before, instr, after, split, jumps, astray, _⟩
    have member : instr ∈ code.instrs := by
      rw [split]
      exact List.mem_append_right before List.mem_cons_self
    exact ⟨id, instr, member, jumps, astray⟩
  · rintro ⟨id, astray⟩
    cases found : code.astray? with
    | none => exact absurd astray (astray?_eq_none_iff.mp found id)
    | some first => exact ⟨first, astray?_eq_some_iff.mp found⟩

/-- The check finds a label that is defined twice, if there is one, and else the first jump
astray. -/
theorem labelFault?_cases (code : Code) :
    (∃ id, code.DefinesTwice id) ∧ (∃ id, code.labelFault? = some (.duplicateLabel id)) ∨
      (∀ id, ¬ code.DefinesTwice id) ∧ code.labelFault? = code.astray?.map .unknownLabel := by
  by_cases twice : ∃ id, code.DefinesTwice id
  · left
    refine ⟨twice, ?_⟩
    cases repeated : firstRepeated? [] (code.instrs.filterMap Instr.label?) with
    | none =>
        obtain ⟨id, defined⟩ := twice
        exact absurd defined (nodup_labels_iff.mp (firstRepeated?_eq_none_iff.mp repeated).1 id)
    | some id => exact ⟨id, by simp only [labelFault?, repeated]⟩
  · right
    have once := not_exists.mp twice
    have noneRepeated : firstRepeated? [] (code.instrs.filterMap Instr.label?) = none :=
      firstRepeated?_eq_none_iff.mpr ⟨nodup_labels_iff.mpr once, by simp⟩
    exact ⟨once, by simp only [labelFault?, noneRepeated, astray?]⟩

/-- The check passes if no label is defined twice and no jump goes astray. -/
theorem labelFault?_eq_none_iff :
    code.labelFault? = none ↔ (∀ id, ¬ code.DefinesTwice id) ∧ ∀ id, ¬ code.JumpsAstray id := by
  rcases labelFault?_cases code with ⟨⟨twice, defined⟩, id, found⟩ | ⟨once, found⟩
  · rw [found]
    exact iff_of_false nofun fun ⟨once, _⟩ => once twice defined
  · rw [found, Option.map_eq_none_iff, astray?_eq_none_iff]
    exact ⟨fun none => ⟨once, none⟩, And.right⟩

/-- The check complains about a duplicate whenever a label is defined twice. -/
theorem exists_duplicateLabel_iff :
    (∃ id, code.labelFault? = some (.duplicateLabel id)) ↔ ∃ id, code.DefinesTwice id := by
  rcases labelFault?_cases code with ⟨twice, found⟩ | ⟨once, found⟩
  · exact iff_of_true found twice
  · rw [found]
    refine iff_of_false ?_ (not_exists.mpr once)
    rintro ⟨id, duplicate⟩
    obtain ⟨_, _, unknown⟩ := Option.map_eq_some_iff.mp duplicate
    cases unknown

/-- If there is no duplicate, it complains about the first jump that goes astray. -/
theorem labelFault?_eq_unknownLabel_iff (once : ∀ id, ¬ code.DefinesTwice id) :
    code.labelFault? = some (.unknownLabel id) ↔ code.FirstAstray id := by
  rcases labelFault?_cases code with ⟨⟨twice, defined⟩, _⟩ | ⟨_, found⟩
  · exact absurd defined (once twice)
  · rw [found, Option.map_eq_some_iff, ← astray?_eq_some_iff]
    constructor
    · rintro ⟨other, astray, same⟩
      cases same
      exact astray
    · intro astray
      exact ⟨id, astray, rfl⟩

/-! ### Runs of checked code -/

/-- Code that fails the check executes nothing, whatever the limit. -/
theorem run_of_labelFault? {fault : MachineFault} (found : code.labelFault? = some fault)
    (limit : Nat) : code.run limit = .error fault ∧ code.visited limit = [] := by
  simp only [run, visited, found, and_self]

/-- A run fails for a label if the check does, and for no other reason. -/
theorem run_eq_error_iff {fault : MachineFault} (label : fault.concern = .labels) (limit : Nat) :
    code.run limit = .error fault ↔ code.labelFault? = some fault := by
  constructor
  · intro failed
    cases checked : code.labelFault? with
    | some found =>
        rw [(run_of_labelFault? checked limit).1] at failed
        cases failed
        rfl
    | none =>
        simp only [run, checked] at failed
        rcases runFrom_cases limit (.initial checked) with
          ⟨last, _, _, ended⟩ | ⟨last, instr, _, _, current, stepFailed, ended⟩ | ended
        · rw [ended] at failed
          cases failed
        · rw [ended] at failed
          cases failed
          rcases step_eq_error stepFailed with operands | ⟨id, jumps, unknown, rfl⟩
          · rw [label] at operands
            cases operands
          · -- The label of the failed jump is defined nowhere, which the check would have found.
            have astray : code.JumpsAstray id :=
              ⟨instr, List.mem_of_getElem? current, jumps, target?_eq_none_iff.mp unknown⟩
            exact absurd astray ((labelFault?_eq_none_iff.mp checked).2 id)
        · rw [ended] at failed
          cases failed
          cases label
  · intro found
    exact (run_of_labelFault? found limit).1

end Code

/-- With the given stack the instruction jumps to a label: always, or because the topmost value is
as expected. -/
inductive Instr.Jumps : Instr Nat → Stack Value → Nat → Prop where
  | always {id : Nat} {stack : Stack Value} : Jumps (.jump id) stack id
  | met {expected : Bool} {id : Nat} {condition : Value} {below : List Value}
      (asExpected : condition.isTruthy = expected) :
        Jumps (.popJumpIf expected id) ⟨condition :: below⟩ id

theorem Instr.Jumps.jump?_eq {instr : Instr Nat} {stack : Stack Value} {id : Nat}
    (jumps : instr.Jumps stack id) : instr.jump? = some id := by
  cases jumps <;> rfl

namespace Code

variable {code : Code} {id : Nat}

/-- In checked code a jump goes on at the one place where its label is defined. -/
theorem exists_place_of_jumps (checked : code.labelFault? = none) {s : State} {instr : Instr Nat}
    (current : code.instrs[s.next]? = some instr) (jumps : instr.Jumps s.stack id) :
    ∃ after, code.step instr s = .ok after ∧ code.instrs[after.next]? = some (.label id) ∧
      ∀ j, code.instrs[j]? = some (.label id) → j = after.next := by
  obtain ⟨once, noneAstray⟩ := labelFault?_eq_none_iff.mp checked
  have defined : .label id ∈ code.instrs := by
    apply Decidable.byContradiction
    intro undefined
    exact noneAstray id ⟨instr, List.mem_of_getElem? current, jumps.jump?_eq, undefined⟩
  obtain ⟨place, placed⟩ := List.mem_iff_getElem?.mp defined
  have found := target?_of_once (once id) placed
  have stepped : ∃ below, code.step instr s = .ok ⟨place, below⟩ := by
    obtain ⟨next, stack⟩ := s
    cases jumps with
    | always => exact ⟨stack, step_eq_ok_iff.mpr (.jump found)⟩
    | met asExpected => exact ⟨_, step_eq_ok_iff.mpr (.jumpIf asExpected found)⟩
  obtain ⟨below, stepped⟩ := stepped
  refine ⟨_, stepped, placed, ?_⟩
  intro j placed'
  have found' := target?_of_once (once id) placed'
  rw [found, Option.some.injEq] at found'
  exact found'.symm

/-- A run under a limit fails with the given message. -/
def FailsWith (code : Code) (limit : Nat) (message : String) : Prop :=
  ∃ fault, code.run limit = .error fault ∧ fault.message = message

/-- A run fails with the message about a duplicate if the check found that duplicate. -/
theorem failsWith_duplicate_iff {limit : Nat} :
    code.FailsWith limit ("Label L" ++ toString id ++ " is defined more than once.") ↔
      code.labelFault? = some (.duplicateLabel id) := by
  rw [← run_eq_error_iff rfl limit]
  constructor
  · rintro ⟨fault, failed, message⟩
    rwa [MachineFault.message_eq_duplicate_iff.mp message] at failed
  · intro failed
    exact ⟨_, failed, rfl⟩

/-- A run fails with the message about an unknown label if the check found that label. -/
theorem failsWith_unknown_iff {limit : Nat} :
    code.FailsWith limit ("Jump to the unknown label L" ++ toString id ++ ".") ↔
      code.labelFault? = some (.unknownLabel id) := by
  rw [← run_eq_error_iff rfl limit]
  constructor
  · rintro ⟨fault, failed, message⟩
    rwa [MachineFault.message_eq_unknown_iff.mp message] at failed
  · intro failed
    exact ⟨_, failed, rfl⟩

/-- Labels are decided before anything is executed. Whatever its limit, a run fails because a label
is defined twice if there is such a label. Otherwise it fails because a label is unknown if a jump
names an undefined one, and the message is about the first such jump in the code. In both cases no
instruction is executed. In all other code no run fails for a label, and an instruction that jumps
goes on at the one place where its label is defined. -/
theorem run_checks_labels (code : Code) :
    (∀ limit,
      (∃ id : Nat, code.FailsWith limit
        ("Label L" ++ toString id ++ " is defined more than once.")) ↔
        ∃ id, code.DefinesTwice id) ∧
      ((∀ id, ¬ code.DefinesTwice id) → ∀ limit,
        ((∃ id : Nat, code.FailsWith limit ("Jump to the unknown label L" ++ toString id ++ ".")) ↔
          ∃ id, code.JumpsAstray id) ∧
        ∀ id : Nat, code.FailsWith limit ("Jump to the unknown label L" ++ toString id ++ ".") ↔
          code.FirstAstray id) ∧
      ((∃ id, code.DefinesTwice id) ∨ (∃ id, code.JumpsAstray id) →
        ∀ limit, code.visited limit = []) ∧
      ((∀ id, ¬ code.DefinesTwice id) → (∀ id, ¬ code.JumpsAstray id) →
        (∀ limit (id : Nat),
          ¬ code.FailsWith limit ("Label L" ++ toString id ++ " is defined more than once.") ∧
          ¬ code.FailsWith limit ("Jump to the unknown label L" ++ toString id ++ ".")) ∧
        ∀ s instr id, code.instrs[s.next]? = some instr → instr.Jumps s.stack id →
          ∃ after, code.step instr s = .ok after ∧ code.instrs[after.next]? = some (.label id) ∧
            ∀ j, code.instrs[j]? = some (.label id) → j = after.next) := by
  refine ⟨?_, ?_, ?_, ?_⟩
  · intro limit
    simp only [failsWith_duplicate_iff]
    exact exists_duplicateLabel_iff
  · intro once limit
    simp only [failsWith_unknown_iff, labelFault?_eq_unknownLabel_iff once, implies_true, and_true]
    exact exists_firstAstray_iff
  · intro faulty limit
    cases checked : code.labelFault? with
    | some fault => exact (run_of_labelFault? checked limit).2
    | none =>
        obtain ⟨once, noneAstray⟩ := labelFault?_eq_none_iff.mp checked
        rcases faulty with ⟨id, twice⟩ | ⟨id, astray⟩
        · exact absurd twice (once id)
        · exact absurd astray (noneAstray id)
  · intro once noneAstray
    have checked := labelFault?_eq_none_iff.mpr ⟨once, noneAstray⟩
    refine ⟨?_, fun s instr id => exists_place_of_jumps checked⟩
    intro limit id
    rw [failsWith_duplicate_iff, failsWith_unknown_iff, checked]
    exact ⟨nofun, nofun⟩

/-- Code whose first jump passes over two others, both of which name labels that are defined
nowhere. -/
def passedOver : Code :=
  ⟨[.jump 1, .popJumpIf false 4, .jump 3, .label 1], [], [⟨1, 4⟩]⟩

/-- No run comes to the jumps that are passed over, but each run fails for the first of them before
it begins. The loop of the countdown goes back to its label for as long as something is left. -/
theorem run_checks_labels_samples :
    ((∀ id, ¬ passedOver.DefinesTwice id) ∧ passedOver.FirstAstray 4 ∧
      passedOver.FailsWith 10 ("Jump to the unknown label L" ++ toString 4 ++ ".") ∧
        passedOver.visited 10 = []) ∧
      (∀ id, ¬ countdown.DefinesTwice id) ∧ (∀ id, ¬ countdown.JumpsAstray id) ∧
      ∃ after, countdown.step (.popJumpIf true 0) ⟨5, ⟨[.float 2.5, .float 2.5]⟩⟩ = .ok after ∧
        countdown.instrs[after.next]? = some (.label 0) := by
  refine ⟨?_, ?_⟩
  · have once : ∀ id, ¬ passedOver.DefinesTwice id := nodup_labels_iff.mp (by decide)
    have first : passedOver.FirstAstray 4 := astray?_eq_some_iff.mp (by decide)
    obtain ⟨_, unknown, noneExecuted, _⟩ := run_checks_labels passedOver
    exact ⟨once, first, ((unknown once 10).2 4).mpr first,
      noneExecuted (.inr (exists_firstAstray_iff.mp ⟨4, first⟩)) 10⟩
  · obtain ⟨once, noneAstray⟩ :=
      labelFault?_eq_none_iff.mp (show countdown.labelFault? = none by decide)
    obtain ⟨_, _, _, inOrder⟩ := run_checks_labels countdown
    obtain ⟨after, stepped, placed, _⟩ :=
      (inOrder once noneAstray).2 ⟨5, ⟨[.float 2.5, .float 2.5]⟩⟩ (.popJumpIf true 0) 0 rfl
        (.met (by decide +kernel))
    exact ⟨once, noneAstray, after, stepped, placed⟩

end Code

end Reckon
