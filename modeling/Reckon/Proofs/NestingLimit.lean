/-
Module: Reckon.Proofs.NestingLimit
Purpose: What the limit on nesting does. Beside each reader stands the list of the tokens with which
  it opens groups and branches, in the order in which it opens them, each with its level. A reader
  with a limit gives what a reader with more room gives, cut off at the first opener beyond the
  limit. No opener has a level above the number of tokens, so with that much room nothing is ever
  cut off.
Main exports: Opener, Reading, Reading.within, Reading.unlimited, OpenedIn, Logged,
  Reading.logs_within, CutAt, Reading.cutsOn_within, Reading.unlimited_eq_outermost,
  Reading.cutsOn_unlimited, parseExpression_of_unlimited
-/
import Reckon.Proofs.ReaderSoundness

namespace Reckon.Grammar

/-! ### Openers -/

/-- A token that opens a group or a branch, and its level: one more than the number of groups and
branches that it stands in. -/
structure Opener where
  token : Token
  level : Nat
deriving DecidableEq, Repr, Inhabited

namespace Opener

/-- The same opener, seen from one level further out. -/
def deeper (opener : Opener) : Opener :=
  ⟨opener.token, opener.level + 1⟩

/-- The refusal of an opener that is nested too deep. -/
def refusal (opener : Opener) : Diagnostic :=
  ⟨if opener.token.kind = .question then .deepConditionals else .deepParentheses, opener.token.span⟩

end Opener

/-! ### Readers and the openers they meet -/

/-- The openers that are met behind what was read. Behind a refusal there are none. -/
def behind (result : Except Diagnostic (Expr × List Token)) (openers : List Token → List Opener) :
    List Opener :=
  match result with
  | .ok (_, rest) => openers rest
  | .error _ => []

@[simp] theorem behind_nil (result : Except Diagnostic (Expr × List Token)) :
    behind result (fun _ => []) = [] := by
  cases result <;> rfl

/-- A reader, and the openers that it meets in the tokens, in order. -/
@[ext]
structure Reading where
  read : Parse
  opens : List Token → List Opener

namespace Reading

/-- The reader of groups and branches, if they may nest at all. -/
def nestedRead (nested : Option Reading) : Option Parse :=
  nested.map Reading.read

/-- The openers inside a group or branch. -/
def opensInside (nested : Option Reading) (inside : List Token) : List Opener :=
  match nested with
  | none => []
  | some nested => (nested.opens inside).map Opener.deeper

/-- A group is opened by its parenthesis, which is met even if it is refused. -/
def primary (nested : Option Reading) : Reading where
  read := Grammar.primary (nestedRead nested)
  opens tokens :=
    match take? .leftParen tokens with
    | none => []
    | some (paren, inside) => ⟨paren, 1⟩ :: opensInside nested inside

/-- A sign opens nothing. -/
def signed (nested : Option Reading) : Reading where
  read := Grammar.signed (nestedRead nested)
  opens tokens :=
    match take? .plus tokens, take? .minus tokens with
    | some (_, rest), _ => (primary nested).opens rest
    | none, some (_, rest) =>
      match takeLeast? rest with
      | some _ => []
      | none => (primary nested).opens rest
    | none, none => (primary nested).opens tokens

/-- The openers in the rounds of a chain. -/
def chainOpens (level : Level) (operand : Reading) : (rounds : Nat) → List Token → List Opener
  | 0, _ => []
  | rounds + 1, tokens =>
    match level.joint? tokens with
    | none => []
    | some (_, rest) =>
        operand.opens rest ++ behind (operand.read rest) (chainOpens level operand rounds)

/-- The openers of the first operand come before those of the rounds behind it. -/
def chain (level : Level) (operand : Reading) : Reading where
  read := Grammar.chain level operand.read
  opens tokens :=
    operand.opens tokens ++
      behind (operand.read tokens) fun rest => chainOpens level operand rest.length rest

/-- Chains of all levels. -/
def chains (operand : Reading) : Reading :=
  Level.table.foldr chain operand

/-- The openers in the rounds of a row of conditionals. The alternative of a conditional stands in
the branch that its question mark opens. -/
def conditionalsOpens (nested : Option Reading) : (rounds : Nat) → List Token → List Opener
  | 0, _ => []
  | rounds + 1, tokens =>
    match take? .question tokens with
    | none => []
    | some (question, rest) =>
      ⟨question, 1⟩ :: (opensInside nested rest ++
        match nested with
        | none => []
        | some branch => behind (branch.read rest) fun rest =>
          match take? .colon rest with
          | none => conditionalsOpens nested rounds rest
          | some (_, rest) =>
            opensInside nested rest ++ behind (branch.read rest) (conditionalsOpens nested rounds))

/-- The openers of a condition come before those of its branches. -/
def outermost (nested : Option Reading) : Reading where
  read := Grammar.outermost (nestedRead nested)
  opens tokens :=
    (chains (signed nested)).opens tokens ++
      behind ((chains (signed nested)).read tokens) fun rest =>
        conditionalsOpens nested rest.length rest

/-- Expressions in which groups and branches nest at most `room` deep. An opener beyond that is met
and refused. -/
def within : (room : Nat) → Reading
  | 0 => outermost none
  | room + 1 => outermost (some (within room))

/-- A reading with its openers reads what the reader without them reads. -/
theorem read_within (room : Nat) : (within room).read = expression room := by
  induction room with
  | zero => rfl
  | succ room inductionHypothesis =>
      rw [within, outermost, nestedRead, Option.map_some, inductionHypothesis]
      rfl

/-- Expressions with room for as many levels as there are tokens, which is more than they can
nest. -/
def unlimited : Reading where
  read tokens := expression tokens.length tokens
  opens tokens := (within tokens.length).opens tokens

end Reading

/-! ### Openers in the order of the tokens -/

/-- Openers among some tokens: they are parentheses and question marks, in the order of the tokens,
and their levels are not above the number of these. -/
structure OpenedIn (tokens : List Token) (openers : List Opener) : Prop where
  ordered : (openers.map Opener.token).Sublist tokens
  kinds : ∀ opener ∈ openers, opener.token.kind = .leftParen ∨ opener.token.kind = .question
  levels : ∀ opener ∈ openers, opener.level ≤ tokens.length

namespace OpenedIn

theorem nil (tokens : List Token) : OpenedIn tokens [] :=
  ⟨List.nil_sublist tokens, by simp, by simp⟩

/-- Openers among some tokens are openers among more. -/
theorem widen {tokens more : List Token} {openers : List Opener} (opened : OpenedIn tokens openers)
    (sublist : tokens.Sublist more) : OpenedIn more openers where
  ordered := opened.ordered.trans sublist
  kinds := opened.kinds
  levels opener member := Nat.le_trans (opened.levels opener member) sublist.length_le

/-- Openers in two parts are openers in the whole, in order. -/
theorem append {tokens rest : List Token} {openers others : List Opener}
    (first : OpenedIn tokens openers) (second : OpenedIn rest others) :
    OpenedIn (tokens ++ rest) (openers ++ others) := by
  have widenFirst := first.widen (List.sublist_append_left tokens rest)
  have widenSecond := second.widen (List.sublist_append_right tokens rest)
  constructor
  case ordered =>
    rw [List.map_append]
    exact first.ordered.append second.ordered
  case kinds => exact List.forall_mem_append.mpr ⟨first.kinds, second.kinds⟩
  case levels => exact List.forall_mem_append.mpr ⟨widenFirst.levels, widenSecond.levels⟩

/-- Openers in a group or branch, behind the token that opens it or parts it. -/
theorem deeper {inside : List Token} {openers : List Opener} (opened : OpenedIn inside openers)
    (token : Token) : OpenedIn (token :: inside) (openers.map Opener.deeper) := by
  constructor
  case ordered =>
    rw [List.map_map]
    exact opened.ordered.cons token
  case kinds =>
    intro opener member
    obtain ⟨inner, innerMember, rfl⟩ := List.mem_map.mp member
    exact opened.kinds inner innerMember
  case levels =>
    intro opener member
    obtain ⟨inner, innerMember, rfl⟩ := List.mem_map.mp member
    exact Nat.succ_le_succ (opened.levels inner innerMember)

/-- A token opens a group or branch, in which further ones are opened. -/
theorem enter {token : Token} {inside : List Token} {openers : List Opener}
    (opened : OpenedIn inside openers) (opens : token.kind = .leftParen ∨ token.kind = .question) :
    OpenedIn (token :: inside) (⟨token, 1⟩ :: openers.map Opener.deeper) := by
  have further := opened.deeper token
  constructor
  case ordered =>
    rw [List.map_cons, List.map_map]
    exact opened.ordered.cons_cons token
  case kinds => exact List.forall_mem_cons.mpr ⟨opens, further.kinds⟩
  case levels => exact List.forall_mem_cons.mpr ⟨Nat.succ_le_succ (Nat.zero_le _), further.levels⟩

end OpenedIn

/-- The openers that a reader met stand among the tokens it took, or among all of them if it
refused. -/
inductive Logged (tokens : List Token) (openers : List Opener) :
    Except Diagnostic (Expr × List Token) → Prop where
  | took {taken rest : List Token} {e : Expr} (parts : tokens = taken ++ rest)
      (opened : OpenedIn taken openers) :
      Logged tokens openers (.ok (e, rest))
  | refused {diagnostic : Diagnostic} (opened : OpenedIn tokens openers) :
      Logged tokens openers (.error diagnostic)

namespace Logged

variable {tokens : List Token} {openers : List Opener}
  {result : Except Diagnostic (Expr × List Token)}

/-- What is logged are openers among the tokens, in order. -/
theorem opened (logged : Logged tokens openers result) : OpenedIn tokens openers := by
  cases logged with
  | @took taken rest _ parts opened =>
      subst parts
      exact opened.widen (List.sublist_append_left taken rest)
  | refused opened => exact opened

theorem nothing (tokens : List Token) (e : Expr) : Logged tokens [] (.ok (e, tokens)) :=
  .took (List.nil_append tokens).symm (.nil [])

/-- What is read behind a token, given what the token does to the openers behind it. -/
theorem behindToken {token : Token} {others : List Opener} (logged : Logged tokens openers result)
    (step : ∀ taken, OpenedIn taken openers → OpenedIn (token :: taken) others) :
    Logged (token :: tokens) others result := by
  cases logged with
  | @took taken _ _ parts opened =>
      subst parts
      exact .took rfl (step taken opened)
  | refused opened => exact .refused (step tokens opened)

/-- What is logged in a part comes behind the openers of the tokens before it. -/
theorem append {taken : List Token} {earlier : List Opener} (before : OpenedIn taken earlier)
    (logged : Logged tokens openers result) :
    Logged (taken ++ tokens) (earlier ++ openers) result := by
  cases logged with
  | @took more rest _ parts opened =>
      subst parts
      exact .took (List.append_assoc taken more rest).symm (before.append opened)
  | refused opened => exact .refused (before.append opened)

theorem prepend (logged : Logged tokens openers result) (taken : List Token) :
    Logged (taken ++ tokens) openers result :=
  append (.nil taken) logged

theorem cons (logged : Logged tokens openers result) (token : Token) :
    Logged (token :: tokens) openers result :=
  logged.prepend [token]

/-- One reader after the other. -/
theorem bind {others : List Token → List Opener}
    {continued : Expr × List Token → Except Diagnostic (Expr × List Token)}
    (logged : Logged tokens openers result)
    (next : ∀ e rest, Logged rest (others rest) (continued (e, rest))) :
    Logged tokens (openers ++ behind result others) (result >>= continued) := by
  cases logged with
  | @took taken rest e parts opened =>
      subst parts
      exact append opened (next e rest)
  | refused opened =>
      rw [error_bind, behind, List.append_nil]
      exact .refused opened

/-- A reader and a last step that meets no further openers. -/
theorem bind_nil {continued : Expr × List Token → Except Diagnostic (Expr × List Token)}
    (logged : Logged tokens openers result)
    (next : ∀ e rest, Logged rest [] (continued (e, rest))) :
    Logged tokens openers (result >>= continued) := by
  have joined := logged.bind next
  rwa [behind_nil, List.append_nil] at joined

end Logged

namespace Reading

/-- A reader whose log is right on all tokens. -/
def Logs (reading : Reading) : Prop :=
  ∀ tokens, Logged tokens (reading.opens tokens) (reading.read tokens)

/-- A reading leaves no more tokens than there are. -/
theorem Logs.length_le {reading : Reading} (logs : Logs reading) {tokens rest : List Token}
    {e : Expr} (read : reading.read tokens = .ok (e, rest)) : rest.length ≤ tokens.length := by
  have logged := logs tokens
  rw [read] at logged
  cases logged with
  | took parts _ =>
      rw [parts, List.length_append]
      exact Nat.le_add_left rest.length _

/-- A literal opens nothing. -/
theorem logged_leaf (tokens : List Token) : Logged tokens [] (leaf tokens) := by
  unfold leaf
  dsimp only
  split
  · next reads =>
      cases tokens with
      | nil => cases reads
      | cons token rest => exact (Logged.nothing rest _).cons token
  · exact .refused (.nil tokens)

section Nested

variable {nested : Option Reading}

/-- A group logs its parenthesis and what is opened inside. -/
theorem logs_primary (nestedLogs : ∀ reading ∈ nested, Logs reading) : Logs (primary nested) := by
  intro tokens
  cases opened : take? .leftParen tokens with
  | none =>
      simp only [primary, Grammar.primary, opened]
      exact logged_leaf tokens
  | some found =>
      obtain ⟨rfl, opens⟩ := take?_eq_some opened
      simp only [primary, Grammar.primary, opened]
      cases nested with
      | none => exact .refused ((OpenedIn.nil found.2).enter (.inl opens))
      | some reading =>
          have entered := (nestedLogs reading rfl found.2).behindToken fun _ inside =>
            inside.enter (.inl opens)
          refine entered.bind_nil ?_
          intro e rest
          cases closed : take? .rightParen rest with
          | none =>
              dsimp only
              exact .refused (.nil rest)
          | some close =>
              obtain ⟨rfl, _⟩ := take?_eq_some closed
              dsimp only
              exact (Logged.nothing close.2 e).cons close.1

/-- A sign logs what its operand does. -/
theorem logs_signed (nestedLogs : ∀ reading ∈ nested, Logs reading) : Logs (signed nested) := by
  have primaryLogs := logs_primary nestedLogs
  -- The operand behind a sign.
  have operandLogged : ∀ (build : Expr → Expr) (sign : Token) (rest : List Token),
      Logged (sign :: rest) ((primary nested).opens rest)
        ((primary nested).read rest >>= fun operand => .ok (build operand.1, operand.2)) := by
    intro build sign rest
    refine ((primaryLogs rest).bind_nil ?_).cons sign
    intro e behind
    exact .nothing behind (build e)
  intro tokens
  cases plus : take? .plus tokens with
  | some found =>
      obtain ⟨rfl, _⟩ := take?_eq_some plus
      simp only [signed, Grammar.signed, plus]
      exact operandLogged _ found.1 found.2
  | none =>
      cases minus : take? .minus tokens with
      | none =>
          simp only [signed, Grammar.signed, plus, minus]
          exact primaryLogs tokens
      | some found =>
          obtain ⟨rfl, _⟩ := take?_eq_some minus
          simp only [signed, Grammar.signed, plus, minus]
          cases least : takeLeast? found.2 with
          | none => exact operandLogged _ found.1 found.2
          | some number =>
              simp only [takeLeast?_eq_some least]
              exact ((Logged.nothing number.2 _).cons number.1).cons found.1

end Nested

section Chains

variable {level : Level} {operand : Reading}

/-- A chain logs what its operands do, one after another. -/
theorem logged_chainFrom (operandLogs : Logs operand) (rounds : Nat) (left : Expr)
    (tokens : List Token) :
    Logged tokens (chainOpens level operand rounds tokens)
      (chainFrom level operand.read rounds left tokens) := by
  induction rounds generalizing left tokens with
  | zero => exact .nothing tokens left
  | succ rounds inductionHypothesis =>
      cases head : level.joint? tokens with
      | none =>
          simp only [chainOpens, chainFrom, head]
          exact .nothing tokens left
      | some found =>
          obtain ⟨opTokens, rfl, _⟩ := operator_of_joint? head
          simp only [chainOpens, chainFrom, head]
          refine Logged.prepend ((operandLogs found.2).bind ?_) opTokens
          intro right behind
          exact inductionHypothesis (found.1.build left right) behind

theorem logs_chain (operandLogs : Logs operand) : Logs (chain level operand) :=
  fun tokens => (operandLogs tokens).bind fun left rest =>
    logged_chainFrom operandLogs rest.length left rest

/-- Chains of several levels log what their operands do. -/
theorem logs_foldr_chain (operandLogs : Logs operand) (levels : List Level) :
    Logs (levels.foldr chain operand) := by
  induction levels with
  | nil => exact operandLogs
  | cons level levels inductionHypothesis => exact logs_chain inductionHypothesis

end Chains

section Whole

variable {nested : Option Reading}

/-- A conditional logs its question mark and what is opened in its branches. -/
theorem logged_conditionalsFrom (nestedLogs : ∀ reading ∈ nested, Logs reading) (rounds : Nat)
    (cond : Expr) (tokens : List Token) :
    Logged tokens (conditionalsOpens nested rounds tokens)
      (conditionalsFrom (nestedRead nested) rounds cond tokens) := by
  induction rounds generalizing cond tokens with
  | zero => exact .nothing tokens cond
  | succ rounds inductionHypothesis =>
      cases asked : take? .question tokens with
      | none =>
          simp only [conditionalsOpens, conditionalsFrom, asked]
          exact .nothing tokens cond
      | some question =>
          obtain ⟨rfl, asks⟩ := take?_eq_some asked
          simp only [conditionalsOpens, conditionalsFrom, asked]
          cases nested with
          | none => exact .refused ((OpenedIn.nil question.2).enter (.inr asks))
          | some branch =>
              have branchLogs := nestedLogs branch rfl
              have entered := (branchLogs question.2).behindToken fun _ opened =>
                opened.enter (.inr asks)
              refine entered.bind ?_
              intro ifTrue rest
              cases parted : take? .colon rest with
              | none =>
                  dsimp only
                  exact inductionHypothesis (.guarded cond ifTrue) rest
              | some colon =>
                  obtain ⟨rfl, _⟩ := take?_eq_some parted
                  dsimp only
                  refine ((branchLogs colon.2).behindToken fun _ opened =>
                    opened.deeper colon.1).bind ?_
                  intro ifFalse rest
                  exact inductionHypothesis (.conditional cond ifTrue ifFalse) rest

theorem logs_outermost (nestedLogs : ∀ reading ∈ nested, Logs reading) : Logs (outermost nested) :=
  fun tokens => (logs_foldr_chain (logs_signed nestedLogs) Level.table tokens).bind fun cond rest =>
    logged_conditionalsFrom nestedLogs rest.length cond rest

/-- Expressions of any depth log their openers. -/
theorem logs_within (room : Nat) : Logs (within room) := by
  induction room with
  | zero =>
      apply logs_outermost
      intro reading member
      cases member
  | succ room inductionHypothesis =>
      apply logs_outermost
      intro reading member
      cases member
      exact inductionHypothesis

end Whole

end Reading

/-! ### Cutting off at the limit -/

/-- A parenthesis that is too deep is refused as a parenthesis. -/
theorem Opener.refusal_of_leftParen {opener : Opener} (kind : opener.token.kind = .leftParen) :
    opener.refusal = ⟨.deepParentheses, opener.token.span⟩ := by
  rw [refusal, kind, if_neg (by decide)]

/-- A question mark that is too deep is refused as a conditional. -/
theorem Opener.refusal_of_question {opener : Opener} (kind : opener.token.kind = .question) :
    opener.refusal = ⟨.deepConditionals, opener.token.span⟩ := by
  rw [refusal, if_pos kind]

/-- What a reader with a limit meets and gives (the first two), compared with one that has more
room: the same if all openers are within the limit, and otherwise the refusal of the first that is
not. -/
inductive CutAt (limit : Nat) : List Opener → Except Diagnostic (Expr × List Token) →
    List Opener → Except Diagnostic (Expr × List Token) → Prop where
  | same {openers : List Opener} {result : Except Diagnostic (Expr × List Token)}
      (shallow : ∀ opener ∈ openers, opener.level ≤ limit) :
        CutAt limit openers result openers result
  | cut {before after : List Opener} {opener : Opener}
      {result : Except Diagnostic (Expr × List Token)}
      (shallow : ∀ earlier ∈ before, earlier.level ≤ limit) (deep : limit < opener.level) :
      CutAt limit (before ++ [opener]) (.error opener.refusal) (before ++ opener :: after) result

namespace CutAt

variable {limit : Nat} {kept openers : List Opener}
  {given result : Except Diagnostic (Expr × List Token)}

/-- Where nothing is opened, nothing is cut off. -/
theorem nothing (limit : Nat) (result : Except Diagnostic (Expr × List Token)) :
    CutAt limit [] result [] result :=
  .same (by simp)

/-- The first opener is refused where nothing may nest. -/
theorem refused {opener : Opener} {after : List Opener} (deep : limit < opener.level) :
    CutAt limit [opener] (.error opener.refusal) (opener :: after) result :=
  @cut limit [] after opener result (by simp) deep

/-- If no opener is beyond the limit, nothing is cut off. -/
theorem eq_of_shallow (cut : CutAt limit kept given openers result)
    (shallow : ∀ opener ∈ openers, opener.level ≤ limit) : kept = openers ∧ given = result := by
  cases cut with
  | same _ => exact ⟨rfl, rfl⟩
  | cut _ deep => exact absurd (shallow _ (by simp)) (Nat.not_le.mpr deep)

theorem deeper (cut : CutAt limit kept given openers result) :
    CutAt (limit + 1) (kept.map Opener.deeper) given (openers.map Opener.deeper) result := by
  have further : ∀ openers : List Opener, (∀ opener ∈ openers, opener.level ≤ limit) →
      ∀ opener ∈ openers.map Opener.deeper, opener.level ≤ limit + 1 := by
    intro openers shallow opener member
    obtain ⟨inner, innerMember, rfl⟩ := List.mem_map.mp member
    exact Nat.succ_le_succ (shallow inner innerMember)
  cases cut with
  | same shallow => exact .same (further _ shallow)
  | @cut before after opener _ shallow deep =>
      rw [List.map_append, List.map_append, List.map_cons]
      exact @cut _ _ _ opener.deeper _ (further _ shallow) (Nat.succ_lt_succ deep)

/-- Shallow openers before the cut stay before it. -/
theorem append {earlier : List Opener} (shallow : ∀ opener ∈ earlier, opener.level ≤ limit)
    (cut : CutAt limit kept given openers result) :
    CutAt limit (earlier ++ kept) given (earlier ++ openers) result := by
  have both : ∀ later : List Opener, (∀ opener ∈ later, opener.level ≤ limit) →
      ∀ opener ∈ earlier ++ later, opener.level ≤ limit :=
    fun later laterShallow => List.forall_mem_append.mpr ⟨shallow, laterShallow⟩
  cases cut with
  | same later => exact .same (both _ later)
  | cut later deep =>
      rw [← List.append_assoc, ← List.append_assoc]
      exact .cut (both _ later) deep

/-- A token opens a group or branch, in which further ones are opened. -/
theorem enter (cut : CutAt limit kept given openers result) (token : Token) :
    CutAt (limit + 1) (⟨token, 1⟩ :: kept.map Opener.deeper) given
      (⟨token, 1⟩ :: openers.map Opener.deeper) result := by
  have shallow : ∀ opener ∈ [(⟨token, 1⟩ : Opener)], opener.level ≤ limit + 1 := by simp
  exact append shallow cut.deeper

/-- One reader after the other. -/
theorem bind {keptOthers others : List Token → List Opener}
    {givenNext continued : Expr × List Token → Except Diagnostic (Expr × List Token)}
    (cut : CutAt limit kept given openers result)
    (next : ∀ e rest, result = .ok (e, rest) →
      CutAt limit (keptOthers rest) (givenNext (e, rest)) (others rest) (continued (e, rest))) :
    CutAt limit (kept ++ behind given keptOthers) (given >>= givenNext)
      (openers ++ behind result others) (result >>= continued) := by
  cases cut with
  | same shallow =>
      cases given with
      | error diagnostic => exact append shallow (nothing limit (.error diagnostic))
      | ok read => exact append shallow (next read.1 read.2 rfl)
  | cut shallow deep =>
      rw [error_bind, behind, List.append_nil, List.append_assoc, List.cons_append]
      exact .cut shallow deep

/-- A reader and a last step that meets no further openers. -/
theorem bind_nil {continued : Expr × List Token → Except Diagnostic (Expr × List Token)}
    (cut : CutAt limit kept given openers result) :
    CutAt limit kept (given >>= continued) openers (result >>= continued) := by
  have joined := cut.bind fun e rest _ => nothing limit (continued (e, rest))
  rwa [behind_nil, behind_nil, List.append_nil, List.append_nil] at joined

end CutAt

namespace Reading

/-- On these tokens, a reading gives what another with more room gives, cut off at the limit. -/
def CutsOn (limit : Nat) (less more : Reading) (tokens : List Token) : Prop :=
  CutAt limit (less.opens tokens) (less.read tokens) (more.opens tokens) (more.read tokens)

/-- The readings of groups and branches compared, on all lists that are shorter than a bound. Where
nothing may nest in one of them, it does not matter what may in the other. -/
inductive NestedCuts (bound : Nat) : (limit : Nat) → Option Reading → Option Reading → Prop where
  | closed {more : Option Reading} : NestedCuts bound 0 none more
  | opened {limit : Nat} {less more : Reading}
      (inner : ∀ tokens, tokens.length < bound → CutsOn limit less more tokens) :
      NestedCuts bound (limit + 1) (some less) (some more)

section Nested

variable {bound limit : Nat} {less more : Option Reading}

/-- A group is cut off where its inside is, with one level less. -/
theorem cutsOn_primary (nestedCuts : NestedCuts bound limit less more) {tokens : List Token}
    (short : tokens.length ≤ bound) : CutsOn limit (primary less) (primary more) tokens := by
  unfold CutsOn
  cases opened : take? .leftParen tokens with
  | none =>
      simp only [primary, Grammar.primary, opened]
      exact .nothing limit (leaf tokens)
  | some found =>
      obtain ⟨rfl, opens⟩ := take?_eq_some opened
      simp only [primary, Grammar.primary, opened]
      cases nestedCuts with
      | closed =>
          have refused := @Opener.refusal_of_leftParen ⟨found.1, 1⟩ opens
          dsimp only [nestedRead, Option.map_none]
          rw [← refused]
          exact .refused Nat.zero_lt_one
      | opened inner =>
          exact ((inner found.2 short).enter found.1).bind_nil

/-- A sign is cut off where its operand is. -/
theorem cutsOn_signed (nestedCuts : NestedCuts bound limit less more) {tokens : List Token}
    (short : tokens.length ≤ bound) : CutsOn limit (signed less) (signed more) tokens := by
  unfold CutsOn
  cases plus : take? .plus tokens with
  | some found =>
      obtain ⟨rfl, _⟩ := take?_eq_some plus
      simp only [signed, Grammar.signed, plus]
      exact (cutsOn_primary nestedCuts (Nat.le_of_succ_le short)).bind_nil
  | none =>
      cases minus : take? .minus tokens with
      | none =>
          simp only [signed, Grammar.signed, plus, minus]
          exact cutsOn_primary nestedCuts short
      | some found =>
          obtain ⟨rfl, _⟩ := take?_eq_some minus
          simp only [signed, Grammar.signed, plus, minus]
          cases takeLeast? found.2 with
          | none => exact (cutsOn_primary nestedCuts (Nat.le_of_succ_le short)).bind_nil
          | some number => exact .nothing limit _

end Nested

section Chains

variable {bound limit : Nat} {less more : Reading} {level : Level}

/-- The rounds of a chain are cut off at the first operand that is. -/
theorem cutAt_chainFrom (moreLogs : Logs more)
    (operandCuts : ∀ tokens, tokens.length ≤ bound → CutsOn limit less more tokens) (rounds : Nat)
    (left : Expr) {tokens : List Token} (short : tokens.length ≤ bound) :
    CutAt limit (chainOpens level less rounds tokens) (chainFrom level less.read rounds left tokens)
      (chainOpens level more rounds tokens) (chainFrom level more.read rounds left tokens) := by
  induction rounds generalizing left tokens with
  | zero => exact .nothing limit _
  | succ rounds inductionHypothesis =>
      cases head : level.joint? tokens with
      | none =>
          simp only [chainOpens, chainFrom, head]
          exact .nothing limit _
      | some found =>
          obtain ⟨opTokens, rfl, _⟩ := operator_of_joint? head
          have shorter : found.2.length ≤ bound :=
            Nat.le_trans (List.sublist_append_right opTokens found.2).length_le short
          simp only [chainOpens, chainFrom, head]
          refine (operandCuts found.2 shorter).bind ?_
          intro right rest read
          exact inductionHypothesis _ (Nat.le_trans (moreLogs.length_le read) shorter)

/-- A chain is cut off where its operands are. -/
theorem cutsOn_chain (moreLogs : Logs more)
    (operandCuts : ∀ tokens, tokens.length ≤ bound → CutsOn limit less more tokens)
    {tokens : List Token} (short : tokens.length ≤ bound) :
    CutsOn limit (chain level less) (chain level more) tokens := by
  refine (operandCuts tokens short).bind ?_
  intro left rest read
  exact cutAt_chainFrom moreLogs operandCuts rest.length left
    (Nat.le_trans (moreLogs.length_le read) short)

/-- Chains of all levels are cut off where their operands are. -/
theorem cutsOn_chains (moreLogs : Logs more)
    (operandCuts : ∀ tokens, tokens.length ≤ bound → CutsOn limit less more tokens)
    {tokens : List Token} (short : tokens.length ≤ bound) :
    CutsOn limit (chains less) (chains more) tokens := by
  unfold chains
  induction Level.table generalizing tokens with
  | nil => exact operandCuts tokens short
  | cons level levels inductionHypothesis =>
      exact cutsOn_chain (logs_foldr_chain moreLogs levels) (fun _ => inductionHypothesis) short

end Chains

section Whole

variable {bound limit : Nat} {less more : Option Reading}

/-- The rounds of conditionals are cut off at the first branch that is, or at a question mark beyond
the limit. -/
theorem cutAt_conditionalsFrom (moreLogs : ∀ reading ∈ more, Logs reading)
    (nestedCuts : NestedCuts bound limit less more) (rounds : Nat) (cond : Expr)
    {tokens : List Token} (short : tokens.length ≤ bound) :
    CutAt limit (conditionalsOpens less rounds tokens)
      (conditionalsFrom (nestedRead less) rounds cond tokens)
      (conditionalsOpens more rounds tokens)
      (conditionalsFrom (nestedRead more) rounds cond tokens) := by
  induction rounds generalizing cond tokens with
  | zero => exact .nothing limit _
  | succ rounds inductionHypothesis =>
      cases asked : take? .question tokens with
      | none =>
          simp only [conditionalsOpens, conditionalsFrom, asked]
          exact .nothing limit _
      | some question =>
          obtain ⟨rfl, asks⟩ := take?_eq_some asked
          simp only [conditionalsOpens, conditionalsFrom, asked]
          cases nestedCuts with
          | closed =>
              have refused := @Opener.refusal_of_question ⟨question.1, 1⟩ asks
              dsimp only [nestedRead, Option.map_none]
              rw [← refused]
              exact .refused Nat.zero_lt_one
          | @opened _ branch wider inner =>
              have widerLogs := moreLogs wider rfl
              refine ((inner question.2 short).enter question.1).bind ?_
              intro ifTrue rest read
              have shorter : rest.length < bound :=
                Nat.lt_of_le_of_lt (widerLogs.length_le read) short
              cases parted : take? .colon rest with
              | none =>
                  dsimp only
                  exact inductionHypothesis (.guarded cond ifTrue) (Nat.le_of_lt shorter)
              | some colon =>
                  obtain ⟨rfl, _⟩ := take?_eq_some parted
                  have behindColon : colon.2.length < bound := Nat.lt_of_succ_lt shorter
                  dsimp only
                  refine (inner colon.2 behindColon).deeper.bind ?_
                  intro ifFalse rest read
                  exact inductionHypothesis (.conditional cond ifTrue ifFalse)
                    (Nat.le_of_lt (Nat.lt_of_le_of_lt (widerLogs.length_le read) behindColon))

/-- An expression is cut off in its condition, or in its branches. -/
theorem cutsOn_outermost (moreLogs : ∀ reading ∈ more, Logs reading)
    (nestedCuts : NestedCuts bound limit less more) {tokens : List Token}
    (short : tokens.length ≤ bound) :
    CutsOn limit (outermost less) (outermost more) tokens := by
  have signedLogs := logs_signed moreLogs
  have chainsLogs := logs_foldr_chain signedLogs Level.table
  refine (cutsOn_chains signedLogs (fun _ => cutsOn_signed nestedCuts) short).bind ?_
  intro cond rest read
  exact cutAt_conditionalsFrom moreLogs nestedCuts rest.length cond
    (Nat.le_trans (chainsLogs.length_le read) short)

end Whole

/-! ### Whole expressions -/

/-- With less room, an expression is read as with more, cut off at what room there is. -/
theorem cutsOn_within (room extra : Nat) (tokens : List Token) :
    CutsOn room (within room) (within (room + extra)) tokens := by
  induction room generalizing tokens with
  | zero =>
      -- Without room the first opener is refused, whatever the other reading makes of it.
      cases extra with
      | zero => exact cutsOn_outermost (by simp) .closed (Nat.le_refl tokens.length)
      | succ extra =>
          rw [Nat.zero_add]
          refine cutsOn_outermost ?_ .closed (Nat.le_refl tokens.length)
          intro reading member
          cases member
          exact logs_within extra
  | succ room inductionHypothesis =>
      rw [Nat.succ_add]
      refine cutsOn_outermost ?_ (.opened fun inside _ => inductionHypothesis inside)
        (Nat.le_refl tokens.length)
      intro reading member
      cases member
      exact logs_within (room + extra)

/-- No opener is beyond the number of tokens. -/
theorem level_le_of_within {room : Nat} {tokens : List Token} {opener : Opener}
    (member : opener ∈ (within room).opens tokens) : opener.level ≤ tokens.length :=
  (logs_within room tokens).opened.levels opener member

/-- Room for as many levels as there are tokens is as good as more room. -/
theorem within_eq_unlimited {room : Nat} {tokens : List Token} (enough : tokens.length ≤ room) :
    (within room).opens tokens = unlimited.opens tokens ∧
      (within room).read tokens = unlimited.read tokens := by
  obtain ⟨extra, rfl⟩ := Nat.exists_eq_add_of_le enough
  have same := (cutsOn_within tokens.length extra tokens).eq_of_shallow fun _ => level_le_of_within
  rw [read_within tokens.length] at same
  exact ⟨same.1.symm, same.2.symm⟩

/-- The reading without a limit reads groups and branches without a limit. -/
theorem unlimited_eq_outermost : unlimited = outermost (some unlimited) := by
  have pointwise : ∀ tokens, (outermost (some unlimited)).opens tokens = unlimited.opens tokens ∧
      (outermost (some unlimited)).read tokens = unlimited.read tokens := by
    intro tokens
    -- What stands in a group or branch is shorter, so there is room for all of its levels.
    have inner : ∀ inside : List Token, inside.length < tokens.length →
        CutsOn tokens.length unlimited (within tokens.length) inside := by
      intro inside shorter
      have enough := Nat.le_of_lt shorter
      obtain ⟨opensEq, readEq⟩ := within_eq_unlimited enough
      unfold CutsOn
      rw [opensEq, readEq]
      refine .same ?_
      intro opener member
      rw [← opensEq] at member
      exact Nat.le_trans (level_le_of_within member) enough
    have cuts : CutsOn (tokens.length + 1) (outermost (some unlimited))
        (within (tokens.length + 1)) tokens := by
      refine cutsOn_outermost ?_ (.opened inner) (Nat.le_refl tokens.length)
      intro reading member
      cases member
      exact logs_within tokens.length
    obtain ⟨opensEq, readEq⟩ := within_eq_unlimited (Nat.le_succ tokens.length)
    have same := cuts.eq_of_shallow fun opener member =>
      Nat.le_succ_of_le (level_le_of_within member)
    exact ⟨same.1.trans opensEq, same.2.trans readEq⟩
  ext tokens
  · rw [(pointwise tokens).2]
  · rw [(pointwise tokens).1]

/-- With a limit, an expression is read as without, cut off at the limit. -/
theorem cutsOn_unlimited (limit : Nat) (tokens : List Token) :
    CutsOn limit (within limit) unlimited tokens := by
  rcases Nat.le_total limit tokens.length with below | enough
  · obtain ⟨extra, lengthEq⟩ := Nat.exists_eq_add_of_le below
    have cuts := cutsOn_within limit extra tokens
    unfold CutsOn at cuts
    rwa [← lengthEq, read_within tokens.length] at cuts
  · -- The limit is beyond all levels, and nothing is cut off.
    obtain ⟨opensEq, readEq⟩ := within_eq_unlimited enough
    unfold CutsOn
    rw [opensEq, readEq]
    exact .same fun opener member => Nat.le_trans (level_le_of_within member) enough

end Reading

/-- The reading without a limit is the one whose groups and branches are read without a limit, and
the openers that it meets stand in the order of the tokens. If all of them are within the limit, an
expression is read as without a limit, tree or refusal; otherwise the first that is beyond the limit
is refused. -/
theorem parseExpression_of_unlimited (tokens : List Token) :
    Reading.unlimited = Reading.outermost (some Reading.unlimited) ∧
      ((Reading.unlimited.opens tokens).map Opener.token).Sublist tokens ∧
      ((∀ opener ∈ Reading.unlimited.opens tokens, opener.level ≤ nestingLimit) ∧
          parseExpression tokens = (Reading.unlimited.read tokens).map Prod.fst ∨
        ∃ before opener after, Reading.unlimited.opens tokens = before ++ opener :: after ∧
          (∀ earlier ∈ before, earlier.level ≤ nestingLimit) ∧ nestingLimit < opener.level ∧
          ∃ complaint : Complaint, parseExpression tokens = .error ⟨complaint, opener.token.span⟩ ∧
            complaint.severity = .parseException ∧
            (opener.token.kind = .leftParen ∧ complaint.text = "too many nested parentheses" ∨
              opener.token.kind = .question ∧
                complaint.text = "too many nested conditional expressions")) := by
  have opened : OpenedIn tokens (Reading.unlimited.opens tokens) :=
    (Reading.logs_within tokens.length tokens).opened
  refine ⟨Reading.unlimited_eq_outermost, opened.ordered, ?_⟩
  have cuts := Reading.cutsOn_unlimited nestingLimit tokens
  unfold Reading.CutsOn at cuts
  rw [Reading.read_within] at cuts
  unfold parseExpression
  generalize (Reading.within nestingLimit).opens tokens = kept at cuts
  generalize expression nestingLimit tokens = given at cuts
  generalize Reading.unlimited.opens tokens = openers at cuts opened
  generalize Reading.unlimited.read tokens = result at cuts
  cases cuts with
  | same shallow => exact .inl ⟨shallow, rfl⟩
  | @cut before after opener _ shallow deep =>
      refine .inr ⟨before, opener, after, rfl, shallow, deep, ?_⟩
      rcases opened.kinds opener (by simp) with paren | question
      · rw [Opener.refusal_of_leftParen paren]
        exact ⟨_, rfl, rfl, .inl ⟨paren, rfl⟩⟩
      · rw [Opener.refusal_of_question question]
        exact ⟨_, rfl, rfl, .inr ⟨question, rfl⟩⟩

/-- Levels count groups and branches together, and an alternative stands in the branch of its
question mark. -/
theorem parseExpression_of_unlimited_nestedBranches :
    let tokens := (scan "(1) + (2 ? (3) : (4)) ? 5 : (6)").tokens
    (Reading.unlimited.opens tokens).map Opener.level = [1, 1, 2, 3, 3, 1, 2] ∧
      parseExpression tokens = (Reading.unlimited.read tokens).map Prod.fst := by
  intro tokens
  have levels : (Reading.unlimited.opens tokens).map Opener.level = [1, 1, 2, 3, 3, 1, 2] := by
    decide +kernel
  have shallow : ∀ level ∈ (Reading.unlimited.opens tokens).map Opener.level,
      level ≤ nestingLimit := by
    rw [levels]
    decide
  obtain ⟨_, _, ⟨_, same⟩ | ⟨before, opener, after, opens, _, deep, _⟩⟩ :=
    parseExpression_of_unlimited tokens
  · exact ⟨levels, same⟩
  · have member : opener ∈ Reading.unlimited.opens tokens := by
      rw [opens]
      exact List.mem_append_right before List.mem_cons_self
    exact absurd (shallow opener.level (List.mem_map_of_mem member)) (Nat.not_le.mpr deep)

end Reckon.Grammar
