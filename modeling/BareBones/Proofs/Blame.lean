import BareBones.Format
import BareBones.Proofs.Closing

set_option autoImplicit false

namespace BareBones

inductive Origin where
  | line
  | block
  | call
  | statement
  | limit
  | observer
  | machinery
deriving DecidableEq, Repr

def Cause.origin : Cause → Origin
  | .blankName _ _ | .badHeader _ _ | .badFunctionName _ | .strayBoundary _ => .line
  | .badElse _ | .unterminated _ => .block
  | .unknownCall _ => .call
  | .undefined _ | .badPredicate _ | .unknownComparison _ _ _ | .nonInteger _ _ _ | .zeroDivisor _ _
  | .zeroModulus _ _ | .notCountable _ _ _ _ | .unsupported => .statement
  | .depthLimit _ => .limit
  | .raised _ _ | .handlerFailed _ _ => .observer
  | .internal _ => .machinery

def Failure.Harmless : Failure → Prop
  | .fault found => found.kind ≠ .unterminatedBlock ∧ found.cause ≠ .strayBoundary "end".toList
  | .signal _ | .breakdown _ => True

theorem fault_harmless (fault : Fault) (kind : (fault.kind == .unterminatedBlock) = false)
    (cause : (fault.cause == .strayBoundary "end".toList) = false) : (Failure.fault fault).Harmless :=
  ⟨ne_of_beq_false kind, ne_of_beq_false cause⟩

def Fails {α : Type} (blame : Failure → Prop) (result : Except Failure α) : Prop :=
  ∀ failure, result = .error failure → blame failure

section

variable {α β : Type} {blame : Failure → Prop}

theorem fails_ok (a : α) : Fails blame (.ok a : Except Failure α) := by
  intro failure impossible
  cases impossible

theorem fails_error (failure : Failure) (blamed : blame failure) :
    Fails blame (.error failure : Except Failure α) := by
  intro other same
  cases same
  exact blamed

theorem fails_mono {weaker : Failure → Prop} {result : Except Failure α} (fails : Fails blame result)
    (implies : ∀ failure, blame failure → weaker failure) : Fails weaker result :=
  fun failure same => implies failure (fails failure same)

theorem fails_bind {first : Except Failure α} {next : α → Except Failure β}
    (fails : Fails blame first) (later : ∀ a, Fails blame (next a)) : Fails blame (first >>= next) := by
  cases first with
  | error failure => exact fails_error failure (fails failure rfl)
  | ok a => exact later a

theorem fails_choice {condition : Prop} [Decidable condition] {first second : Except Failure α}
    {next : α → Except Failure β} (one : Fails blame first) (other : Fails blame second)
    (later : ∀ a, Fails blame (next a)) :
    Fails blame (if condition then first >>= next else second >>= next) := by
  split
  · exact fails_bind one later
  · exact fails_bind other later

theorem fails_map {first : Except Failure α} (change : α → β) (fails : Fails blame first) :
    Fails blame (first.map change) := by
  cases first with
  | error failure => exact fails_error failure (fails failure rfl)
  | ok a => exact fails_ok (change a)

theorem fails_placed {other : Failure → Prop} (location : Location) (result : Except Failure α)
    (fails : Fails blame result) (placed : ∀ failure, blame failure → other (failure.located location)) :
    Fails other (result.mapError (Failure.located location)) := by
  cases result with
  | ok a => exact fails_ok a
  | error failure => exact fails_error _ (placed failure (fails failure rfl))

end

theorem located_harmless (location : Location) (failure : Failure) (harmless : failure.Harmless) :
    (failure.located location).Harmless := by
  cases failure with
  | fault fault => exact harmless
  | signal signal => trivial
  | breakdown breakdown => trivial

def Breakdown.Numeric : Breakdown → Prop
  | .badLiteral _ | .longLiteral _ | .longInteger => True
  | _ => False

def Numeric {α : Type} (result : Except Breakdown α) : Prop :=
  ∀ broken, result = .error broken → broken.Numeric

inductive Failure.Evaluative : Failure → Prop
  | fault (cause : Cause) (blamed : cause.origin = .statement) : Evaluative (.fault (.of cause))
  | broken (broken : Breakdown) (numeric : broken.Numeric) : Evaluative (.breakdown broken)

inductive Failure.Stated (place : Location) : Failure → Prop
  | fault (cause : Cause) (blamed : cause.origin = .statement) : Stated place (.fault (.at place cause))
  | broken (broken : Breakdown) (numeric : broken.Numeric) : Stated place (.breakdown broken)

theorem evaluative_stated (place : Location) (failure : Failure) (evaluative : failure.Evaluative) :
    (failure.located place).Stated place := by
  cases evaluative with
  | fault cause blamed => exact .fault cause blamed
  | broken broken numeric => exact .broken broken numeric

theorem stated_harmless (place : Location) (failure : Failure) (stated : failure.Stated place) :
    failure.Harmless := by
  cases stated with
  | fault cause blamed =>
      refine ⟨?_, ?_⟩
      · intro kind
        cases cause <;> cases blamed <;> cases kind
      · rintro rfl
        cases blamed
  | broken broken numeric => trivial

section

variable {α β : Type}

theorem numeric_ok (a : α) : Numeric (.ok a : Except Breakdown α) := by
  intro broken impossible
  cases impossible

theorem numeric_error (broken : Breakdown) (numeric : broken.Numeric) :
    Numeric (.error broken : Except Breakdown α) := by
  intro other same
  cases same
  exact numeric

theorem numeric_map {result : Except Breakdown α} (change : α → β) (numeric : Numeric result) :
    Numeric (result.map change) := by
  cases result with
  | ok a => exact numeric_ok (change a)
  | error broken => exact numeric_error broken (numeric broken rfl)

theorem numeric_bind {first : Except Breakdown α} {next : α → Except Breakdown β}
    (numeric : Numeric first) (later : ∀ a, Numeric (next a)) : Numeric (first >>= next) := by
  cases first with
  | ok a => exact later a
  | error broken => exact numeric_error broken (numeric broken rfl)

theorem numeric_each (change : α → Except Breakdown β) (numeric : ∀ a, Numeric (change a))
    (items : List α) : Numeric (items.mapM change) := by
  induction items with
  | nil => exact numeric_ok []
  | cons item rest ih =>
      rw [List.mapM_cons]
      exact numeric_bind (numeric item) fun _ => numeric_bind ih fun _ => numeric_ok _

end

theorem Numeral.read_numeric (text : Text) : Numeric (Numeral.read? text) := by
  unfold Numeral.read?
  split
  · exact numeric_ok none
  · split
    · exact numeric_error _ trivial
    · split
      · exact numeric_error _ trivial
      · split
        · exact numeric_error _ trivial
        · exact numeric_ok _

theorem Numeral.index_numeric (text : Text) : Numeric (Numeral.readIndex? text) := by
  unfold Numeral.readIndex?
  split
  · exact numeric_ok none
  · dsimp only
    split
    · exact numeric_error _ trivial
    · split
      · exact numeric_error _ trivial
      · exact numeric_ok _

theorem Numeral.write_numeric (n : Int) : Numeric (Numeral.write n) := by
  unfold Numeral.write
  split
  · exact numeric_ok _
  · exact numeric_error _ trivial

namespace Value

theorem integer_numeric (value : Value) : Numeric value.integer? := by
  cases value with
  | int n => exact numeric_ok _
  | text t => exact Numeral.read_numeric t

theorem written_numeric (value : Value) : Numeric value.written := by
  cases value with
  | int n => exact Numeral.write_numeric n
  | text t => exact numeric_ok t

theorem summary_numeric (value : Value) : Numeric value.summary :=
  numeric_map _ value.written_numeric

end Value

namespace Env

theorem or_breakdown_fails {α : Type} {blame : Failure → Prop} {result : Except Breakdown α}
    (blamed : ∀ broken, broken.Numeric → blame (.breakdown broken)) (numeric : Numeric result) :
    Fails blame (orBreakdown result) := by
  cases result with
  | ok a => exact fails_ok a
  | error broken => exact fails_error _ (blamed broken (numeric broken rfl))

theorem literal_fails (strict : Bool) (token : Text) : Fails Failure.Evaluative (literal strict token) := by
  unfold literal
  split
  · exact fails_error _ (.fault _ rfl)
  · split
    · exact fails_ok _
    · exact fails_ok _
    · rename_i broken reading
      exact fails_error _ (.broken broken (Numeral.read_numeric token broken reading))

theorem integer_fails (operator : Operator) (token : Text) (value : Value) :
    Fails Failure.Evaluative (integerOf operator token value) := by
  unfold integerOf
  split
  · exact fails_ok 0
  · split
    · exact fails_ok _
    · split
      · exact fails_error _ (.fault _ rfl)
      · rename_i broken writing
        exact fails_error _ (.broken broken (value.written_numeric broken writing))
    · rename_i broken reading
      exact fails_error _ (.broken broken (value.integer_numeric broken reading))

theorem zero_divisor_fails (left right : Int) (cause : Text → Text → Cause)
    (blamed : ∀ written text, (cause written text).origin = .statement) :
    Fails Failure.Evaluative (Operator.apply.zeroDivisor left right cause) := by
  unfold Operator.apply.zeroDivisor
  split
  · exact fails_error _ (.fault _ (blamed _ _))
  · rename_i broken writing
    exact fails_error _ (.broken broken (Numeral.write_numeric left broken writing))

theorem apply_fails (operator : Operator) (left right : Int) :
    Fails Failure.Evaluative (operator.apply left right) := by
  cases operator with
  | add => exact fails_ok _
  | sub => exact fails_ok _
  | mul => exact fails_ok _
  | div =>
      rw [Operator.apply]
      split
      · exact zero_divisor_fails left right _ fun _ _ => rfl
      · exact fails_ok _
  | mod =>
      rw [Operator.apply]
      split
      · exact zero_divisor_fails left right _ fun _ _ => rfl
      · exact fails_ok _

theorem argument_numeric (env : Env) (token : Text) : Numeric (env.argumentAt token) :=
  numeric_map _ (Numeral.index_numeric token.tail)

theorem resolve_fails (env : Env) (strict : Bool) (token : Text) :
    Fails Failure.Evaluative (env.resolve strict token) := by
  rw [resolve]
  split
  · split
    · exact fails_ok _
    · rename_i broken asking
      exact fails_error _ (.broken broken (env.argument_numeric token broken asking))
  · split
    · exact fails_ok _
    · split
      · exact literal_fails strict token
      · rename_i operator left right found
        have shorter := operation_shorter token Operator.all operator left right found
        refine fails_choice (fails_ok _) (resolve_fails env strict left) fun leftValue => ?_
        refine fails_bind (integer_fails operator token leftValue) fun leftInteger => ?_
        refine fails_choice (fails_ok _) (resolve_fails env strict right) fun rightValue => ?_
        refine fails_bind (integer_fails operator token rightValue) fun rightInteger => ?_
        exact fails_bind (apply_fails operator leftInteger rightInteger) fun _ => fails_ok _
termination_by token.length

theorem unknown_fails {α : Type} (word : Text) (left right : Value) :
    Fails Failure.Evaluative (unknownComparison word left right : Except Failure α) := by
  refine fails_bind (or_breakdown_fails .broken left.written_numeric) fun leftText => ?_
  refine fails_bind (or_breakdown_fails .broken right.written_numeric) fun rightText => ?_
  exact fails_error _ (.fault _ rfl)

theorem compare_values_fails (word : Text) (left right : Value) :
    Fails Failure.Evaluative (compareValues word left right) := by
  refine fails_bind (or_breakdown_fails .broken left.integer_numeric) fun leftNumber => ?_
  refine fails_bind (or_breakdown_fails .broken right.integer_numeric) fun rightNumber => ?_
  split
  · split
    · exact fails_ok _
    · exact unknown_fails word left right
  · split
    · refine fails_bind (or_breakdown_fails .broken left.written_numeric) fun leftText => ?_
      exact fails_bind (or_breakdown_fails .broken right.written_numeric) fun rightText => fails_ok _
    · exact unknown_fails word left right

theorem test_fails (env : Env) (predicate : Text) : Fails Failure.Evaluative (env.test predicate) := by
  rw [test]
  split
  · refine fails_bind (resolve_fails env false _) fun leftValue => ?_
    refine fails_bind (resolve_fails env false _) fun rightValue => ?_
    exact compare_values_fails _ leftValue rightValue
  · rename_i fault parts
    unfold predicateParts at parts
    split at parts
    · cases parts
    · cases parts
      exact fails_error _ (.fault _ rfl)

theorem expand_from_fails (env : Env) (state : FormatState) (format : Text) :
    Fails Failure.Evaluative (env.expandFrom state format) := by
  induction format generalizing state with
  | nil =>
      rw [expandFrom]
      exact fails_ok []
  | cons c rest ih =>
      cases state with
      | escaped =>
          rw [expandFrom]
          exact fails_map _ (ih .plain)
      | operand characters =>
          rw [expandFrom]
          split
          · refine fails_bind ?_ fun written => ?_
            · exact fails_bind (resolve_fails env true _) fun value =>
                or_breakdown_fails .broken value.written_numeric
            · exact fails_bind (ih .plain) fun _ => fails_ok _
          · exact ih _
      | plain =>
          rw [expandFrom]
          split
          · exact ih .escaped
          · split
            · exact ih (.operand [])
            · exact fails_map _ (ih .plain)

end Env

def Command.opens : Command → Bool
  | .loop _ | .branch _ | .define _ => true
  | _ => false

namespace Statement

-- Only a header is read as a statement that opens a block, and only an `end` fails as one.
def Reads (line : Line) : Except Failure Command → Prop
  | .ok command => command.opens = true → Boundary.isHeader line.text = true
  | .error failure => Boundary.isEnd line.text = false → failure.Harmless

theorem reads_error (line : Line) (failure : Failure) (harmless : failure.Harmless) :
    Reads line (.error failure) := fun _ => harmless

theorem reads_plain (line : Line) (command : Command) (plain : command.opens = false) :
    Reads line (.ok command) := by
  intro opens
  rw [plain] at opens
  cases opens

theorem reads_name (line : Line) (keyword rest : Text) (build : Text → Command)
    (plain : ∀ name, (build name).opens = false) :
    Reads line ((readName line keyword rest).map build) := by
  unfold readName
  split
  · exact reads_error line _ (fault_harmless _ rfl rfl)
  · exact reads_plain line _ (plain _)

theorem reads_header (line : Line) (kind : BlockKind) (build : Text → Except Failure Command)
    (harmless : ∀ subject, Fails Failure.Harmless (build subject)) :
    Reads line (readHeader line kind >>= build) := by
  unfold readHeader
  split
  · rename_i subject found
    change Reads line (build subject)
    cases built : build subject with
    | error failure =>
        exact reads_error line failure (harmless subject failure built)
    | ok command =>
        intro _
        refine List.any_eq_true.mpr ⟨kind, ?_, Option.isSome_iff_exists.mpr ⟨subject, found⟩⟩
        cases kind <;> decide
  · exact reads_error line _ (fault_harmless _ rfl rfl)

theorem reads_call (line : Line) : Reads line (readCall line) := by
  unfold readCall
  split
  · refine fun going => ⟨ne_of_beq_false rfl, ?_⟩
    intro stray
    injection stray with trimmed
    rw [Boundary.isEnd, trimmed] at going
    cases going
  · split
    · exact reads_error line _ trivial
    · exact reads_plain line _ rfl

def functionOf (line : Line) (name : Text) : Except Failure Command :=
  if name.words.length == 1 then .ok (.define name)
  else .error (.fault (.at line.location (.badFunctionName name)))

theorem function_fails (line : Line) (name : Text) (blame : Failure → Prop)
    (blamed : blame (.fault (.at line.location (.badFunctionName name)))) :
    Fails blame (functionOf line name) := by
  unfold functionOf
  split
  · exact fails_ok _
  · exact fails_error _ blamed

theorem command_reads (line : Line) : Reads line (readCommand line) := by
  unfold readCommand
  split
  · exact reads_name line _ _ _ fun _ => rfl
  split
  · exact reads_name line _ _ _ fun _ => rfl
  split
  · exact reads_name line _ _ _ fun _ => rfl
  split
  · split
    · exact reads_error line _ (fault_harmless _ rfl rfl)
    · exact reads_plain line _ rfl
  split
  · exact reads_plain line _ rfl
  split
  · exact reads_header line .loop (fun predicate => .ok (.loop predicate)) fun _ => fails_ok _
  split
  · exact reads_header line .branch (fun predicate => .ok (.branch predicate)) fun _ => fails_ok _
  split
  · exact reads_header line .function (functionOf line)
      fun name => function_fails line name _ (fault_harmless _ rfl rfl)
  split
  · split
    · exact reads_plain line _ rfl
    · exact reads_error line _ (fault_harmless _ rfl rfl)
  · exact reads_call line

theorem read_fails (line : Line) :
    Fails (fun failure => Boundary.isEnd line.text = false → failure.Harmless) (read line) := by
  have reads := command_reads line
  unfold read
  cases found : readCommand line with
  | error failure =>
      rw [found] at reads
      exact fails_error failure reads
  | ok command => exact fails_ok _

inductive Misread (place : Location) : Failure → Prop
  | fault (cause : Cause) (blamed : cause.origin = .line) : Misread place (.fault (.at place cause))

theorem words_solid (text : Text) (solid : text.allBlank = false) : text.words ≠ [] := by
  have nothing : ∀ current rest, Text.wordsFrom current rest = [] →
      current = [] ∧ rest.all Text.isBlank = true := by
    intro current rest
    induction rest generalizing current with
    | nil =>
        intro none
        cases current with
        | nil => exact ⟨rfl, rfl⟩
        | cons c others => cases none
    | cons c rest ih =>
        intro none
        rw [Text.wordsFrom] at none
        cases blank : Text.isBlank c with
        | true =>
            rw [if_pos blank] at none
            cases current with
            | nil => exact ⟨rfl, by simpa [blank] using (ih [] none).2⟩
            | cons d others => cases none
        | false =>
            rw [blank, if_neg Bool.false_ne_true] at none
            cases (ih (c :: current) none).1
  intro none
  rw [Text.allBlank, (nothing [] text none).2] at solid
  cases solid

theorem call_misread (line : Line) (solid : line.isBlank = false) :
    Fails (Misread line.location) (readCall line) := by
  unfold readCall
  split
  · exact fails_error _ (.fault _ rfl)
  · split
    · rename_i none
      exact absurd none (words_solid line.text solid)
    · exact fails_ok _

theorem name_misread (line : Line) (keyword rest : Text) :
    Fails (Misread line.location) (readName line keyword rest) := by
  unfold readName
  split
  · exact fails_error _ (.fault _ rfl)
  · exact fails_ok _

theorem header_misread (line : Line) (kind : BlockKind) :
    Fails (Misread line.location) (readHeader line kind) := by
  unfold readHeader
  split
  · exact fails_ok _
  · exact fails_error _ (.fault _ rfl)

theorem read_misread (line : Line) (solid : line.isBlank = false) :
    Fails (Misread line.location) (read line) := by
  apply fails_map
  unfold readCommand
  split
  · exact fails_map _ (name_misread line _ _)
  split
  · exact fails_map _ (name_misread line _ _)
  split
  · exact fails_map _ (name_misread line _ _)
  split
  · split
    · exact fails_error _ (.fault _ rfl)
    · exact fails_ok _
  split
  · exact fails_ok _
  split
  · exact fails_map _ (header_misread line .loop)
  split
  · exact fails_map _ (header_misread line .branch)
  split
  · refine fails_bind (header_misread line .function) fun name => ?_
    exact function_fails line name _ (.fault _ rfl)
  split
  · split
    · exact fails_ok _
    · exact fails_error _ (.fault _ rfl)
  · exact call_misread line solid

theorem opens_header (line : Line) (statement : Statement) (reading : read line = .ok statement)
    (opens : statement.command.opens = true) : Boundary.isHeader line.text = true := by
  have reads := command_reads line
  unfold read at reading
  cases found : readCommand line with
  | error failure =>
      rw [found] at reading
      cases reading
  | ok command =>
      rw [found] at reading reads
      cases reading
      exact reads opens

theorem spaced_command (line : Line) (kind : BlockKind) (starts : kind.keyword ++ [' '] <+: line.text) :
    readCommand line = readHeader line kind >>= fun subject =>
      match kind with
      | .loop => .ok (.loop subject)
      | .branch => .ok (.branch subject)
      | .function => functionOf line subject := by
  obtain ⟨rest, starts⟩ := starts
  unfold readCommand
  rw [← starts]
  cases kind <;> rfl

theorem spaced_opens (line : Line) (statement : Statement) (spaced : line.Spaced)
    (reading : read line = .ok statement) : statement.command.opens = true := by
  obtain ⟨kind, starts⟩ := spaced
  rw [read, spaced_command line kind starts] at reading
  cases found : readHeader line kind with
  | error failure =>
      rw [found] at reading
      cases reading
  | ok subject =>
      rw [found] at reading
      cases kind with
      | loop =>
          cases reading
          rfl
      | branch =>
          cases reading
          rfl
      | function =>
          change (functionOf line subject).map _ = _ at reading
          unfold functionOf at reading
          split at reading
          · cases reading
            rfl
          · cases reading

end Statement
end BareBones
