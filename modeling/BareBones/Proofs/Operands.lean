import BareBones.Proofs.Arithmetic

set_option autoImplicit false

namespace BareBones

namespace Text

theorem split_first (mark : Char) (text : Text) :
    ∃ more, text.splitOn mark = (cutAt mark text).1 :: more := by
  by_cases occurs : mark ∈ text
  · obtain ⟨front, rest, rfl, absent⟩ := List.eq_append_cons_of_mem occurs
    rw [cut_found mark front rest absent, List.splitOn_append_cons_self_of_not_mem absent]
    exact ⟨_, rfl⟩
  · rw [cut_absent mark text occurs, List.splitOn_eq_singleton occurs]
    exact ⟨_, rfl⟩

theorem split_within (mark : Char) (text : Text) :
    ∀ part ∈ text.splitOn mark, mark ∉ part ∧ ∀ c ∈ part, c ∈ text := by
  induction text with
  | nil =>
      intro part member
      rw [List.splitOn_nil, List.mem_singleton] at member
      subst member
      exact ⟨List.not_mem_nil, nofun⟩
  | cons c rest ih =>
      have wider (part : Text) (member : part ∈ rest.splitOn mark) : mark ∉ part ∧ ∀ d ∈ part, d ∈ c :: rest :=
        ⟨(ih part member).1, fun d among => List.mem_cons_of_mem c ((ih part member).2 d among)⟩
      rw [List.splitOn_cons_eq_if_modifyHead]
      split
      · intro part member
        rcases List.mem_cons.mp member with rfl | later
        · exact ⟨List.not_mem_nil, nofun⟩
        · exact wider part later
      · rename_i other
        obtain ⟨more, split⟩ := split_first mark rest
        rw [split] at ih wider ⊢
        intro part member
        rcases List.mem_cons.mp member with rfl | later
        · obtain ⟨absent, within⟩ := ih _ List.mem_cons_self
          refine ⟨?_, ?_⟩
          · rintro (_ | ⟨_, inside⟩)
            · simp at other
            · exact absent inside
          · intro d among
            rcases List.mem_cons.mp among with rfl | inside
            · exact List.mem_cons_self
            · exact List.mem_cons_of_mem c (within d inside)
        · exact wider part (List.mem_cons_of_mem _ later)

end Text

namespace Operator

def earlier (operator : Operator) : List Operator :=
  all.takeWhile (· != operator)

structure Detected (operator : Operator) (token : Text) : Prop where
  occurs : operator.symbol ∈ token
  first : ∀ other ∈ operator.earlier, other.symbol ∉ token

theorem listed (operator : Operator) : operator ∈ all := by
  cases operator <;> decide

def marks (token : Text) : Nat :=
  all.countP (·.symbol ∈ token)

theorem marks_bounded (token : Text) : marks token ≤ 5 :=
  List.countP_le_length

theorem marks_fewer {operator : Operator} {part token : Text} (absent : operator.symbol ∉ part)
    (within : ∀ c ∈ part, c ∈ token) (occurs : operator.symbol ∈ token) : marks part < marks token := by
  obtain ⟨front, back, whole⟩ := List.append_of_mem operator.listed
  have fewer (operators : List Operator) :
      operators.countP (·.symbol ∈ part) ≤ operators.countP (·.symbol ∈ token) :=
    List.countP_mono_left fun other _ inside => decide_eq_true (within _ (of_decide_eq_true inside))
  have before := fewer front
  have behind := fewer back
  rw [marks, marks, whole, List.countP_append, List.countP_append, List.countP_cons_of_neg (by simpa using absent),
    List.countP_cons_of_pos (by simpa using occurs)]
  omega

end Operator

namespace Env

theorem fields_split (symbol : Char) (token left right : Text) :
    fields? symbol token = some (left, right) ↔ ∃ more, token.splitOn symbol = left :: right :: more := by
  by_cases occurs : symbol ∈ token
  · obtain ⟨front, rest, rfl, absent⟩ := List.eq_append_cons_of_mem occurs
    obtain ⟨more, behind⟩ := Text.split_first symbol rest
    rw [fields?, Text.cut_found symbol front rest absent, List.splitOn_append_cons_self_of_not_mem absent, behind]
    simp
  · rw [fields_absent symbol token occurs, List.splitOn_eq_singleton occurs]
    simp

theorem fields_none (symbol : Char) (token : Text) : fields? symbol token = none ↔ symbol ∉ token := by
  refine ⟨fun nothing occurs => ?_, fields_absent symbol token⟩
  obtain ⟨front, rest, rfl, absent⟩ := List.eq_append_cons_of_mem occurs
  rw [fields?, Text.cut_found symbol front rest absent] at nothing
  cases nothing

theorem fields_occurs {symbol : Char} {token : Text} {fields : Text × Text}
    (split : fields? symbol token = some fields) : symbol ∈ token := by
  by_contra absent
  cases (fields_absent symbol token absent).symm.trans split

theorem operation_found (token left right : Text) (operator : Operator) (operators : List Operator) :
    operation? token operators = some (operator, left, right) ↔
      operator ∈ operators ∧ (∀ other ∈ operators.takeWhile (· != operator), other.symbol ∉ token) ∧
        fields? operator.symbol token = some (left, right) := by
  induction operators with
  | nil => simp [operation?]
  | cons first others ih =>
      by_cases here : first = operator
      · subst here
        cases split : fields? first.symbol token with
        | none => simp [operation?, split, ih]
        | some fields =>
            obtain ⟨one, other⟩ := fields
            simp [operation?, split]
      · rw [List.takeWhile_cons_of_pos (by simpa using here), List.forall_mem_cons, List.mem_cons]
        cases split : fields? first.symbol token with
        | none =>
            have absent := (fields_none first.symbol token).mp split
            simp [operation?, split, ih, absent, Ne.symm here]
        | some fields =>
            simp [operation?, split, fields_occurs split, here]

theorem operation_detected (token left right : Text) (operator : Operator) :
    operation? token Operator.all = some (operator, left, right) ↔
      operator.Detected token ∧ ∃ more, token.splitOn operator.symbol = left :: right :: more := by
  rw [operation_found, ← fields_split]
  constructor
  · rintro ⟨_, first, split⟩
    exact ⟨⟨fields_occurs split, first⟩, split⟩
  · rintro ⟨detected, split⟩
    exact ⟨operator.listed, detected.first, split⟩

theorem detected_split {operator : Operator} {token : Text} (detected : operator.Detected token) :
    ∃ first second more, token.splitOn operator.symbol = first :: second :: more := by
  cases fields : fields? operator.symbol token with
  | none => exact absurd detected.occurs ((fields_none operator.symbol token).mp fields)
  | some parts => exact ⟨parts.1, parts.2, (fields_split operator.symbol token _ _).mp fields⟩

theorem detected_free {operator : Operator} {token : Text} (detected : operator.Detected token) :
    ∀ part ∈ token.splitOn operator.symbol, ∀ other ∈ operator.earlier ++ [operator], other.symbol ∉ part := by
  intro part member other tried
  obtain ⟨absent, within⟩ := Text.split_within operator.symbol token part member
  rcases List.mem_append.mp tried with before | last
  · exact fun inside => detected.first other before (within _ inside)
  · exact List.mem_singleton.mp last ▸ absent

structure Calls (env : Env) (part token : Text) : Prop where
  other : token.head? ≠ some '#'
  unbound : env.store.read? env.path token = none
  field : ∃ operator left right, operation? token Operator.all = some (operator, left, right) ∧
    (part = left ∨ part = right)
  proper : part ≠ []

theorem calls_fewer {env : Env} {part token : Text} (calls : env.Calls part token) :
    Operator.marks part < Operator.marks token := by
  obtain ⟨operator, left, right, found, field⟩ := calls.field
  obtain ⟨detected, more, split⟩ := (operation_detected token left right operator).mp found
  have member : part ∈ token.splitOn operator.symbol := by
    rw [split]
    rcases field with rfl | rfl
    · exact List.mem_cons_self
    · exact List.mem_cons_of_mem _ List.mem_cons_self
  obtain ⟨absent, within⟩ := Text.split_within operator.symbol token part member
  exact Operator.marks_fewer absent within detected.occurs

theorem calls_founded (env : Env) : WellFounded env.Calls :=
  Subrelation.wf calls_fewer (InvImage.wf Operator.marks Nat.lt_wfRel.wf)

section

variable {m : Type → Type} [Monad m]

def settled {α : Type} (outcome : Except Failure α) : ExceptT Failure m α :=
  ExceptT.mk (pure outcome)

def fieldBy (inner : Text → ExceptT Failure m Value) (operator : Operator) (token part : Text) :
    ExceptT Failure m Int :=
  (if part = [] then settled (.ok (.int 0)) else inner part) >>= fun value =>
    settled (integerOf operator token value)

def resolveBy (env : Env) (strict : Bool) (inner : Text → ExceptT Failure m Value) (token : Text) :
    ExceptT Failure m Value :=
  if token.head? = some '#' then
    settled <| match env.argumentAt token with
      | .ok text => .ok (.text text)
      | .error breakdown => .error (.breakdown breakdown)
  else
    match env.store.read? env.path token with
    | some value => settled (.ok value)
    | none =>
        match operation? token Operator.all with
        | none => settled (literal strict token)
        | some (operator, left, right) => do
            let leftInteger ← fieldBy inner operator token left
            let rightInteger ← fieldBy inner operator token right
            settled ((operator.apply leftInteger rightInteger).map .int)

variable [LawfulMonad m]

theorem settled_bind {α β : Type} (outcome : Except Failure α) {next : α → Except Failure β}
    {later : α → ExceptT Failure m β} (follows : ∀ a, later a = settled (next a)) :
    (settled outcome >>= later) = settled (outcome >>= next) := by
  apply ExceptT.ext
  rw [ExceptT.run_bind]
  cases outcome with
  | error failure => simp [settled, Except.bind, bind]
  | ok a => simp [settled, follows, Except.bind, bind]

variable {env : Env} {strict : Bool} {inner : Text → ExceptT Failure m Value}

theorem field_settled (operator : Operator) (token part : Text)
    (answers : part ≠ [] → inner part = settled (env.resolve strict part)) :
    fieldBy inner operator token part = settled (env.field strict operator token part) := by
  by_cases blank : part = []
  · rw [fieldBy, field, if_pos blank, if_pos blank]
    exact settled_bind _ fun _ => rfl
  · rw [fieldBy, field, if_neg blank, if_neg blank, answers blank]
    exact settled_bind _ fun _ => rfl

theorem resolve_settled {token : Text}
    (answers : ∀ part, env.Calls part token → inner part = settled (env.resolve strict part)) :
    env.resolveBy strict inner token = settled (env.resolve strict token) := by
  unfold resolveBy
  by_cases asks : token.head? = some '#'
  · have positional := (resolve.eq_def env strict token).trans (if_pos asks)
    exact (if_pos asks).trans (congrArg settled positional.symm)
  rw [if_neg asks]
  cases unbound : env.store.read? env.path token with
  | some value => rw [resolve_bound env strict token value asks unbound]
  | none =>
      cases found : operation? token Operator.all with
      | none => rw [resolve_literal env strict asks unbound found]
      | some parts =>
          obtain ⟨operator, left, right⟩ := parts
          have leftSettled := field_settled operator token left fun proper =>
            answers left ⟨asks, unbound, ⟨operator, left, right, found, .inl rfl⟩, proper⟩
          have rightSettled := field_settled operator token right fun proper =>
            answers right ⟨asks, unbound, ⟨operator, left, right, found, .inr rfl⟩, proper⟩
          dsimp only
          rw [leftSettled, rightSettled, resolve_operation env strict asks unbound found]
          refine settled_bind _ fun leftInteger => settled_bind _ fun rightInteger => ?_
          cases operator.apply leftInteger rightInteger <;> rfl

end

-- Resolves an operand with so many calls in one another at the most, and gives up where that is not enough.
def resolveWithin (env : Env) (strict : Bool) : Nat → Text → ExceptT Failure Option Value
  | 0 => fun _ => ExceptT.mk none
  | calls + 1 => env.resolveBy strict (env.resolveWithin strict calls)

theorem resolve_within (env : Env) (strict : Bool) (calls : Nat) (token : Text)
    (enough : Operator.marks token < calls) :
    env.resolveWithin strict calls token = settled (env.resolve strict token) := by
  induction calls generalizing token with
  | zero => cases enough
  | succ calls ih =>
      refine resolve_settled fun part called => ih part ?_
      have fewer := calls_fewer called
      omega

end Env

-- The outcomes are the same, or both are the fault that a field is no integer and cite the tokens that it is from.
inductive Similar {α : Type} : Except Failure α → Except Failure α → Prop
  | same (outcome : Except Failure α) : Similar outcome outcome
  | cites (operator : Operator) (token other written : Text) :
      Similar (.error (.fault (.of (.nonInteger [operator.symbol] token written))))
        (.error (.fault (.of (.nonInteger [operator.symbol] other written))))

theorem similar_bind {α β : Type} {one other : Except Failure α} {next later : α → Except Failure β}
    (first : Similar one other) (second : ∀ a, Similar (next a) (later a)) :
    Similar (one >>= next) (other >>= later) := by
  cases first with
  | same =>
      cases one with
      | error failure => exact .same _
      | ok a => exact second a
  | cites operator token other written => exact .cites operator token other written

namespace Env

theorem integer_similar (operator : Operator) (token other : Text) (value : Value) :
    Similar (integerOf operator token value) (integerOf operator other value) := by
  unfold integerOf
  by_cases empty : value = .text []
  · rw [if_pos empty, if_pos empty]
    exact .same _
  · rw [if_neg empty, if_neg empty]
    split
    · exact .same _
    · cases value.written with
      | ok written => exact .cites operator token other written
      | error breakdown => exact .same _
    · exact .same _

theorem field_similar (env : Env) (strict : Bool) (operator : Operator) (token other part : Text) :
    Similar (env.field strict operator token part) (env.field strict operator other part) := by
  unfold field
  by_cases blank : part = []
  · rw [if_pos blank, if_pos blank]
    exact .same _
  · rw [if_neg blank, if_neg blank]
    exact similar_bind (.same _) fun value => integer_similar operator token other value

theorem operation_similar (env : Env) (strict : Bool) {token other left right : Text} {operator : Operator}
    (asks : token.head? ≠ some '#') (calm : other.head? ≠ some '#')
    (unbound : env.store.read? env.path token = none) (free : env.store.read? env.path other = none)
    (found : operation? token Operator.all = some (operator, left, right))
    (again : operation? other Operator.all = some (operator, left, right)) :
    Similar (env.resolve strict token) (env.resolve strict other) := by
  rw [resolve_operation env strict asks unbound found, resolve_operation env strict calm free again]
  refine similar_bind (field_similar env strict operator token other left) fun _ => ?_
  exact similar_bind (field_similar env strict operator token other right) fun _ => .same _

structure Divided (env : Env) (strict : Bool) (token : Text) (operator : Operator) (first second : Text) : Prop where
  split : ∃ more, token.splitOn operator.symbol = first :: second :: more
  free : ∀ part ∈ token.splitOn operator.symbol, ∀ other ∈ operator.earlier ++ [operator], other.symbol ∉ part
  taken : operation? token Operator.all = some (operator, first, second)
  alike : token.head? ≠ some '#' → env.store.read? env.path token = none →
    ∀ other more, other.head? ≠ some '#' → env.store.read? env.path other = none → operator.Detected other →
      other.splitOn operator.symbol = first :: second :: more →
      Similar (env.resolve strict token) (env.resolve strict other)
  joined : token.head? ≠ some '#' → env.store.read? env.path token = none →
    env.store.read? env.path (first ++ operator.symbol :: second) = none →
      Similar (env.resolve strict token) (env.resolve strict (first ++ operator.symbol :: second))

theorem joined_again {operator : Operator} {token first second : Text} {more : List Text}
    (detected : operator.Detected token) (split : token.splitOn operator.symbol = first :: second :: more) :
    operation? (first ++ operator.symbol :: second) Operator.all = some (operator, first, second) := by
  have free := detected_free detected
  rw [split] at free
  have one := free first List.mem_cons_self
  have other := free second (List.mem_cons_of_mem _ List.mem_cons_self)
  have last : operator ∈ operator.earlier ++ [operator] := List.mem_append.mpr (.inr List.mem_cons_self)
  refine operation_first operator first second Operator.all (one operator last) (other operator last) ?_
    operator.listed
  intro before among inside
  have tried : before ∈ operator.earlier ++ [operator] := List.mem_append.mpr (.inl among)
  rcases List.mem_append.mp inside with left | right
  · exact one before tried left
  · rcases List.mem_cons.mp right with same | right
    · have occurs : before.symbol ∈ token := same ▸ detected.occurs
      exact detected.first before among occurs
    · exact other before tried right

theorem joined_asks {operator : Operator} {token first second : Text} {more : List Text}
    (split : token.splitOn operator.symbol = first :: second :: more) (asks : token.head? ≠ some '#') :
    (first ++ operator.symbol :: second).head? ≠ some '#' := by
  obtain ⟨others, again⟩ := Text.split_first operator.symbol token
  have begins : first <+: token := by
    rw [(List.cons.inj (split.symm.trans again)).1]
    exact List.takeWhile_prefix _
  obtain ⟨rest, rfl⟩ := begins
  cases first with
  | nil => cases operator <;> exact nofun
  | cons c front => exact asks

theorem detected_divided (env : Env) (strict : Bool) {operator : Operator} {token : Text}
    (detected : operator.Detected token) : ∃ first second, env.Divided strict token operator first second := by
  obtain ⟨first, second, more, split⟩ := detected_split detected
  have taken := (operation_detected token first second operator).mpr ⟨detected, more, split⟩
  refine ⟨first, second, {
    split := ⟨more, split⟩
    free := detected_free detected
    taken
    alike := fun asks unbound other rest calm free again same => ?_
    joined := fun asks unbound free => ?_ }⟩
  · have counterpart := (operation_detected other first second operator).mpr ⟨again, rest, same⟩
    exact operation_similar env strict asks calm unbound free taken counterpart
  · exact operation_similar env strict asks (joined_asks split asks) unbound free taken (joined_again detected split)

-- The calls that resolve an operand go six deep at the most. An operation is read from the operator that is found
-- first and from the first two fields of the token that is split there, which hold no operator looked for until then.
theorem operands_nested (env : Env) (strict : Bool) (token : Text) :
    WellFounded env.Calls ∧
      env.resolveBy strict (m := Id) (fun part => settled (env.resolve strict part)) token =
        settled (env.resolve strict token) ∧
      (env.resolveWithin strict 6 token).run = some (env.resolve strict token) ∧
      ∀ operator : Operator, operator.Detected token →
        ∃ first second, env.Divided strict token operator first second := by
  have shallow : Operator.marks token < 6 := Nat.lt_succ_of_le (Operator.marks_bounded token)
  exact ⟨env.calls_founded, resolve_settled fun _ _ => rfl, env.resolve_within strict 6 token shallow,
    fun _ detected => env.detected_divided strict detected⟩

def holding : Env :=
  ⟨⟨.empty, .cons "main".toList ⟨[("x".toList, .int 2)], []⟩ .nil .nil⟩, ["main".toList], []⟩

example : (holding.resolveWithin false 5 "1%2/3*4-5+x".toList).run = none := by decide +kernel

theorem operands_nested_surplus :
    Operator.add.Detected "7+x+y".toList ∧ "7+x+y".toList.head? ≠ some '#' ∧
      holding.store.read? holding.path "7+x+y".toList = none ∧
      holding.store.read? holding.path "7+x".toList = none ∧
      Similar (holding.resolve true "7+x+y".toList) (holding.resolve true "7+x".toList) := by
  have detected : Operator.add.Detected "7+x+y".toList := ⟨by decide, by decide⟩
  have asks : "7+x+y".toList.head? ≠ some '#' := by decide
  have unbound : holding.store.read? holding.path "7+x+y".toList = none := by decide +kernel
  have free : holding.store.read? holding.path "7+x".toList = none := by decide +kernel
  obtain ⟨_, _, _, parts⟩ := operands_nested holding true "7+x+y".toList
  obtain ⟨first, second, divided⟩ := parts .add detected
  have fields : operation? "7+x+y".toList Operator.all = some (.add, "7".toList, "x".toList) := by decide
  cases fields.symm.trans divided.taken
  exact ⟨detected, asks, unbound, free, divided.joined asks unbound free⟩

end Env
end BareBones
