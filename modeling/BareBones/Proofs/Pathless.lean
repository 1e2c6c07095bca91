import BareBones.Proofs.Deed
import BareBones.Proofs.Headers
import Mathlib.Data.List.Infix

set_option autoImplicit false

namespace BareBones

namespace Text

-- Somewhere in the text a number sign stands before digits that denote zero.
def AsksPath (text : Text) : Prop :=
  ∃ digits, Numeral.readIndex? digits = .ok (some 0) ∧ '#' :: digits <:+: text

theorem asks_mark (text : Text) (asks : text.AsksPath) : '#' ∈ text := by
  obtain ⟨digits, _, within⟩ := asks
  exact within.subset List.mem_cons_self

theorem asks_whole {part text : Text} (within : part <:+: text) (asks : part.AsksPath) :
    text.AsksPath := by
  obtain ⟨digits, zero, inside⟩ := asks
  exact ⟨digits, zero, inside.trans within⟩

theorem quiet_part {part text : Text} (within : part <:+: text) (quiet : ¬text.AsksPath) :
    ¬part.AsksPath :=
  fun asks => quiet (asks_whole within asks)

theorem trim_start_suffix (text : Text) : text.trimStart <:+ text :=
  List.dropWhile_suffix isBlank

theorem trim_within (text : Text) : text.trim <:+: text := by
  have trimmed := trim_end_prefix text.trimStart
  exact trimmed.isInfix.trans (trim_start_suffix text).isInfix

theorem words_from_within (current text word : Text) (member : word ∈ wordsFrom current text) :
    word <:+: current.reverse ++ text := by
  induction text generalizing current with
  | nil =>
      rw [wordsFrom] at member
      split at member
      · cases member
      · rw [List.mem_singleton.mp member, List.append_nil]
  | cons c rest ih =>
      have behind : rest <:+ current.reverse ++ c :: rest :=
        (List.suffix_cons c rest).trans (List.suffix_append _ _)
      have later (further : word ∈ wordsFrom [] rest) : word <:+: current.reverse ++ c :: rest :=
        (ih [] further).trans behind.isInfix
      rw [wordsFrom] at member
      split at member
      · split at member
        · exact later member
        · rcases List.mem_cons.mp member with rfl | further
          · exact (List.prefix_append _ _).isInfix
          · exact later further
      · simpa using ih (c :: current) member

theorem words_within (text word : Text) (member : word ∈ text.words) : word <:+: text :=
  words_from_within [] text word member

end Text

namespace Boundary

theorem subject_inside (middle subject : Text) (found : subject? middle = some subject) :
    subject <:+: middle := by
  unfold subject? at found
  split at found
  · cases found
  · split at found
    · split at found
      · cases found
      · cases found
        exact List.nil_infix
    · split at found
      · cases found
      · cases found
        exact Text.trim_within middle

theorem header_within (kind : BlockKind) (text subject : Text) (found : headerOf? kind text = some subject) :
    subject <:+: text := by
  obtain ⟨behind, keyword, within⟩ := Option.bind_eq_some_iff.mp found
  obtain ⟨middle, before, inner⟩ := Option.bind_eq_some_iff.mp within
  rw [List.isPrefixOf?_eq_some_iff_append_eq] at keyword
  have trimmed : behind <:+: text := by
    refine List.IsInfix.trans ?_ (Text.trim_within text)
    exact ⟨kind.keyword, [], by simpa using keyword⟩
  have front : middle <:+: behind := ⟨[], "do".toList, (before_iff _ _ _).mp before⟩
  exact (subject_inside middle subject inner).trans (front.trans trimmed)

theorem condition_within (text predicate : Text) (found : condition? text = some predicate) :
    predicate <:+: text := by
  have front (ahead : Text) (before : before? "do".toList text = some ahead) : ahead <:+: text :=
    ⟨[], "do".toList, (before_iff _ _ _).mp before⟩
  unfold condition? at found
  obtain ⟨_, same⟩ := Option.ite_none_left_eq_some.mp found
  rw [← Option.some.inj same]
  split
  · rename_i ahead before
    split
    · have trimmed := Text.trim_end_prefix ahead
      exact trimmed.isInfix.trans (front ahead before)
    · exact List.infix_rfl
  · exact List.infix_rfl

theorem else_within (text predicate : Text) (found : elseClause? text = some (some predicate)) :
    predicate <:+: text := by
  obtain ⟨rest, keyword, within⟩ := Option.bind_eq_some_iff.mp found
  rw [List.isPrefixOf?_eq_some_iff_append_eq] at keyword
  have trimmed : rest <:+: text := by
    refine List.IsInfix.trans ?_ (Text.trim_within text)
    exact ⟨"else".toList, [], by simpa using keyword⟩
  dsimp only at within
  split at within
  · cases within
  · split at within
    · cases within
    · split at within
      · cases within
      · obtain ⟨behind, spelled, inner⟩ := Option.bind_eq_some_iff.mp within
        rw [List.isPrefixOf?_eq_some_iff_append_eq] at spelled
        have body : behind <:+: rest := by
          refine List.IsInfix.trans ?_ (Text.trim_start_suffix rest).isInfix
          exact ⟨"if".toList, [], by simpa using spelled⟩
        split at inner
        · obtain ⟨condition, read, same⟩ := Option.map_eq_some_iff.mp inner
          cases same
          have left := (Text.trim_start_suffix behind).isInfix
          exact (condition_within _ _ read).trans (left.trans (body.trans trimmed))
        · cases inner

end Boundary

def Command.Stands (text : Text) : Command → Prop
  | .print format | .assign _ format => format <:+: text
  | .loop predicate => Boundary.headerOf? .loop text = some predicate
  | .branch predicate => Boundary.headerOf? .branch text = some predicate
  | _ => True

namespace Statement

theorem operand_suffix (keyword text rest : Text) (found : operand? keyword text = some rest) :
    rest <:+ text := by
  rw [operand?, List.isPrefixOf?_eq_some_iff_append_eq] at found
  exact ⟨_, found⟩

theorem assignment_within (rest name format : Text) (found : assignment? rest = some (name, format)) :
    format <:+: rest := by
  unfold assignment? at found
  dsimp only at found
  split at found
  · cases found
  · split at found
    · cases found
      exact List.nil_infix
    · rename_i mark behind cut
      split at found
      · cases found
        have tail : behind <:+ rest.trimStart :=
          (List.suffix_cons mark behind).trans (cut ▸ List.dropWhile_suffix _)
        have line : (Text.cutAt '\n' behind).1 <+: behind := List.takeWhile_prefix _
        exact line.isInfix.trans (tail.trans (Text.trim_start_suffix rest)).isInfix
      · cases found

theorem header_subject_read (line : Line) (kind : BlockKind) (subject : Text)
    (reading : readHeader line kind = .ok subject) : Boundary.headerOf? kind line.text = some subject := by
  unfold readHeader at reading
  split at reading
  · cases reading
    assumption
  · cases reading

theorem map_ok {α β : Type} {result : Except Failure α} {change : α → β} {b : β}
    (done : result.map change = .ok b) : ∃ a, result = .ok a ∧ b = change a := by
  cases result with
  | error failure => cases done
  | ok a =>
      cases done
      exact ⟨a, rfl, rfl⟩

theorem call_stands (line : Line) (command : Command) (reading : readCall line = .ok command) :
    command.Stands line.text := by
  unfold readCall at reading
  split at reading
  · cases reading
  · split at reading
    · cases reading
    · cases reading
      trivial

theorem command_stands (line : Line) (command : Command) (reading : readCommand line = .ok command) :
    command.Stands line.text := by
  unfold readCommand at reading
  split at reading
  · obtain ⟨_, _, rfl⟩ := map_ok reading
    trivial
  split at reading
  · obtain ⟨_, _, rfl⟩ := map_ok reading
    trivial
  split at reading
  · obtain ⟨_, _, rfl⟩ := map_ok reading
    trivial
  split at reading
  · split at reading
    · cases reading
    · cases reading
      trivial
  split at reading
  · rename_i found
    cases reading
    exact (operand_suffix _ _ _ found).isInfix
  split at reading
  · obtain ⟨predicate, found, rfl⟩ := map_ok reading
    exact header_subject_read line .loop predicate found
  split at reading
  · obtain ⟨predicate, found, rfl⟩ := map_ok reading
    exact header_subject_read line .branch predicate found
  split at reading
  · cases found : readHeader line .function with
    | error failure =>
        rw [found] at reading
        cases reading
    | ok name =>
        rw [found] at reading
        change functionOf line name = _ at reading
        unfold functionOf at reading
        split at reading
        · cases reading
          trivial
        · cases reading
  split at reading
  · rename_i found
    split at reading
    · rename_i parts
      cases reading
      exact (assignment_within _ _ _ parts).trans (operand_suffix _ _ _ found).isInfix
    · cases reading
  · exact call_stands line command reading

end Statement

namespace Env

variable {one other : Env}

structure Peers (one other : Env) : Prop where
  values : ∀ name, one.store.read? one.path name = other.store.read? other.path name
  arguments : one.arguments = other.arguments

theorem fields_within (symbol : Char) (token left right : Text)
    (found : fields? symbol token = some (left, right)) : left <:+: token ∧ right <:+: token := by
  have whole := Text.cutAt_append symbol token
  unfold fields? at found
  split at found
  · cases found
  · rename_i front mark others cut
    cases found
    rw [cut] at whole
    have behind : others <:+ token := (List.suffix_cons mark others).trans ⟨left, whole⟩
    have inner : (Text.cutAt symbol others).1 <+: others := List.takeWhile_prefix _
    exact ⟨List.IsPrefix.isInfix ⟨_, whole⟩, inner.isInfix.trans behind.isInfix⟩

theorem operation_within (token : Text) (operators : List Operator) (operator : Operator)
    (left right : Text) (found : operation? token operators = some (operator, left, right)) :
    left <:+: token ∧ right <:+: token := by
  induction operators with
  | nil => cases found
  | cons first others ih =>
      unfold operation? at found
      split at found
      · rename_i cut
        cases found
        exact fields_within _ _ _ _ cut
      · exact ih found

theorem argument_peers (peers : one.Peers other) (token : Text) (marked : token.head? = some '#')
    (quiet : ¬token.AsksPath) : one.argumentAt token = other.argumentAt token := by
  obtain ⟨digits, rfl⟩ := List.head?_eq_some_iff.mp marked
  unfold argumentAt
  rw [List.tail_cons, peers.arguments]
  cases reading : Numeral.readIndex? digits with
  | error breakdown => rfl
  | ok index =>
      rcases index with _ | _ | index
      · rfl
      · exact absurd ⟨digits, reading, List.infix_rfl⟩ quiet
      · rfl

theorem resolve_peers (peers : one.Peers other) (strict : Bool) (token : Text)
    (quiet : ¬token.AsksPath) : one.resolve strict token = other.resolve strict token := by
  rw [resolve, resolve]
  by_cases marked : token.head? = some '#'
  · rw [if_pos marked, if_pos marked, argument_peers peers token marked quiet]
  · rw [if_neg marked, if_neg marked, peers.values]
    cases other.store.read? other.path token with
    | some value => rfl
    | none =>
        dsimp only
        split
        · rfl
        · rename_i operator left right found
          obtain ⟨before, behind⟩ := operation_within token Operator.all operator left right found
          have shorter := operation_shorter token Operator.all operator left right found
          rw [resolve_peers peers strict left (Text.quiet_part before quiet),
            resolve_peers peers strict right (Text.quiet_part behind quiet)]
termination_by token.length

theorem test_peers (peers : one.Peers other) (predicate : Text) (quiet : ¬predicate.AsksPath) :
    one.test predicate = other.test predicate := by
  unfold test
  cases parts : predicateParts predicate with
  | error fault => rfl
  | ok found =>
      obtain ⟨left, word, right⟩ := found
      have words : predicate.words = [left, word, right] := by
        unfold predicateParts at parts
        split at parts
        · cases parts
          assumption
        · cases parts
      have inside (operand : Text) (member : operand ∈ [left, word, right]) : ¬operand.AsksPath :=
        Text.quiet_part (Text.words_within predicate operand (words ▸ member)) quiet
      dsimp only
      unfold compare
      rw [resolve_peers peers false left (inside left (by simp)),
        resolve_peers peers false right (inside right (by simp))]

theorem expand_from_peers (peers : one.Peers other) (state : FormatState) (format : Text)
    (quiet : ¬format.AsksPath)
    (inner : ∀ characters, state = .operand characters → ¬Text.AsksPath (characters.reverse ++ format)) :
    one.expandFrom state format = other.expandFrom state format := by
  induction format generalizing state with
  | nil => cases state <;> rfl
  | cons c rest ih =>
      have behind : ¬Text.AsksPath rest := Text.quiet_part (List.suffix_cons c rest).isInfix quiet
      have plain (next : FormatState) (outside : ∀ characters, next ≠ .operand characters) :
          one.expandFrom next rest = other.expandFrom next rest :=
        ih next behind fun characters same => absurd same (outside characters)
      have escaped : one.expandFrom .escaped rest = other.expandFrom .escaped rest := by
        refine plain .escaped fun characters same => ?_
        cases same
      have onward : one.expandFrom .plain rest = other.expandFrom .plain rest := by
        refine plain .plain fun characters same => ?_
        cases same
      cases state with
      | plain =>
          have opened : one.expandFrom (.operand []) rest = other.expandFrom (.operand []) rest := by
            refine ih _ behind ?_
            rintro characters ⟨⟩
            exact behind
          rw [expandFrom, expandFrom, escaped, opened, onward]
      | escaped => rw [expandFrom, expandFrom, onward]
      | operand characters =>
          have whole := inner characters rfl
          have operand : ¬Text.AsksPath characters.reverse :=
            Text.quiet_part (List.prefix_append _ _).isInfix whole
          have longer : one.expandFrom (.operand (c :: characters)) rest =
              other.expandFrom (.operand (c :: characters)) rest := by
            refine ih _ behind ?_
            rintro _ ⟨⟩
            simpa using whole
          rw [expandFrom, expandFrom, longer, onward, span, span, resolve_peers peers true _ operand]

theorem expand_peers (peers : one.Peers other) (format : Text) (quiet : ¬format.AsksPath) :
    one.expand format = other.expand format :=
  expand_from_peers peers .plain format quiet nofun

theorem value_peers (peers : one.Peers other) (name : Text) : one.value name = other.value name := by
  unfold value Store.read
  rw [peers.values]

end Env

end BareBones
