import BareBones.Proofs.Comparing
import BareBones.Proofs.Evaluation
import BareBones.Proofs.TopScope

set_option autoImplicit false

namespace BareBones

namespace Pouring

def raws (n : Nat) : List Text :=
  ["set X ".toList ++ Text.ofNat n, "clear N".toList, "while X not 0 do".toList, "decr X".toList,
    "incr N".toList, "end".toList, "debug X".toList, "debug N".toList]

section

variable (file : Text)

def assignment (n : Nat) : Line := .verbatim file 1 ("set X ".toList ++ Text.ofNat n)

def clear : Line := .verbatim file 2 "clear N".toList

def header : Line := .verbatim file 3 "while X not 0 do".toList

def decrease : Line := .verbatim file 4 "decr X".toList

def increase : Line := .verbatim file 5 "incr N".toList

def ender : Line := .verbatim file 6 "end".toList

def debugSource : Line := .verbatim file 7 "debug X".toList

def debugTarget : Line := .verbatim file 8 "debug N".toList

def statement : Statement := ⟨(header file).location, .loop "X not 0".toList⟩

def block : Block :=
  ⟨BlockKind.loop.keyword, (header file).location, [decrease file, increase file], ender file⟩

theorem lines_numbered (n : Nat) (source : Text) (written : source.lines = raws n) :
    Line.ofSource file source = [assignment file n, clear file, header file, decrease file, increase file,
      ender file, debugSource file, debugTarget file] := by
  have kept : Line.withoutComment ("set X ".toList ++ Text.ofNat n) = "set X ".toList ++ Text.ofNat n := by
    rw [Line.comment_behind _ _ (by decide) (by decide), ← Env.decimal_escaped, Text.comment_escaped]
  rw [Line.ofSource, written, raws, Line.numbered, Line.of_raw_kept file 1 _ rfl kept]
  rfl

theorem assignment_read (n : Nat) : Statement.read (assignment file n) =
    .ok ⟨(assignment file n).location, .assign "X".toList (Text.ofNat n)⟩ := by
  have unbroken : '\n' ∉ (Command.assign "X".toList (Text.ofNat n)).render := by
    change '\n' ∉ "set X ".toList ++ Text.ofNat n
    rw [List.mem_append, not_or]
    exact ⟨by decide, fun digit => Bool.false_ne_true (Text.of_nat_digits n '\n' digit)⟩
  have word : Text.IsWord "X".toList := ⟨by decide, Text.solid_all _ rfl⟩
  exact Statement.render_read _ (.assign "X".toList (Text.ofNat n)) word unbroken

theorem clear_read : Statement.read (clear file) = .ok ⟨(clear file).location, .clear "N".toList⟩ := rfl

theorem header_read :
    Statement.read (header file) = .ok ⟨(header file).location, .loop "X not 0".toList⟩ := rfl

theorem decrease_read :
    Statement.read (decrease file) = .ok ⟨(decrease file).location, .count .down "X".toList⟩ := rfl

theorem increase_read :
    Statement.read (increase file) = .ok ⟨(increase file).location, .count .up "N".toList⟩ := rfl

theorem source_read :
    Statement.read (debugSource file) = .ok ⟨(debugSource file).location, .debug "X".toList⟩ := rfl

theorem target_read :
    Statement.read (debugTarget file) = .ok ⟨(debugTarget file).location, .debug "N".toList⟩ := rfl

theorem block_read (rest : Cursor) :
    Block.read BlockKind.loop.keyword (header file).location false
      (decrease file :: increase file :: ender file :: rest) = .ok (block file, rest) := rfl

theorem header_label : Machine.blockLabel .loop (header file).location = "while_3".toList := by
  change BlockKind.loop.keyword ++ "_".toList ++ Text.ofInt 3 = _
  decide

end

def pair (source : Value) (target : Int) : Scope :=
  ⟨[("X".toList, source), ("N".toList, .int target)], []⟩

structure Works (program : Text) (scope : Scope) (steps created : Nat) (before after : World) : Prop where
  tops : after.store.Tops program scope
  steps : after.journal.steps = before.journal.steps + steps
  created : after.created = before.created + created
  silent : after.written = before.written
  scopes : ∀ path, (before.store.scopeAt? path).isSome → (after.store.scopeAt? path).isSome

structure Shows (text : Text) (before after : World) : Prop where
  store : after.store = before.store
  steps : after.journal.steps = before.journal.steps + 1
  created : after.created = before.created
  written : after.written = text :: before.written

section

open Nested (Ends Runs Follows ends_line ends_over runs_launched runs_at_once follows_body follows_none)

variable {σ : Type} {settings : Settings σ} {file program : Text} {here : Activation} {source : Value}
  {target : Int} {before middle after : World}

theorem works_after {scope final : Scope} {steps created more further : Nat}
    (first : Works program scope steps created before middle)
    (second : Works program final more further middle after) :
    Works program final (steps + more) (created + further) before after where
  tops := second.tops
  steps := by rw [second.steps, first.steps, Nat.add_assoc]
  created := by rw [second.created, first.created, Nat.add_assoc]
  silent := second.silent.trans first.silent
  scopes path present := second.scopes path (first.scopes path present)

theorem write_works {location : Location} {command : Command} {name : Text} {value : Value} {scope : Scope}
    (tops : (before.store.write here.path name value).Tops program scope) :
    Works program scope 1 0 before { before.recorded here location command with
      store := before.store.write here.path name value } where
  tops := tops
  steps := rfl
  created := rfl
  silent := rfl
  scopes path := Machine.stored_grows (.written name value rfl) path

variable (settings file here before)

theorem count_runs {line : Line} {direction : Direction} {name : Text} (value : Value) {scope : Scope} {n : Int}
    (rest : Cursor) (terse : settings.verbose = false)
    (reading : Statement.read line = .ok ⟨line.location, .count direction name⟩)
    (leads : [program] <+: here.path) (tops : before.store.Tops program scope)
    (bound : scope.values.get? name = some value) (counts : value.integer? = .ok (some n)) :
    ∃ after, Runs settings here line rest before (.ok rest, after) ∧
      Works program (scope.assign name (.int (n + direction.delta))) 1 0 before after := by
  have launched := Deed.launch_count settings here line rest direction name value n before terse reading
    ((Store.tops_read name tops leads).trans bound) counts
  have isBound : scope.values.isBound name = true := by
    rw [Bindings.isBound, bound]
    rfl
  exact ⟨_, runs_at_once launched, write_works (Store.tops_write name _ tops leads isBound)⟩

theorem block_ends {m : Nat} (terse : settings.verbose = false) (leads : [program] <+: here.path)
    (tops : before.store.Tops program (pair source target))
    (counts : source.integer? = .ok (some ((m + 1 : Nat) : Int))) :
    ∃ after, Ends settings here (block file).body before (.ok (), after) ∧
      Works program (pair (.int m) (target + 1)) 2 0 before after := by
  obtain ⟨lowered, decreases, first⟩ := count_runs settings here before source [increase file] terse
    (decrease_read file) leads tops rfl counts
  obtain ⟨raised, increases, second⟩ := count_runs settings here lowered (.int target) [] terse
    (increase_read file) leads first.tops rfl rfl
  have fewer : ((m + 1 : Nat) : Int) + Direction.down.delta = m := by
    change ((m + 1 : Nat) : Int) + -1 = m
    omega
  have works := works_after first second
  rw [fewer] at works
  exact ⟨raised, ends_line rfl decreases (ends_line rfl increases (ends_over rfl)), works⟩

theorem header_tested {n : Int} (leads : [program] <+: here.path)
    (tops : before.store.Tops program (pair source target)) (counts : source.integer? = .ok (some n)) :
    (here.env before).test "X not 0".toList = .ok (n != 0) :=
  Env.test_digits (here.env before) "X".toList "not".toList .ne 0 rfl rfl (by decide)
    (Store.tops_read "X".toList tops leads) counts Numeral.zero_writable
    (Store.tops_read (Text.ofNat 0) tops leads)

theorem round_works {m : Nat} (tops : before.store.Tops program (pair source target))
    (works : Works program (pair (.int m) (target + 1)) 2 0
      { before with created := before.created + 1 } middle)
    (others : Works program (pair (if m = 0 then .int m else .int 0) (target + 1 + m)) (2 * m) m
      { middle with journal := middle.journal.forget before.created } after) :
    Works program (pair (.int 0) (target + (m + 1 : Nat))) (2 * (m + 1)) (m + 1) before after := by
  have enters : Works program (pair source target) 0 1 before
      { before with created := before.created + 1 } := ⟨tops, rfl, rfl, rfl, fun _ present => present⟩
  have leaves : Works program (pair (.int m) (target + 1)) 0 0 middle
      { middle with journal := middle.journal.forget before.created } :=
    ⟨works.tops, rfl, rfl, rfl, fun _ present => present⟩
  have whole := works_after enters (works_after works (works_after leaves others))
  have emptied : (if m = 0 then Value.int m else .int 0) = .int 0 := by
    split
    · rename_i none
      rw [none, Int.natCast_zero]
    · rfl
  have sum : target + 1 + m = target + (m + 1 : Nat) := by omega
  have steps : 0 + (2 + (0 + 2 * m)) = 2 * (m + 1) := by omega
  have frames : 1 + (0 + (0 + m)) = m + 1 := by omega
  rwa [emptied, sum, steps, frames] at whole

theorem rounds_follow (m : Nat) (left : Cursor) (terse : settings.verbose = false)
    (allowed : settings.maxDepth.allow here.depth (header file).location = .ok ())
    (leads : [program] <+: here.path) (tops : before.store.Tops program (pair source target))
    (counts : source.integer? = .ok (some (m : Int))) :
    ∃ next middle after,
      Deed.round settings here (statement file) "X not 0".toList (block file) before = (.ok next, middle) ∧
      Follows settings here (left, next) middle (.ok left, after) ∧
      Works program (pair (if m = 0 then source else .int 0) (target + m)) (2 * m) m before after := by
  induction m generalizing source target before with
  | zero =>
      have fails := Deed.evaluate_answered here (header file).location (·.test "X not 0".toList) before false
        (header_tested here before leads tops counts)
      refine ⟨none, before, before, Deed.round_done (.stopped fails), follows_none left before, ?_⟩
      rw [if_pos rfl, Int.natCast_zero, Int.add_zero]
      exact ⟨tops, rfl, rfl, rfl, fun _ present => present⟩
  | succ m ih =>
      have proper : (((m + 1 : Nat) : Int) != 0) = true := by simp; omega
      have succeeds := Deed.evaluate_answered here (header file).location (·.test "X not 0".toList) before true
        ((header_tested here before leads tops counts).trans (congrArg Except.ok proper))
      let label := Machine.blockLabel .loop (header file).location
      let spawned : World := { before with created := before.created + 1 }
      obtain ⟨poured, ends, works⟩ := block_ends settings file
        (here.inner before.created label here.arguments) spawned terse (leads.trans (List.prefix_append ..))
        tops counts
      let gone : World := { poured with journal := poured.journal.forget before.created }
      obtain ⟨next, middle, after, again, follows, others⟩ := ih gone works.tops rfl
      have completes : Deed.complete settings here left
          (some (.loop (statement file) "X not 0".toList (block file))) gone = (.ok (left, next), middle) :=
        Deed.bind_done again
      refine ⟨_, spawned, after, Deed.round_done (.again succeeds allowed), follows_body ends completes follows,
        ?_⟩
      rw [if_neg (Nat.succ_ne_zero m)]
      exact round_works before tops works others

theorem header_runs {n : Nat} (rest : Cursor) (terse : settings.verbose = false)
    (allowed : settings.maxDepth.allow here.depth (header file).location = .ok ())
    (leads : [program] <+: here.path) (tops : before.store.Tops program (pair source target))
    (counts : source.integer? = .ok (some (n : Int))) :
    ∃ after, Runs settings here (header file) (decrease file :: increase file :: ender file :: rest) before
        (.ok rest, after) ∧
      Works program (pair (if n = 0 then source else .int 0) (target + n)) (2 * n + 1) n before after ∧
      (after.store.scopeAt? (here.path ++ [Machine.blockLabel .loop (header file).location])).isSome := by
  let path := here.path ++ [Machine.blockLabel .loop (header file).location]
  let recorded := before.recorded here (header file).location (.loop "X not 0".toList)
  let entered : World := { recorded with store := before.store.enter path }
  obtain ⟨next, middle, after, rounded, follows, works⟩ := rounds_follow settings file here entered n rest terse
    allowed leads (Store.tops_enter path tops) counts
  have launched := Deed.launch_done settings here (header file) _ before terse (header_read file)
    (.looped rfl (block_read file rest) (Deed.round_answers rounded))
  have entering : Stored here.path false before.store entered.store := .entered _
  have enters : Works program (pair source target) 1 0 before entered := {
    tops := Store.tops_enter path tops
    steps := rfl
    created := rfl
    silent := rfl
    scopes := Machine.stored_grows entering }
  have whole := works_after enters works
  rw [Nat.add_comm 1, Nat.zero_add] at whole
  exact ⟨after, runs_launched launched follows, whole,
    works.scopes path (Store.scope_at_enter before.store path)⟩

theorem assignment_runs (n : Nat) (rest : Cursor) (terse : settings.verbose = false)
    (home : here.path = [program]) (tops : before.store.Tops program .empty) :
    ∃ after, Runs settings here (assignment file n) rest before (.ok rest, after) ∧
      Works program ⟨[("X".toList, .text (Text.ofNat n))], []⟩ 1 0 before after := by
  have expands : (here.env before).expand (Text.ofNat n) = .ok (Text.ofNat n) := by
    have whole := Env.expand_escaped (here.env before) (Text.ofNat n)
    rwa [Env.decimal_escaped] at whole
  have launched := Deed.launch_assign settings here (assignment file n) rest "X".toList _ _ before terse
    (assignment_read file n) expands
  exact ⟨_, runs_at_once launched, write_works (Store.tops_assign "X".toList _ tops home)⟩

theorem clear_runs (rest : Cursor) (terse : settings.verbose = false) (home : here.path = [program])
    (tops : before.store.Tops program ⟨[("X".toList, source)], []⟩) :
    ∃ after, Runs settings here (clear file) rest before (.ok rest, after) ∧
      Works program (pair source 0) 1 0 before after := by
  have launched := Deed.launch_clear settings here (clear file) rest "N".toList before terse
    (clear_read file)
  exact ⟨_, runs_at_once launched, write_works (Store.tops_assign "N".toList _ tops home)⟩

theorem debug_runs {line : Line} {name text : Text} {value : Value} {scope : Scope} (rest : Cursor)
    (terse : settings.verbose = false) (reading : Statement.read line = .ok ⟨line.location, .debug name⟩)
    (leads : [program] <+: here.path) (tops : before.store.Tops program scope)
    (bound : scope.values.get? name = some value) (writes : value.written = .ok text) :
    ∃ after, Runs settings here line rest before (.ok rest, after) ∧
      Shows (name ++ "=".toList ++ text) before after := by
  have launched := Deed.launch_debug settings here line rest name text value before terse reading
    ((Store.tops_read name tops leads).trans bound) writes
  exact ⟨_, runs_at_once launched, rfl, rfl, rfl, rfl⟩

theorem drained_written (n : Nat) :
    (if n = 0 then Value.text (Text.ofNat n) else .int 0).written = .ok "0".toList := by
  split
  · rename_i none
    rw [none]
    rfl
  · exact Numeral.write_short Numeral.zero_writable

structure Pours (program : Text) (n : Nat) (before after : World) : Prop where
  written : after.written = ("N=".toList ++ Text.ofNat n) :: "X=0".toList :: before.written
  steps : after.journal.steps = before.journal.steps + (2 * n + 5)
  created : after.created = before.created + n
  bare : after.store.scopeAt? [program, "while_3".toList] = some .empty

theorem program_ends (n : Nat) (terse : settings.verbose = false) (home : here.path = [program])
    (short : Numeral.isWritable n = true)
    (allowed : settings.maxDepth.allow here.depth (header file).location = .ok ())
    (tops : before.store.Tops program .empty) :
    ∃ after, Ends settings here [assignment file n, clear file, header file, decrease file, increase file,
        ender file, debugSource file, debugTarget file] before (.ok (), after) ∧
      Pours program n before after := by
  have leads : [program] <+: here.path := home ▸ List.prefix_rfl
  obtain ⟨assigned, assigns, first⟩ := assignment_runs settings file here before n [clear file,
    header file, decrease file, increase file, ender file, debugSource file, debugTarget file] terse home tops
  obtain ⟨cleared, clears, second⟩ := clear_runs settings file here assigned [header file,
    decrease file, increase file, ender file, debugSource file, debugTarget file] terse home first.tops
  obtain ⟨poured, loops, third, present⟩ := header_runs settings file here cleared [debugSource file, debugTarget file]
    terse allowed leads second.tops (Numeral.read_of_int n short)
  have works := works_after first (works_after second third)
  have writes : (Value.int (0 + n)).written = .ok (Text.ofNat n) := by
    rw [Int.zero_add]
    exact Numeral.write_short short
  obtain ⟨shown, shows, one⟩ := debug_runs settings here poured [debugTarget file] terse (source_read file)
    leads third.tops rfl (drained_written n)
  have kept : shown.store.Tops program
      (pair (if n = 0 then .text (Text.ofNat n) else .int 0) (0 + n)) := by
    rw [one.store]
    exact third.tops
  obtain ⟨after, ends, other⟩ := debug_runs settings here shown [] terse (target_read file) leads kept
    rfl writes
  refine ⟨after, ends_line rfl assigns (ends_line rfl clears (ends_line rfl loops (ends_line rfl shows
    (ends_line rfl ends (ends_over rfl))))), ?_, ?_, ?_, ?_⟩
  · rw [other.written, one.written, works.silent]
    rfl
  · rw [other.steps, one.steps, works.steps]
    omega
  · rw [other.created, one.created, works.created]
    omega
  · obtain ⟨scope, found⟩ := Option.isSome_iff_exists.mp present
    rw [home, header_label] at found
    have bare := third.tops.bare ["while_3".toList] scope (List.cons_ne_nil _ _) found
    rw [other.store, one.store, ← bare]
    exact found

end
end Pouring

namespace Machine

variable {σ : Type}

theorem loop_pours (settings : Settings σ) (source : Text) (capacity : Nat) (host : σ) (n : Nat) (limit : Int)
    (unobserved : settings.Unobserved) (terse : settings.verbose = false)
    (written : source.lines = Pouring.raws n) (short : Numeral.isWritable n = true) (room : 2 ≤ limit) :
    ∃ last, Yields (trial (settings.limited limit) source capacity host) (.ok (), last) ∧
      last.output = ["X=0".toList, "N=".toList ++ Text.ofNat n] ∧ last.journal.steps = 2 * n + 5 ∧
      last.created = n + 1 ∧ ∃ scope,
        last.store.scopeAt? [settings.program, "while_3".toList] = some scope ∧ scope.values = [] := by
  have allowed := (DepthLimit.allow_atMost limit 1 (Pouring.header settings.filename).location).mpr room
  obtain ⟨after, ends, pours⟩ := Pouring.program_ends (settings.limited limit) settings.filename
    (surface settings) ⟨Store.empty.enter [settings.program], .empty capacity, 1, []⟩ n terse rfl short allowed
    (Store.tops_begun settings.program)
  rw [← Pouring.lines_numbered settings.filename n source written] at ends
  obtain ⟨last, yields, rfl⟩ := trial_ends source capacity host (limited_unobserved limit unobserved) ends
  refine ⟨last, yields, congrArg List.reverse pours.written, ?_, ?_, .empty, pours.bare, rfl⟩
  · exact pours.steps.trans (Nat.zero_add _)
  · exact pours.created.trans (Nat.add_comm 1 n)

def pouring : Text :=
  Text.join "\n".toList (Pouring.raws 3)

theorem loop_pours_three : quiet.Unobserved ∧ quiet.verbose = false ∧ pouring.lines = Pouring.raws 3 ∧
    Numeral.isWritable (3 : Nat) = true ∧ (2 : Int) ≤ 2 ∧
    ∃ last, Yields (trial (quiet.limited 2) pouring 5 ()) (.ok (), last) ∧
      last.output = ["X=0".toList, "N=3".toList] ∧ last.journal.steps = 11 ∧ last.created = 4 ∧
      ∃ scope, last.store.scopeAt? [quiet.program, "while_3".toList] = some scope ∧ scope.values = [] := by
  have lines : pouring.lines = Pouring.raws 3 := by decide +kernel
  have short : Numeral.isWritable (3 : Nat) = true := Numeral.digit_writable 3 (by decide)
  exact ⟨quiet_unobserved, rfl, lines, short, by decide,
    loop_pours quiet pouring 5 () 3 2 quiet_unobserved rfl lines short (by decide)⟩

end Machine
end BareBones
