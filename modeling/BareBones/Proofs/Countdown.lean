import BareBones.Proofs.Comparing
import BareBones.Proofs.Evaluation
import BareBones.Proofs.TopScope

set_option autoImplicit false

namespace BareBones

namespace Countdown

def raws : List Text :=
  ["function down do".toList, "    decr N".toList, "    if N gt 0 do".toList, "        down".toList,
    "    end".toList, "end".toList, "set N \x7b#1\x7d".toList, "down".toList, "debug N".toList]

section

variable (file : Text)

def function : Line := .verbatim file 1 "function down do".toList

def decrease : Line := .verbatim file 2 "decr N".toList

def clause : Line := .verbatim file 3 "if N gt 0 do".toList

def deeper : Line := .verbatim file 4 "down".toList

def clauseEnd : Line := .verbatim file 5 "end".toList

def functionEnd : Line := .verbatim file 6 "end".toList

def assignment : Line := .verbatim file 7 "set N \x7b#1\x7d".toList

def call : Line := .verbatim file 8 "down".toList

def debug : Line := .verbatim file 9 "debug N".toList

def block : Block :=
  ⟨BlockKind.function.keyword, (function file).location,
    [decrease file, clause file, deeper file, clauseEnd file], functionEnd file⟩

def counter (value : Value) : Scope :=
  ⟨[("N".toList, value)], [("down".toList, block file)]⟩

theorem lines_numbered (source : Text) (written : source.lines = raws) :
    Line.ofSource file source = [function file, decrease file, clause file, deeper file, clauseEnd file,
      functionEnd file, assignment file, call file, debug file] := by
  rw [Line.ofSource, written]
  rfl

theorem function_read :
    Statement.read (function file) = .ok ⟨(function file).location, .define "down".toList⟩ := rfl

theorem decrease_read :
    Statement.read (decrease file) = .ok ⟨(decrease file).location, .count .down "N".toList⟩ := rfl

theorem clause_read :
    Statement.read (clause file) = .ok ⟨(clause file).location, .branch "N gt 0".toList⟩ := rfl

theorem deeper_read :
    Statement.read (deeper file) = .ok ⟨(deeper file).location, .call "down".toList []⟩ := rfl

theorem assignment_read : Statement.read (assignment file) =
    .ok ⟨(assignment file).location, .assign "N".toList "\x7b#1\x7d".toList⟩ := rfl

theorem call_read : Statement.read (call file) = .ok ⟨(call file).location, .call "down".toList []⟩ := rfl

theorem debug_read : Statement.read (debug file) = .ok ⟨(debug file).location, .debug "N".toList⟩ := rfl

theorem block_read (rest : Cursor) :
    Block.read BlockKind.function.keyword (function file).location false
      (decrease file :: clause file :: deeper file :: clauseEnd file :: functionEnd file :: rest) =
        .ok (block file, rest) := rfl

theorem body_read :
    Block.read BlockKind.branch.keyword (clause file).location true [deeper file, clauseEnd file] =
      .ok (⟨BlockKind.branch.keyword, (clause file).location, [deeper file], clauseEnd file⟩, []) := rfl

end

inductive Descends {α : Type} (program file : Text) (limit height : Int) (written : List Text) (a : α) :
    Except Failure α × World → Prop
  | granted {after : World} (enough : height ≤ limit)
      (tops : after.store.Tops program (counter file (.int 0))) (silent : after.written = written) :
      Descends program file limit height written a (.ok a, after)
  | refused {failure : Failure} {after : World} (short : limit < height) (limited : ¬failure.Unlimited)
      (silent : after.written = written) :
      Descends program file limit height written a (.error failure, after)

section

open Nested (Ends Runs Follows ends_line ends_failed ends_over runs_launched runs_refused runs_at_once
  follows_body follows_failed follows_none)

variable {σ : Type} {settings : Settings σ} {limit : Int} {file program : Text} {here : Activation}
  {value : Value} {before middle : World} {height : Int} {written : List Text}

theorem line_ends (cursor : Cursor) {rest : Cursor} {line : Line} {done : Except Failure Cursor × World}
    (taking : Cursor.next? cursor = some (line, rest)) (runs : Runs settings here line rest before done)
    (outcome : Descends program file limit height written ([] : Cursor) done) :
    ∃ final, Ends settings here cursor before final ∧
      Descends program file limit height written () final := by
  cases outcome with
  | granted enough tops silent =>
      exact ⟨_, ends_line taking runs (ends_over rfl), .granted enough tops silent⟩
  | refused short limited silent => exact ⟨_, ends_failed taking runs, .refused short limited silent⟩

theorem spawn_runs {rest cursor left : Cursor} {line : Line} {body : Frame}
    {done : Except Failure Unit × World}
    (launched : Deed.launch settings here line rest before = (.ok (cursor, some body), middle))
    (completes : ∀ world, Deed.complete settings here cursor body.resume world = (.ok (left, none), world))
    (ends : Ends settings (body.activation (here.depth + 1)) body.cursor middle done)
    (outcome : Descends program file limit height written () done) :
    ∃ final, Runs settings here line rest before final ∧
      Descends program file limit height written left final := by
  cases outcome with
  | granted enough tops silent =>
      exact ⟨_, runs_launched launched (follows_body ends (completes _) (follows_none left _)),
        .granted enough tops silent⟩
  | refused short limited silent =>
      exact ⟨_, runs_launched launched (follows_failed ends), .refused short limited silent⟩

variable (settings file here before)

theorem decrease_runs {n : Int} (rest : Cursor) (terse : settings.verbose = false)
    (leads : [program] <+: here.path) (tops : before.store.Tops program (counter file value))
    (counts : value.integer? = .ok (some n)) :
    ∃ after, Runs settings here (decrease file) rest before (.ok rest, after) ∧
      after.store.Tops program (counter file (.int (n - 1))) ∧ after.written = before.written := by
  have launched := Deed.launch_count settings here (decrease file) rest .down "N".toList value n before terse
    (decrease_read file) (Store.tops_read "N".toList tops leads) counts
  exact ⟨_, runs_at_once launched, Store.tops_write "N".toList _ tops leads rfl, rfl⟩

theorem clause_tested (n : Int) (leads : [program] <+: here.path)
    (tops : before.store.Tops program (counter file (.int n))) :
    (here.env before).test "N gt 0".toList = .ok (decide (0 < n)) :=
  Env.test_digits (here.env before) "N".toList "gt".toList .gt 0 rfl rfl (by decide)
    (Store.tops_read "N".toList tops leads) rfl Numeral.zero_writable
    (Store.tops_read (Text.ofNat 0) tops leads)

def ClauseDescends (settings : Settings σ) (limit : Int) (program file : Text) (m : Nat) : Prop :=
  ∀ (here : Activation) (before : World), [program] <+: here.path →
    before.store.Tops program (counter file (.int m)) → here.depth ≤ limit → ∃ done,
      Runs (settings.limited limit) here (clause file) [deeper file, clauseEnd file] before done ∧
        Descends program file limit (here.depth + 2 * m) before.written ([] : Cursor) done

theorem block_ends {m : Nat} (terse : settings.verbose = false)
    (descends : ClauseDescends settings limit program file m) (leads : [program] <+: here.path)
    (tops : before.store.Tops program (counter file value))
    (counts : value.integer? = .ok (some ((m : Int) + 1))) (room : here.depth ≤ limit) :
    ∃ done, Ends (settings.limited limit) here (block file).body before done ∧
      Descends program file limit (here.depth + 2 * m) before.written () done := by
  obtain ⟨middle, decreases, lower, unwritten⟩ := decrease_runs (settings.limited limit) file here before
    [clause file, deeper file, clauseEnd file] terse leads tops counts
  rw [Int.add_sub_cancel] at lower
  obtain ⟨_, runs, outcome⟩ := descends here middle leads lower room
  rw [unwritten] at outcome
  obtain ⟨final, ends, whole⟩ := line_ends [clause file, deeper file, clauseEnd file] rfl runs outcome
  exact ⟨final, ends_line rfl decreases ends, whole⟩

theorem call_runs {m : Nat} {line : Line} (rest : Cursor) (terse : settings.verbose = false)
    (descends : ClauseDescends settings limit program file m)
    (reading : Statement.read line = .ok ⟨line.location, .call "down".toList []⟩)
    (leads : [program] <+: here.path) (tops : before.store.Tops program (counter file value))
    (counts : value.integer? = .ok (some ((m : Int) + 1))) :
    ∃ done, Runs (settings.limited limit) here line rest before done ∧
      Descends program file limit (here.depth + 1 + 2 * m) before.written rest done := by
  have found : before.store.function? here.path "down".toList = some (block file) :=
    Store.tops_function "down".toList tops leads
  by_cases room : (here.depth : Int) < limit
  · have allowed := (DepthLimit.allow_atMost limit here.depth line.location).mpr room
    have launched := Deed.launch_done (settings.limited limit) here line rest before terse reading
      (.called rfl found allowed)
    let spawned : World := { before.recorded here line.location (.call "down".toList []) with
      store := before.store.enter (here.path ++ ["down".toList]), created := before.created + 1 }
    obtain ⟨_, ends, outcome⟩ := block_ends settings file (here.inner before.created "down".toList [])
      spawned terse descends (leads.trans (List.prefix_append ..)) (Store.tops_enter _ tops) counts room
    exact spawn_runs launched (fun _ => rfl) ends outcome
  · have refused := DepthLimit.allow_full line.location (Int.not_lt.mp room)
    have failed := (Deed.launch_read (settings.limited limit) here line rest _ before terse reading).trans
      (Deed.call_refused found refused)
    exact ⟨_, runs_refused failed, .refused (by omega) (DepthLimit.refusal_limited limit _) rfl⟩

theorem clause_descends (m : Nat) (terse : settings.verbose = false) :
    ClauseDescends settings limit program file m := by
  induction m with
  | zero =>
      intro here before leads tops room
      let recorded := before.recorded here (clause file).location (.branch "N gt 0".toList)
      have passes := Deed.choose_passed here recorded (body_read file) rfl
        (clause_tested file here before 0 leads tops)
      have launched := Deed.launch_done (settings.limited limit) here (clause file) _ before terse
        (clause_read file) (.passed rfl passes)
      exact ⟨_, runs_at_once launched, .granted (by omega) tops rfl⟩
  | succ m ih =>
      intro here before leads tops _
      have tested : (here.env before).test "N gt 0".toList = .ok true := by
        rw [clause_tested file here before _ leads tops, decide_eq_true (by omega)]
      let recorded := before.recorded here (clause file).location (.branch "N gt 0".toList)
      have chosen := Deed.choose_taken here recorded (body_read file) tested
      by_cases room : (here.depth : Int) < limit
      · have allowed := (DepthLimit.allow_atMost limit here.depth (clause file).location).mpr room
        have launched := Deed.launch_done (settings.limited limit) here (clause file) _ before terse
          (clause_read file) (.branched rfl chosen allowed)
        let label := Machine.blockLabel .branch (clause file).location
        let inner := here.inner before.created label here.arguments
        let spawned : World := { recorded with
          store := before.store.enter (here.path ++ [label]), created := before.created + 1 }
        obtain ⟨_, runs, called⟩ := call_runs settings file inner spawned [] terse ih
          (deeper_read file) (leads.trans (List.prefix_append ..)) (Store.tops_enter _ tops) rfl
        -- One frame for the branch, and one for the call in it.
        have height : (inner.depth : Int) + 1 + 2 * m = here.depth + 2 * (m + 1 : Nat) := by
          change ((here.depth + 1 : Nat) : Int) + 1 + 2 * m = _
          omega
        rw [height] at called
        obtain ⟨_, ends, outcome⟩ := line_ends [deeper file] rfl runs called
        exact spawn_runs launched (fun _ => rfl) ends outcome
      · have refused := DepthLimit.allow_full (clause file).location (Int.not_lt.mp room)
        have failed := (Deed.launch_read (settings.limited limit) here (clause file) _ _ before terse
          (clause_read file)).trans (Deed.branch_refused chosen refused)
        exact ⟨_, runs_refused failed, .refused (by omega) (DepthLimit.refusal_limited limit _) rfl⟩

inductive Counts (limit : Int) (n : Nat) : Except Failure Unit × World → Prop
  | granted {after : World} (enough : 2 * n ≤ limit) (shown : after.written = ["N=0".toList]) :
      Counts limit n (.ok (), after)
  | refused {failure : Failure} {after : World} (short : limit < 2 * n) (limited : ¬failure.Unlimited)
      (silent : after.written = []) : Counts limit n (.error failure, after)

theorem function_runs (rest : Cursor) (terse : settings.verbose = false) (home : here.path = [program])
    (tops : before.store.Tops program .empty) :
    ∃ after, Runs settings here (function file)
        (decrease file :: clause file :: deeper file :: clauseEnd file :: functionEnd file :: rest) before
        (.ok rest, after) ∧
      after.store.Tops program ⟨[], [("down".toList, block file)]⟩ ∧ after.written = before.written := by
  have launched := Deed.launch_done settings here (function file) _ before terse (function_read file)
    (.defined rfl (block_read file rest))
  exact ⟨_, runs_at_once launched, Store.tops_define "down".toList (block file) tops home, rfl⟩

theorem assignment_runs {argument : Text} (rest : Cursor) (terse : settings.verbose = false)
    (home : here.path = [program]) (passed : here.arguments.head? = some argument)
    (tops : before.store.Tops program ⟨[], [("down".toList, block file)]⟩) :
    ∃ after, Runs settings here (assignment file) rest before (.ok rest, after) ∧
      after.store.Tops program (counter file (.text argument)) ∧ after.written = before.written := by
  have expands : (here.env before).expand "\x7b#1\x7d".toList = .ok argument := by
    have first : here.arguments.getD 0 [] = argument := by
      rw [List.getD_eq_getElem?_getD, ← List.head?_eq_getElem?, passed]
      rfl
    rw [← first]
    exact Env.expand_argument (here.env before) "#1".toList 0 (by decide) rfl rfl
  have launched := Deed.launch_assign settings here (assignment file) rest "N".toList _ argument before terse
    (assignment_read file) expands
  exact ⟨_, runs_at_once launched, Store.tops_assign "N".toList _ tops home, rfl⟩

theorem debug_runs (rest : Cursor) (terse : settings.verbose = false) (leads : [program] <+: here.path)
    (tops : before.store.Tops program (counter file (.int 0))) :
    ∃ after, Runs settings here (debug file) rest before (.ok rest, after) ∧
      after.written = "N=0".toList :: before.written := by
  have launched := Deed.launch_debug settings here (debug file) rest "N".toList _ (.int 0) before terse
    (debug_read file) (Store.tops_read "N".toList tops leads) (Numeral.write_short Numeral.zero_writable)
  exact ⟨_, runs_at_once launched, rfl⟩

theorem program_ends (limit : Int) {n : Nat} (terse : settings.verbose = false) (positive : 1 ≤ n)
    (short : Numeral.isWritable n = true) (home : here.path = [program]) (alone : here.depth = 1)
    (passed : here.arguments.head? = some (Text.ofNat n)) (tops : before.store.Tops program .empty)
    (unwritten : before.written = []) :
    ∃ done, Ends (settings.limited limit) here [function file, decrease file, clause file, deeper file,
      clauseEnd file, functionEnd file, assignment file, call file, debug file] before done ∧
        Counts limit n done := by
  obtain ⟨defined, defines, known, first⟩ := function_runs (settings.limited limit) file here before
    [assignment file, call file, debug file] terse home tops
  obtain ⟨assigned, assigns, bound, second⟩ := assignment_runs (settings.limited limit) file here defined
    [call file, debug file] terse home passed known
  have silent := second.trans (first.trans unwritten)
  obtain ⟨m, rfl⟩ : ∃ m, n = m + 1 := ⟨n - 1, by omega⟩
  have leads : [program] <+: here.path := home ▸ List.prefix_rfl
  have reads : Numeral.read? (Text.ofNat (m + 1)) = .ok (some ((m : Int) + 1)) :=
    Numeral.read_of_int (m + 1 : Nat) short
  obtain ⟨done, runs, outcome⟩ := call_runs settings file here assigned [debug file] terse
    (clause_descends settings file m terse) (call_read file) leads bound reads
  rw [alone] at outcome
  cases outcome with
  | @granted after enough ended quiet =>
      obtain ⟨last, shows, shown⟩ := debug_runs (settings.limited limit) file here after [] terse leads
        ended
      refine ⟨_, ends_line rfl defines (ends_line rfl assigns (ends_line rfl runs (ends_line rfl shows
        (ends_over rfl)))), .granted (by omega) ?_⟩
      rw [shown, quiet, silent]
  | refused overstepped limited quiet =>
      exact ⟨_, ends_line rfl defines (ends_line rfl assigns (ends_failed rfl runs)),
        .refused (by omega) limited (quiet.trans silent)⟩

end
end Countdown

namespace Machine

variable {σ : Type}

end Machine
end BareBones
