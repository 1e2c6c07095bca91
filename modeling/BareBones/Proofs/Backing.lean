import BareBones.Proofs.Balance
import BareBones.Proofs.Carving
import Mathlib.Data.List.TakeWhile

set_option autoImplicit false

namespace BareBones

namespace Block

def Backed (lines : List Line) : Prop :=
  ∀ tail, tail <:+ lines → surplus tail ≤ 0

inductive Leg (cursor : Cursor) : Cursor → Prop
  | first : Leg cursor cursor
  | later {place : Cursor} {carving : Carving} (before : Leg cursor place)
      (carved : carveFrom true 0 place = some carving)
      (stops : Boundary.isElse carving.terminator.text = true) : Leg cursor carving.after

section

variable {line : Line} {lines rest tail : List Line} {cursor left : Cursor}

theorem backed_suffix (backed : Backed lines) (behind : tail <:+ lines) : Backed tail :=
  fun last ends => backed last (ends.trans behind)

theorem surplus_blank (blank : line.isBlank = true) : surplus [line] = 0 := by
  have start : line.text.trimStart = [] := List.dropWhile_eq_nil_iff.mpr (List.all_eq_true.mp blank)
  have trimmed : line.text.trim = [] := by
    rw [Text.trim, start]
    rfl
  have plain : Boundary.isHeader line.text = false := by
    unfold Boundary.isHeader Boundary.headerOf?
    rw [trimmed]
    decide
  have going : Boundary.isEnd line.text = false := by
    rw [Boundary.isEnd, trimmed]
    decide
  exact surplus_plain plain going

theorem surplus_solid (lines : List Line) : surplus (lines.filter (!Line.isBlank ·)) = surplus lines := by
  induction lines with
  | nil => rfl
  | cons line rest ih =>
      cases blank : line.isBlank with
      | true =>
          rw [List.filter_cons_of_neg (by simp [blank]), surplus_cons line rest, surplus_blank blank, ih,
            Int.zero_add]
      | false =>
          rw [List.filter_cons_of_pos (by simp [blank]), surplus_cons line rest, ← ih]
          exact surplus_cons line _

theorem surplus_else (clause : Boundary.isElse line.text = true) : surplus [line] = 0 :=
  surplus_plain (Boundary.else_no_header line.text clause) (Boundary.else_no_end line.text clause)

theorem next_suffix (taking : Cursor.next? cursor = some (line, rest)) :
    line :: rest <:+ cursor ∧ surplus (line :: rest) = surplus cursor := by
  induction cursor with
  | nil => cases taking
  | cons first others ih =>
      cases blank : first.isBlank with
      | true =>
          rw [Cursor.next_blank first others blank] at taking
          obtain ⟨behind, same⟩ := ih taking
          refine ⟨behind.trans (List.suffix_cons first others), same.trans ?_⟩
          rw [surplus_cons first others, surplus_blank blank, Int.zero_add]
      | false =>
          rw [Cursor.next_solid first others blank] at taking
          cases taking
          exact ⟨List.suffix_rfl, rfl⟩

theorem opened_backed (backed : Backed cursor) (taking : Cursor.next? cursor = some (line, rest))
    (header : Boundary.isHeader line.text = true) : surplus rest < 0 := by
  have bound := backed (line :: rest) (next_suffix taking).1
  rw [surplus_cons line rest, surplus_header header] at bound
  omega

theorem carve_total (elseEnds : Bool) (depth : Nat) (lines : List Line) (ends : depth + surplus lines < 0) :
    ∃ carving, carveFrom elseEnds depth lines = some carving := by
  induction lines generalizing depth with
  | nil =>
      simp only [surplus, List.countP_nil] at ends
      omega
  | cons line rest ih =>
      have whole := surplus_cons line rest
      have meets := carve_meets elseEnds depth line rest
      generalize carveFrom elseEnds depth (line :: rest) = result at meets
      cases meets with
      | blank blank =>
          rw [whole, surplus_blank blank] at ends
          exact ih depth (by omega)
      | stop solid closed bounds => exact ⟨_, rfl⟩
      | @inner deeper solid going counted =>
          obtain ⟨carving, carved⟩ := ih deeper (by omega)
          exact ⟨carving.prepend line, by rw [carved]; rfl⟩

theorem carved_backed {elseEnds : Bool} {carving : Carving} (made : Carved elseEnds 0 carving) :
    Backed carving.body := by
  rintro tail ⟨front, whole⟩
  have level := made.closed
  have lower := made.fronts front ⟨tail, whole⟩
  rw [← whole, surplus_append] at level
  omega

theorem carve_behind {elseEnds : Bool} {carving : Carving} (carved : carveFrom elseEnds 0 cursor = some carving) :
    carving.terminator :: carving.after <:+ cursor ∧
      (Boundary.isElse carving.terminator.text = true → surplus carving.after = surplus cursor) := by
  obtain ⟨front, whole, body⟩ := carve_split elseEnds 0 cursor carving carved
  refine ⟨⟨front, whole.symm⟩, fun clause => ?_⟩
  have level : surplus front = 0 := by
    rw [← surplus_solid, body]
    simpa using (carve_carved elseEnds 0 cursor carving carved).closed
  rw [whole, surplus_append, level, surplus_cons carving.terminator carving.after, surplus_else clause,
    Int.zero_add, Int.zero_add]

theorem read_behind {keyword : Text} {header : Location} {elseEnds : Bool} {block : Block}
    (reading : read keyword header elseEnds cursor = .ok (block, left)) :
    Backed block.body ∧ left <:+ cursor := by
  rw [read_carves] at reading
  cases carved : carveFrom elseEnds 0 cursor with
  | none =>
      rw [carved] at reading
      cases reading
  | some carving =>
      rw [carved] at reading
      cases reading
      have behind := (carve_behind carved).1
      refine ⟨carved_backed (carve_carved elseEnds 0 cursor carving carved), ?_⟩
      split
      · exact behind
      · exact (List.suffix_cons _ _).trans behind

theorem read_total (keyword : Text) (header : Location) (elseEnds : Bool) (ends : surplus cursor < 0) :
    ∃ block left, read keyword header elseEnds cursor = .ok (block, left) := by
  obtain ⟨carving, carved⟩ := carve_total elseEnds 0 cursor (by simpa using ends)
  rw [read_carves, carved]
  exact ⟨_, _, rfl⟩

theorem leg_surplus {place : Cursor} (leg : Leg cursor place) : surplus place = surplus cursor := by
  induction leg with
  | first => rfl
  | later before carved stops ih => exact ((carve_behind carved).2 stops).trans ih

end

end Block

def Failure.Ended : Failure → Prop
  | .fault found => found.kind ≠ .unterminatedBlock
  | .signal _ | .breakdown _ => True

theorem harmless_ended (failure : Failure) (harmless : failure.Harmless) : failure.Ended := by
  cases failure with
  | fault found => exact harmless.1
  | signal signal => trivial
  | breakdown breakdown => trivial

theorem located_ended (location : Location) (failure : Failure) (ended : failure.Ended) :
    (failure.located location).Ended := by
  cases failure with
  | fault found => exact ended
  | signal signal => trivial
  | breakdown breakdown => trivial

theorem misread_ended (place : Location) (failure : Failure) (misread : Statement.Misread place failure) :
    failure.Ended := by
  cases misread with
  | fault cause blamed =>
      cases cause with
      | unterminated keyword => cases blamed
      | raised kind message => cases blamed
      | _ => exact nofun

-- Where the lines of a caller are backed, and its body has ended at a clause of `else`, they stand at that
-- clause, and more ends than headers follow it.
def Due (backed : Prop) : Option Resume → Cursor → Prop
  | some (.loop _ _ block), _ => Block.Backed block.body
  | some (.branch _ terminator), cursor => backed → Boundary.isElse terminator.text = true →
      ∃ rest, Cursor.next? cursor = some (terminator, rest) ∧ Block.surplus rest < 0
  | _, _ => True

structure Leaves (backed : Prop) (next : Cursor × Option Frame) : Prop where
  left : backed → Block.Backed next.1
  body : ∀ body ∈ next.2, Block.Backed body.cursor ∧ Due backed body.resume next.1

namespace Deed

open Block (Backed surplus)

variable {σ α : Type} {settings : Settings σ} {here : Activation} {backed : Prop} {world : World}

def Backs (backed : Prop) (deed : Deed (Cursor × Option Frame)) (world : World) : Prop :=
  Ensures deed world (fun next after => after.store.Bodies Backed ∧ Leaves backed next)
    (fun failure _ => backed → failure.Ended)

theorem ended_innocent {deed : Deed α} (innocent : Innocent deed) : Blamed Failure.Ended deed :=
  blamed_mono innocent harmless_ended

theorem ended_stated {deed : Deed α} {location : Location}
    (blamed : Blamed (Failure.Stated location) deed) : Blamed Failure.Ended deed :=
  ended_innocent (innocent_blamed blamed)

theorem ensures_ended {deed : Deed α} {answered : α → World → Prop} {failed : Failure → World → Prop}
    (ended : Blamed Failure.Ended deed) (ensures : Ensures deed world answered failed) :
    Ensures deed world answered (fun failure _ => backed → failure.Ended) :=
  ensures_mono (ensures_blamed ended ensures) (fun _ _ done => done) fun _ _ ended _ => ended

theorem carve_backs (kind : BlockKind) (header : Location) (cursor : Cursor) (world : World)
    (ends : backed → surplus cursor < 0) :
    Ensures (carve kind header cursor) world
      (fun carved after => after = world ∧ Backed carved.1.body ∧ carved.2 <:+ cursor)
      (fun failure _ => backed → failure.Ended) := by
  unfold Ensures carve settled
  cases reading : Block.read kind.keyword header false cursor with
  | error fault =>
      intro holds
      obtain ⟨block, left, read⟩ := Block.read_total kind.keyword header false (ends holds)
      rw [reading] at read
      cases read
  | ok carved => exact ⟨rfl, Block.read_behind reading⟩

theorem choose_backs (predicate : Option Text) (location : Location) (cursor : Cursor) (world : World)
    (ends : backed → surplus cursor < 0) :
    Ensures (choose here predicate location cursor) world
      (fun chosen after => after = world ∧ chosen.2 <:+ cursor ∧ ∀ taken ∈ chosen.1,
        Backed taken.1.body ∧ (backed → Boundary.isElse taken.1.terminator.text = true →
          ∃ rest, Cursor.next? chosen.2 = some (taken.1.terminator, rest) ∧ surplus rest < 0))
      (fun failure _ => backed → failure.Ended) := by
  cases reading : Block.read BlockKind.branch.keyword location true cursor with
  | error fault =>
      rw [choose_unread here predicate location cursor fault reading]
      intro holds
      obtain ⟨block, left, read⟩ := Block.read_total BlockKind.branch.keyword location true (ends holds)
      rw [reading] at read
      cases read
  | ok carved =>
      obtain ⟨block, left⟩ := carved
      obtain ⟨body, behind⟩ := Block.read_behind reading
      rw [choose_read here predicate location cursor left block reading]
      refine ensures_then (ensures_ended (ended_stated (blamed_admits here location predicate))
        (ensures_still_self (still_admits here location predicate) world)) ?_
      rintro taken _ ⟨rfl, _⟩
      cases stops : block.endsAtElse with
      | false =>
          have whole : ¬ Boundary.isElse block.terminator.text = true := ne_true_of_eq_false stops
          cases taken with
          | true =>
              refine ⟨rfl, behind, ?_⟩
              rintro _ ⟨⟩
              exact ⟨body, fun _ clause => absurd clause whole⟩
          | false => exact ⟨rfl, behind, nofun⟩
      | true =>
          obtain ⟨_, carving, carved, same, stands⟩ := Block.read_stops _ _ _ _ _ _ reading stops
          have clause : Boundary.isElse carving.terminator.text = true := by
            rw [same]
            exact stops
          obtain ⟨suffix, level⟩ := Block.carve_behind carved
          have further : backed → surplus carving.after < 0 := fun holds => by
            rw [level clause]
            exact ends holds
          cases taken with
          | true =>
              refine ⟨rfl, behind, ?_⟩
              rintro _ ⟨⟩
              exact ⟨body, fun holds _ => ⟨carving.after, stands, further holds⟩⟩
          | false =>
              obtain ⟨next, found⟩ := Boundary.read_else block.terminator stops
              simp only [Bool.false_eq_true, if_false, Bool.not_true, stands, found]
              refine ensures_mono
                (choose_backs next block.terminator.location carving.after _ further) ?_
                fun _ _ fails => fails
              rintro chosen _ ⟨rfl, within, taken⟩
              exact ⟨rfl, within.trans ((List.suffix_cons _ _).trans suffix), taken⟩
termination_by cursor.length
decreasing_by
  have kept := Block.read_rest_length reading
  have shorter := Cursor.next_shorter _ _ _ stands
  omega

theorem find_backs (location : Location) (name : Text) (bodies : world.store.Bodies Backed) :
    Ensures (find here location name) world (fun block after => after = world ∧ Backed block.body)
      (fun failure _ => backed → failure.Ended) := by
  unfold find Ensures
  rw [effect_bind, effect_get]
  dsimp only
  cases found : world.store.function? here.path name with
  | none => exact fun _ => nofun
  | some block => exact ⟨rfl, Store.bodies_function here.path name block bodies found⟩

theorem spawn_backs (location : Location) (next : Nat → Cursor × Option Frame)
    (bodies : world.store.Bodies Backed) (leaves : ∀ id, Leaves backed (next id)) :
    Backs backed (do
      let id ← spawn settings here location
      return next id) world := by
  refine ensures_then (ensures_ended (ended_innocent (innocent_spawn settings here location))
    (spawn_ensures settings here location world)) ?_
  rintro id _ ⟨rfl, rfl, _⟩
  exact ⟨bodies, leaves _⟩

theorem leaves_nobody {cursor : Cursor} (left : backed → Backed cursor) : Leaves backed (cursor, none) :=
  ⟨left, Frame.nobody⟩

theorem leaves_body {cursor : Cursor} {body : Frame} (left : backed → Backed cursor)
    (runs : Backed body.cursor) (due : Due backed body.resume cursor) :
    Leaves backed (cursor, some body) := by
  refine ⟨left, ?_⟩
  rintro _ ⟨⟩
  exact ⟨runs, due⟩

theorem round_backs (statement : Statement) (predicate : Text) (block : Block) (cursor : Cursor)
    (bodies : world.store.Bodies Backed) (body : Backed block.body) (left : backed → Backed cursor) :
    Backs backed (do
      let next ← round settings here statement predicate block
      return (cursor, next)) world := by
  unfold round
  rw [bind_assoc]
  refine ensures_then (ensures_ended (ended_stated (blamed_holds here predicate statement.location))
    (ensures_still_self (still_evaluate here _ _) world)) ?_
  rintro holds _ ⟨rfl, _⟩
  cases holds with
  | false => exact ⟨bodies, leaves_nobody left⟩
  | true =>
      simp only [if_true, bind_assoc, pure_bind]
      exact spawn_backs statement.location _ bodies fun _ => leaves_body left body body

theorem at_once_backs (statement : Statement) (rest : Cursor) (bodies : world.store.Bodies Backed)
    (left : backed → Backed rest) :
    Backs backed (do
      atOnce settings here statement
      return (rest, none)) world := by
  refine ensures_then (ensures_ended (ended_stated (blamed_at_once settings here statement))
    (at_once_ensures settings here statement world)) ?_
  rintro _ after ⟨stored, _⟩
  refine ⟨?_, leaves_nobody left⟩
  rcases stored with same | ⟨_, name, value, wrote⟩
  · rw [same]
    exact bodies
  · rw [wrote]
    exact Store.bodies_write here.path name value bodies

theorem perform_backs (statement : Statement) (rest : Cursor) (bodies : world.store.Bodies Backed)
    (left : backed → Backed rest)
    (ends : statement.command.opens = true → backed → surplus rest < 0) :
    Backs backed (perform settings here statement rest) world := by
  have entered : ∀ label, (world.store.enter (here.path ++ [label])).Bodies Backed :=
    fun label => Store.bodies_enter _ bodies
  rcases statement with ⟨location, command⟩
  cases command with
  | define name =>
      apply ensures_then (carve_backs .function location rest world (ends rfl))
      rintro ⟨block, after⟩ _ ⟨rfl, body, behind⟩
      exact ⟨Store.bodies_define here.path name block bodies body,
        leaves_nobody fun holds => Block.backed_suffix (left holds) behind⟩
  | loop predicate =>
      apply ensures_then (carve_backs .loop location rest world (ends rfl))
      rintro ⟨block, after⟩ world ⟨rfl, body, behind⟩
      apply ensures_bind
      have kept : backed → Backed after := fun holds => Block.backed_suffix (left holds) behind
      exact round_backs _ predicate block after (entered _) body kept
  | branch predicate =>
      apply ensures_then (choose_backs (some predicate) location rest world (ends rfl))
      rintro ⟨chosen, after⟩ world ⟨rfl, behind, taken⟩
      have kept : backed → Backed after := fun holds => Block.backed_suffix (left holds) behind
      cases chosen with
      | none => exact ⟨bodies, leaves_nobody kept⟩
      | some found =>
          obtain ⟨block, clause⟩ := found
          obtain ⟨body, stands⟩ := taken _ rfl
          apply ensures_bind
          exact spawn_backs clause _ (entered _) fun _ => leaves_body kept body stands
  | call name arguments =>
      apply ensures_then (find_backs location name bodies)
      rintro block world ⟨rfl, body⟩
      apply ensures_bind
      exact spawn_backs location _ (entered _) fun _ => leaves_body left body trivial
  | clear name => exact at_once_backs _ rest bodies left
  | count direction name => exact at_once_backs _ rest bodies left
  | debug name => exact at_once_backs _ rest bodies left
  | print format => exact at_once_backs _ rest bodies left
  | assign name format => exact at_once_backs _ rest bodies left
  | unsupported => exact at_once_backs _ rest bodies left

theorem launch_backs {line : Line} {cursor rest : Cursor} (taking : Cursor.next? cursor = some (line, rest))
    (bodies : world.store.Bodies Backed) (lines : backed → Backed cursor) :
    Backs backed (launch settings here line rest) world := by
  obtain ⟨drawn, solid⟩ := Cursor.next_drawn cursor rest line taking
  have readable : Fails Failure.Ended (placed line.location (Statement.read line)) :=
    fails_placed line.location _ (fails_mono (Statement.read_misread line solid)
      (misread_ended line.location)) (located_ended line.location)
  refine ensures_then (ensures_ended (blamed_settled _ readable)
    (ensures_still_self (still_settled _) world)) ?_
  rintro statement _ ⟨rfl, answered⟩
  have reading := read_answers line statement _ answered
  refine ensures_then (ensures_ended (ended_stated (blamed_record settings here statement))
    (record_ensures settings here statement _)) ?_
  rintro _ recorded ⟨store, _⟩
  rw [← store] at bodies
  have behind := (List.suffix_cons line rest).trans (Block.next_suffix taking).1
  refine perform_backs statement rest bodies (fun holds => Block.backed_suffix (lines holds) behind) ?_
  intro opens holds
  exact Block.opened_backed (lines holds) taking (Statement.opens_header line statement reading opens)

theorem skip_backs (statement : Statement) (terminator : Line) (cursor : Cursor)
    (bodies : world.store.Bodies Backed) (lines : backed → Backed cursor)
    (due : Due backed (some (.branch statement terminator)) cursor) :
    Backs backed (do
      let rest ← skip terminator cursor
      return (rest, none)) world := by
  unfold skip
  cases clause : Boundary.isElse terminator.text with
  | false =>
      rw [if_neg Bool.false_ne_true, pure_bind]
      exact ⟨bodies, leaves_nobody lines⟩
  | true =>
      rw [if_pos rfl]
      cases taking : Cursor.next? cursor with
      | none => exact fun _ => trivial
      | some taken =>
          obtain ⟨line, rest⟩ := taken
          have ends : backed → surplus rest < 0 := by
            intro holds
            obtain ⟨_, stands, bound⟩ := due holds clause
            rw [taking] at stands
            cases stands
            exact bound
          dsimp only
          rw [bind_assoc]
          apply ensures_then (carve_backs .branch terminator.location rest world ends)
          rintro ⟨block, after⟩ _ ⟨rfl, _, within⟩
          have behind := (List.suffix_cons line rest).trans (Block.next_suffix taking).1
          exact ⟨bodies, leaves_nobody fun holds =>
            Block.backed_suffix (lines holds) (within.trans behind)⟩

theorem complete_backs {pending : Option Resume} {cursor : Cursor} (bodies : world.store.Bodies Backed)
    (lines : backed → Backed cursor) (due : Due backed pending cursor) :
    Backs backed (complete settings here cursor pending) world := by
  rcases pending with _ | ⟨statement, predicate, block⟩ | ⟨statement, terminator⟩ | _
  · exact ⟨bodies, leaves_nobody lines⟩
  · exact round_backs statement predicate block cursor bodies due lines
  · exact skip_backs statement terminator cursor bodies lines due
  · exact ⟨bodies, leaves_nobody lines⟩

end Deed
end BareBones
