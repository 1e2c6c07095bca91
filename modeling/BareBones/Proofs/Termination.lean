import BareBones.Proofs.Layering
import BareBones.Proofs.Provenance

set_option autoImplicit false

namespace BareBones

def DepthLimit.room : DepthLimit → Nat
  | .atMost count => max 1 count.toNat
  | .blank => 1

def Command.loops : Command → Bool
  | .loop _ => true
  | _ => false

def Loopless (lines : List Line) : Prop :=
  ∀ line ∈ lines, line.isBlank = false → ∀ statement, Statement.read line = .ok statement →
    statement.command.loops = false

namespace Machine

variable {σ : Type} {settings : Settings σ}

-- How many turns a stack can take at most, where no body has more than `size` lines: one line of a frame is
-- worth as much as a whole body above it.
def cost (size room : Nat) : List Frame → Nat
  | [] => 0
  | frame :: below =>
      (frame.cursor.length + 1) * Nat.pow (size + 2) (room - (below.length + 1)) + cost size room below

section

variable {size room : Nat} {frame : Frame} {cursor : Cursor} {below : List Frame}

theorem cost_alone : cost size room [frame] = (frame.cursor.length + 1) * Nat.pow (size + 2) (room - 1) := by
  simp [cost]

theorem cost_line (shorter : cursor.length < frame.cursor.length) :
    cost size room (frame.moved cursor :: below) < cost size room (frame :: below) := by
  have positive : 0 < Nat.pow (size + 2) (room - (below.length + 1)) := Nat.pow_pos (Nat.succ_pos _)
  have fewer : cursor.length + 1 < frame.cursor.length + 1 := Nat.succ_lt_succ shorter
  exact Nat.add_lt_add_right (Nat.mul_lt_mul_of_pos_right fewer positive) _

theorem cost_spawn (body : Frame) (shorter : cursor.length < frame.cursor.length)
    (fits : body.cursor.length ≤ size) (allowed : below.length + 2 ≤ room) :
    cost size room (body :: frame.moved cursor :: below) < cost size room (frame :: below) := by
  obtain ⟨spare, rfl⟩ := Nat.exists_eq_add_of_le allowed
  have above : below.length + 2 + spare - (below.length + 1 + 1) = spare := by omega
  have here : below.length + 2 + spare - (below.length + 1) = spare + 1 := by omega
  simp only [cost, List.length_cons, above, here]
  have positive : 0 < Nat.pow (size + 2) spare := Nat.pow_pos (Nat.succ_pos _)
  -- A line more of the frame pays for the body.
  have body_paid : (body.cursor.length + 1) * Nat.pow (size + 2) spare < Nat.pow (size + 2) (spare + 1) := by
    change _ < Nat.pow (size + 2) spare * (size + 2)
    rw [Nat.mul_comm (Nat.pow (size + 2) spare)]
    exact Nat.mul_lt_mul_of_pos_right (by omega) positive
  have lines_left : (cursor.length + 1 + 1) * Nat.pow (size + 2) (spare + 1) ≤
      (frame.cursor.length + 1) * Nat.pow (size + 2) (spare + 1) :=
    Nat.mul_le_mul_right _ (Nat.succ_le_succ shorter)
  rw [Nat.succ_mul] at lines_left
  change _ + ((cursor.length + 1) * _ + _) < _
  omega

theorem cost_return (ended : Frame) (shorter : cursor.length ≤ frame.cursor.length) :
    cost size room (frame.moved cursor :: below) < cost size room (ended :: frame :: below) := by
  have positive : 0 < Nat.pow (size + 2) (room - ((frame :: below).length + 1)) :=
    Nat.pow_pos (Nat.succ_pos _)
  have given : 0 < (ended.cursor.length + 1) * Nat.pow (size + 2) (room - ((frame :: below).length + 1)) :=
    Nat.mul_pos (Nat.succ_pos _) positive
  have left : (cursor.length + 1) * Nat.pow (size + 2) (room - (below.length + 1)) ≤
      (frame.cursor.length + 1) * Nat.pow (size + 2) (room - (below.length + 1)) :=
    Nat.mul_le_mul_right _ (Nat.succ_le_succ shorter)
  change (cursor.length + 1) * _ + _ < _ + ((frame.cursor.length + 1) * _ + _)
  omega

end

theorem stacked_room {world : World} {stack : List Frame} (stacked : Stacked settings world stack) :
    stack.length ≤ settings.maxDepth.room := by
  cases limit : settings.maxDepth with
  | atMost count =>
      have bounded := stacked_bounded count limit stacked
      simp only [DepthLimit.room]
      omega
  | blank => exact Nat.le_of_eq (stacked_alone limit stacked)

theorem turn_cost {before after : World} {lines : List Line} {room : Nat} {stack : List Frame}
    {frame : Frame} {below : List Frame} {deed : Deed (Cursor × Option Frame)}
    {next : Cursor × Option Frame} (turn : Turn settings stack frame below deed)
    (done : deed before = (.ok next, after)) (drawn : Drawn lines before stack)
    (loopless : Loopless lines)
    (allowed : (next.2.toList ++ frame.moved next.1 :: below).length ≤ room) :
    cost lines.length room (next.2.toList ++ frame.moved next.1 :: below) <
      cost lines.length room stack := by
  have fits := (turn_drawn turn done drawn).frames
  cases turn with
  | line _ _ line rest taking =>
      obtain ⟨statement, snapshot, reading, performs⟩ := Deed.launch_answers done
      have shorter : next.1.length < frame.cursor.length :=
        Nat.lt_of_le_of_lt (Deed.performs_shorter performs).length_le
          (Cursor.next_shorter frame.cursor rest line taking)
      cases spawned : next.2 with
      | none => exact cost_line shorter
      | some body =>
          rw [spawned] at fits allowed
          exact cost_spawn body shorter (fits body List.mem_cons_self).cursor.length_le allowed
  | back ended _ _ _ =>
      obtain ⟨_, _, ⟨⟩, going⟩ := Deed.bind_answers done
      have shorter := (Deed.complete_shorter going).length_le
      rcases Deed.complete_answers going with
        ⟨statement, predicate, block, pending, _⟩ | ⟨_, _, _, _, alone, _⟩ | ⟨rfl, _⟩
      · -- A loop that is resumed stands in a line of the program.
        obtain ⟨⟨line, member, solid, reading⟩, asked, _⟩ :=
          (drawn.frames ended List.mem_cons_self).pending _ pending
        have never := loopless line member solid statement reading
        rw [asked] at never
        cases never
      · rw [alone]
        exact cost_return ended shorter
      · exact cost_return ended shorter

theorem goes_cost {before after : Machine σ} {lines : List Line} (unobserved : settings.Unobserved)
    (goes : Goes settings before after) (standing : Standing settings before.world before.stack)
    (drawn : Drawn lines before.world before.stack) (loopless : Loopless lines) :
    cost lines.length settings.maxDepth.room after.stack <
      cost lines.length settings.maxDepth.room before.stack := by
  have stands := (goes_standing unobserved goes standing).1
  obtain ⟨frame, below, deed, next, turn, done, stack⟩ := goes_turn settings before after unobserved goes
  have allowed := stacked_room stands.stacked
  rw [stack] at allowed ⊢
  exact turn_cost turn done drawn loopless allowed

theorem drive_paid {lines : List Line} (unobserved : settings.Unobserved) (loopless : Loopless lines)
    (fuel : Nat) (machine : Machine σ) (standing : Standing settings machine.world machine.stack)
    (drawn : Drawn lines machine.world machine.stack)
    (paid : cost lines.length settings.maxDepth.room machine.stack ≤ fuel) :
    ∃ ending, drive settings (fuel + 1) machine = some ending := by
  induction fuel generalizing machine with
  | zero =>
      rw [drive]
      split
      · rename_i after goes
        have cheaper := goes_cost unobserved goes standing drawn loopless
        omega
      · exact ⟨_, rfl⟩
      · exact ⟨_, rfl⟩
  | succ fuel ih =>
      rw [drive]
      split
      · rename_i after goes
        have cheaper := goes_cost unobserved goes standing drawn loopless
        exact ih after (goes_standing unobserved goes standing).1
          (reaches_drawn unobserved (.single goes) drawn) (by omega)
      · exact ⟨_, rfl⟩
      · exact ⟨_, rfl⟩

def turns (settings : Settings σ) (source : Text) : Nat :=
  let size := (Line.ofSource settings.filename source).length
  (size + 1) * Nat.pow (size + 2) (settings.maxDepth.room - 1) + 1

theorem loopless_ends (settings : Settings σ) (source : Text) (capacity : Nat) (host : σ)
    (unobserved : settings.Unobserved)
    (loopless : Loopless (Line.ofSource settings.filename source)) :
    ∃ ending, run settings (turns settings source) source (fresh (.empty capacity) host) =
      some ending := by
  have standing := opening_standing settings source capacity host
  have drawn := opening_drawn settings source (.empty capacity) host
  obtain ⟨ending, driven⟩ := drive_paid unobserved loopless _ _ standing drawn (Nat.le_refl _)
  rw [opening_stack, cost_alone] at driven
  refine ⟨conclude ending, ?_⟩
  rw [run_unobserved settings _ _ _ unobserved]
  exact congrArg (Option.map conclude) driven

def pursuing : Text :=
  "function f do\ng a\nend\nfunction g do\nfunction f do\ng b\nend\nf c\nend\nf".toList

theorem loopless_ends_pursuing :
    quiet.Unobserved ∧ Loopless (Line.ofSource quiet.filename pursuing) ∧
      ∃ ending, run quiet (turns quiet pursuing) pursuing (fresh (.empty 5) ()) = some ending := by
  have plain : ∀ line ∈ Line.ofSource quiet.filename pursuing,
      (Statement.read line).toOption.any (·.command.loops) = false := by decide +kernel
  have loopless : Loopless (Line.ofSource quiet.filename pursuing) := by
    intro line member _ statement reading
    have never := plain line member
    rw [reading] at never
    exact never
  exact ⟨quiet_unobserved, loopless, loopless_ends quiet pursuing 5 () quiet_unobserved loopless⟩

end Machine
end BareBones
