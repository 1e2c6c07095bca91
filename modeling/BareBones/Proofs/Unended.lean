import BareBones.Proofs.Backing
import BareBones.Proofs.Bookmarks
import BareBones.Proofs.Deeper
import BareBones.Proofs.Enclosure
import BareBones.Proofs.Recovery

set_option autoImplicit false

namespace BareBones.Machine

open Block (Backed)

variable {σ : Type} {settings : Settings σ}

-- Each frame that stands above another one runs backed lines, and what it has to go on with is due below
-- it, where again all but the lines of the outermost frame are backed.
def Mounted : List Frame → Prop
  | frame :: caller :: below =>
      Backed frame.cursor ∧ Due (below ≠ []) frame.resume caller.cursor ∧ Mounted (caller :: below)
  | _ => True

structure Propped (world : World) (stack : List Frame) : Prop where
  bodies : world.store.Bodies Backed
  mounted : Mounted stack

theorem mounted_backed {frame : Frame} {below : List Frame} (mounted : Mounted (frame :: below))
    (inner : below ≠ []) : Backed frame.cursor := by
  cases below with
  | nil => exact absurd rfl inner
  | cons caller lower => exact mounted.1

theorem leaves_mounted {frame : Frame} {below : List Frame} {next : Cursor × Option Frame}
    (leaves : Leaves (below ≠ []) next) (mounted : Mounted (frame :: below)) :
    Mounted (next.2.toList ++ frame.moved next.1 :: below) := by
  have kept : Mounted (frame.moved next.1 :: below) := by
    cases below with
    | nil => trivial
    | cons caller lower =>
        obtain ⟨_, due, rest⟩ := mounted
        exact ⟨leaves.left (List.cons_ne_nil caller lower), due, rest⟩
  cases spawned : next.2 with
  | none => exact kept
  | some body =>
      obtain ⟨runs, due⟩ := leaves.body body spawned
      exact ⟨runs, due, kept⟩

theorem turn_propped {before : World} {stack : List Frame} {frame : Frame} {below : List Frame}
    {deed : Deed (Cursor × Option Frame)} (turn : Turn settings stack frame below deed)
    (propped : Propped before stack) :
    deed.Ensures before
      (fun next after => Propped after (next.2.toList ++ frame.moved next.1 :: below))
      (fun failure _ => below ≠ [] → failure.Ended) := by
  obtain ⟨bodies, mounted⟩ := propped
  cases turn with
  | line _ _ line rest taking =>
      refine Deed.ensures_mono (Deed.launch_backs taking bodies (mounted_backed mounted)) ?_
        fun _ _ ended => ended
      rintro next after ⟨kept, leaves⟩
      exact ⟨kept, leaves_mounted leaves mounted⟩
  | back ended _ _ spent =>
      obtain ⟨_, due, lower⟩ := mounted
      have completes : Deed.Backs (below ≠ []) (Deed.complete settings
          (frame.activation (below.length + 1)) frame.cursor ended.resume)
          { before with journal := before.journal.forget ended.id } :=
        Deed.complete_backs bodies (mounted_backed lower) due
      apply Deed.ensures_bind
      change Deed.Ensures _ { before with journal := before.journal.forget ended.id } _ _
      refine Deed.ensures_mono completes ?_ fun _ _ ended => ended
      rintro next after ⟨kept, leaves⟩
      exact ⟨kept, leaves_mounted leaves lower⟩

theorem reaches_propped {before after : Machine σ} (unobserved : settings.Unobserved)
    (path : Reaches settings before after) (propped : Propped before.world before.stack) :
    Propped after.world after.stack := by
  induction path with
  | refl => exact propped
  | @tail middle after _ goes ih =>
      obtain ⟨frame, below, deed, next, turn, done, stack⟩ :=
        goes_turn settings middle after unobserved goes
      rw [stack]
      exact Deed.ensures_answered (turn_propped turn ih) done

theorem opening_propped (settings : Settings σ) (source : Text) (journal : Journal Nat) (host : σ) :
    Propped (opening settings source (fresh journal host)).world
      (opening settings source (fresh journal host)).stack := by
  rw [opening_stack, opening_world]
  exact ⟨Store.bodies_enter _ (Store.bodies_empty _), trivial⟩

theorem fails_alone {before after : Machine σ} {failure : Failure} (unobserved : settings.Unobserved)
    (failed : step settings before = (.error failure, after)) (unended : ¬ failure.Ended)
    (propped : Propped before.world before.stack) (founded : Founded settings before) :
    Ready settings after := by
  obtain ⟨frame, below, deed, cursor, turn, done, stack⟩ :=
    fails_turn settings before after failure unobserved failed
  have ended := Deed.ensures_failed (turn_propped turn propped) done
  have alone : below = [] := by
    by_contra inner
    exact unended (ended inner)
  have single : after.stack.length ≤ 1 := by
    rw [stack, alone]
    exact Nat.le_refl 1
  rw [← List.nil_append (frame.moved cursor :: below)] at stack
  exact founded_alone (turn_founded founded turn stack) single

theorem unended_kind (fault : Fault) (kind : fault.kind = .unterminatedBlock) (failure : Failure)
    (cause : fault.cause = failure.cause) : ¬ failure.Ended := by
  intro ended
  have same : failure.cause.kind = .unterminatedBlock := by
    rw [← cause]
    exact kind
  cases failure with
  | fault found => exact ended same
  | signal signal => cases same
  | breakdown breakdown => cases same

-- A run that fails for want of an `end` leaves no frame but that of the program. In a body each block that
-- begins is read whole, with all clauses of an `if`, and so is the rest of an `if` that is passed over.
theorem unterminated_outermost (settings : Settings σ) (source : Text) (capacity : Nat) (host : σ)
    (unobserved : settings.Unobserved) :
    (∀ fuel fault after, run settings fuel source (fresh (.empty capacity) host) =
        some (.error (.fault fault), after) → fault.kind = .unterminatedBlock →
      ∃ cursor, after.stack = [ground settings cursor]) ∧
    ∀ machine, Reaches settings (opening settings source (fresh (.empty capacity) host)) machine →
      ∀ frame caller below, machine.stack = frame :: caller :: below →
        (∀ line rest statement, Cursor.next? frame.cursor = some (line, rest) →
          Statement.read line = .ok statement → statement.command.opens = true →
          ∀ place, Block.Leg rest place → ∀ keyword header elseEnds, ∃ block left,
            Block.read keyword header elseEnds place = .ok (block, left)) ∧
        ∀ statement terminator, below ≠ [] → frame.resume = some (.branch statement terminator) →
          Boundary.isElse terminator.text = true →
          ∃ rest, Cursor.next? caller.cursor = some (terminator, rest) ∧
            ∀ keyword header elseEnds, ∃ block left,
              Block.read keyword header elseEnds rest = .ok (block, left) := by
  have opens := opening_propped settings source (.empty capacity) host
  refine ⟨?_, ?_⟩
  · intro fuel fault after ran kind
    obtain ⟨last, failure, path, failed, same⟩ := run_fails unobserved ran
    have founded := reaches_founded unobserved path ⟨[], _, opening_stack settings source _ host⟩
    have cause : fault.cause = failure.cause := by
      cases same
      exact fault_of_cause after failure
    exact fails_alone unobserved failed (unended_kind fault kind failure cause)
      (reaches_propped unobserved path opens) founded
  · intro machine path frame caller below stack
    have mounted := (reaches_propped unobserved path opens).mounted
    rw [stack] at mounted
    obtain ⟨backed, due, lower⟩ := mounted
    refine ⟨?_, ?_⟩
    · intro line rest statement taking reading opens place leg keyword header elseEnds
      have ends := Block.opened_backed backed taking
        (Statement.opens_header line statement reading opens)
      rw [← Block.leg_surplus leg] at ends
      exact Block.read_total keyword header elseEnds ends
    · intro statement terminator inner resumes clause
      rw [resumes] at due
      obtain ⟨rest, stands, ends⟩ := due inner clause
      exact ⟨rest, stands, fun keyword header elseEnds => Block.read_total keyword header elseEnds ends⟩

def cutting : Text :=
  "if 1 is 1 do\nif 1 is 1 do\nprint a\nelse\nprint b\nend\nend\nwhile 1 is 1 do\nprint c".toList

theorem unterminated_outermost_loop :
    let settings : Settings Unit := { quiet with maxDepth := .atMost 5 }
    let start := opening settings cutting (fresh (.empty 5) ())
    let program := ground settings ((Line.ofSource settings.filename cutting).drop 7)
    let body := (ahead settings 1 start).stack.headD program
    let inner := (ahead settings 2 start).stack.headD program
    let line := Line.ofRaw settings.filename 2 "if 1 is 1 do".toList
    let terminator := Line.ofRaw settings.filename 4 "else".toList
    let statement : Statement := ⟨line.location, .branch "1 is 1".toList⟩
    settings.Unobserved ∧
      (∃ fault after cursor, run settings 9 cutting (fresh (.empty 5) ()) =
          some (.error (.fault fault), after) ∧ fault.kind = .unterminatedBlock ∧
        after.stack = [ground settings cursor]) ∧
      ((ahead settings 1 start).stack = [body, program] ∧
        Cursor.next? body.cursor = some (line, body.cursor.drop 1) ∧
        Statement.read line = .ok statement ∧ ∃ block left,
          Block.read "if".toList line.location true (body.cursor.drop 1) = .ok (block, left)) ∧
      (ahead settings 2 start).stack = [inner, body.moved (body.cursor.drop 2), program] ∧
        inner.resume = some (.branch statement terminator) ∧ Boundary.isElse terminator.text = true ∧
        ∃ rest, Cursor.next? (body.cursor.drop 2) = some (terminator, rest) ∧ ∃ block left,
          Block.read "if".toList terminator.location false rest = .ok (block, left) := by
  intro settings start program body inner line terminator statement
  have unobserved : settings.Unobserved := quiet_unobserved
  have bound := unterminated_outermost settings cutting 5 () unobserved
  have turns : ∀ count, count < 2 → (step settings (ahead settings count start)).1 = .ok true := by
    decide +kernel
  have one := ahead_goes settings 0 start (turns 0 (by decide))
  have two := ahead_goes settings 1 start (turns 1 (by decide))
  have outline : (run settings 9 cutting (fresh (.empty 5) ())).bind (·.refusal?) =
      some (.unterminated "while".toList, ["a".toList]) := by decide +kernel
  obtain ⟨⟨result, after⟩, ran, refusal⟩ := Option.bind_eq_some_iff.mp outline
  have upper : (ahead settings 1 start).stack = [body, program] := by decide +kernel
  have taking : Cursor.next? body.cursor = some (line, body.cursor.drop 1) := by decide +kernel
  have reading : Statement.read line = .ok statement := by decide +kernel
  have nested : (ahead settings 2 start).stack = [inner, body.moved (body.cursor.drop 2), program] := by
    decide +kernel
  have resumes : inner.resume = some (.branch statement terminator) := by decide +kernel
  have clause : Boundary.isElse terminator.text = true := by decide +kernel
  have opened := (bound.2 _ (.single one) body program [] upper).1 line _ statement taking reading rfl
    _ .first "if".toList line.location true
  obtain ⟨rest, stands, skipped⟩ := (bound.2 _ (.tail (.single one) two) inner _ [program] nested).2
    statement terminator (List.cons_ne_nil program []) resumes clause
  refine ⟨unobserved, ?_, ⟨upper, taking, reading, opened⟩, nested, resumes, clause, rest, stands,
    skipped "if".toList terminator.location false⟩
  cases result with
  | ok _ => cases refusal
  | error failure =>
      cases failure with
      | fault fault =>
          have cause : fault.cause = .unterminated "while".toList :=
            congrArg Prod.fst (Option.some.inj refusal)
          have kind : fault.kind = .unterminatedBlock := by
            rw [Fault.kind, cause]
            rfl
          obtain ⟨cursor, stack⟩ := bound.1 9 fault after ran kind
          exact ⟨fault, after, cursor, ran, kind, stack⟩
      | signal signal => cases refusal
      | breakdown broken => cases refusal

end BareBones.Machine
