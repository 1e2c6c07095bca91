import BareBones.Proofs.Conduct
import BareBones.Proofs.Course

set_option autoImplicit false

namespace BareBones

theorem Cursor.next_drawn (cursor rest : Cursor) (line : Line)
    (taking : Cursor.next? cursor = some (line, rest)) :
    (line :: rest).Sublist cursor ∧ line.isBlank = false := by
  unfold next? skipBlank at taking
  have kept := List.dropWhile_sublist (l := cursor) Line.isBlank
  have first := List.head?_dropWhile_not Line.isBlank cursor
  cases skipped : cursor.dropWhile Line.isBlank with
  | nil => simp [skipped] at taking
  | cons head others =>
      rw [skipped] at taking kept first
      cases taking
      exact ⟨kept, first⟩

namespace Block

theorem carve_drawn (elseEnds : Bool) (depth : Nat) (lines : List Line) (carving : Carving)
    (carved : carveFrom elseEnds depth lines = some carving) :
    (carving.body ++ carving.terminator :: carving.after).Sublist lines := by
  induction lines generalizing depth carving with
  | nil => simp [carveFrom] at carved
  | cons line rest ih =>
      have deeper (inner : Nat)
          (found : (carveFrom elseEnds inner rest).map (Carving.prepend line) = some carving) :
          (carving.body ++ carving.terminator :: carving.after).Sublist (line :: rest) := by
        obtain ⟨others, read, rfl⟩ := Option.map_eq_some_iff.mp found
        exact (ih inner others read).cons_cons line
      unfold carveFrom at carved
      split at carved
      · exact (ih depth carving carved).cons line
      · split at carved
        · cases carved
          exact List.Sublist.refl _
        · split at carved
          · exact deeper _ carved
          · split at carved
            · cases depth with
              | zero =>
                  cases carved
                  exact List.Sublist.refl _
              | succ outer => exact deeper outer carved
            · exact deeper _ carved

theorem read_drawn (keyword : Text) (header : Location) (elseEnds : Bool) (cursor : Cursor)
    (block : Block) (rest : Cursor) (reading : read keyword header elseEnds cursor = .ok (block, rest)) :
    block.body.Sublist cursor ∧ rest.Sublist cursor ∧ block.terminator ∈ cursor := by
  rw [read_carves] at reading
  cases carved : carveFrom elseEnds 0 cursor with
  | none =>
      rw [carved] at reading
      cases reading
  | some carving =>
      have drawn := carve_drawn elseEnds 0 cursor carving carved
      have behind := (List.sublist_append_right carving.body _).trans drawn
      rw [carved] at reading
      cases reading
      refine ⟨(List.sublist_append_left _ _).trans drawn, ?_, behind.subset List.mem_cons_self⟩
      split
      · exact behind
      · exact (List.sublist_cons_self _ _).trans behind

end Block

namespace Deed

variable {σ : Type} {settings : Settings σ} {here : Activation} {before after : World}

theorem choose_drawn (predicate : Option Text) (location : Location) (cursor left : Cursor)
    (chosen : Option (Block × Location))
    (done : choose here predicate location cursor before = (.ok (chosen, left), after)) :
    left.Sublist cursor ∧ ∀ block clause, chosen = some (block, clause) →
      block.body.Sublist cursor ∧ block.terminator ∈ cursor := by
  cases reading : Block.read BlockKind.branch.keyword location true cursor with
  | error fault =>
      rw [choose_unread here predicate location cursor fault reading] at done
      cases done
  | ok carved =>
      obtain ⟨block, rest⟩ := carved
      obtain ⟨body, behind, ends⟩ := Block.read_drawn _ _ _ cursor block rest reading
      rw [choose_read here predicate location cursor rest block reading] at done
      obtain ⟨taken, _, tested, going⟩ := bind_answers done
      cases still_answers (still_admits here location predicate) tested
      split at going
      · cases going
        refine ⟨behind, ?_⟩
        rintro _ _ ⟨⟩
        exact ⟨body, ends⟩
      · split at going
        · cases going
          exact ⟨behind, nofun⟩
        · cases taking : Cursor.next? rest with
          | none =>
              simp only [taking] at going
              cases going
          | some ahead =>
              obtain ⟨line, beyond⟩ := ahead
              simp only [taking] at going
              cases clause : Boundary.readElse line with
              | error fault =>
                  simp only [clause] at going
                  cases going
              | ok next =>
                  simp only [clause] at going
                  have rests := (Cursor.next_drawn rest beyond line taking).1
                  have inner := (List.sublist_cons_self line beyond).trans (rests.trans behind)
                  obtain ⟨whole, parts⟩ := choose_drawn next line.location beyond left chosen going
                  refine ⟨whole.trans inner, fun body place same => ?_⟩
                  obtain ⟨lines, last⟩ := parts body place same
                  exact ⟨lines.trans inner, inner.subset last⟩
termination_by cursor.length
decreasing_by
  have kept := Block.read_rest_length reading
  have shorter := Cursor.next_shorter _ _ _ taking
  omega

theorem skip_drawn (terminator : Line) (cursor left : Cursor)
    (done : skip terminator cursor before = (.ok left, after)) : left.Sublist cursor := by
  unfold skip at done
  split at done
  · cases taking : Cursor.next? cursor with
    | none =>
        simp only [taking] at done
        cases done
    | some ahead =>
        obtain ⟨line, rest⟩ := ahead
        simp only [taking] at done
        obtain ⟨⟨block, beyond⟩, _, carving, ⟨⟩⟩ := bind_answers done
        have reading := (carve_answers carving).2
        have behind := (Block.read_drawn _ _ _ rest block beyond reading).2.1
        exact behind.trans ((List.sublist_cons_self line rest).trans
          (Cursor.next_drawn cursor rest line taking).1)
  · cases done
    exact List.Sublist.refl _

theorem performs_shorter {statement : Statement} {rest : Cursor} {next : Cursor × Option Frame}
    (performs : Performs settings here statement rest before next after) : next.1.Sublist rest := by
  cases performs with
  | atOnce _ => exact List.Sublist.refl _
  | defined _ reading => exact (Block.read_drawn _ _ _ rest _ _ reading).2.1
  | looped _ reading _ => exact (Block.read_drawn _ _ _ rest _ _ reading).2.1
  | passed _ chosen => exact (choose_drawn _ _ rest _ _ chosen).1
  | branched _ chosen _ => exact (choose_drawn _ _ rest _ _ chosen).1
  | called _ _ _ => exact List.Sublist.refl _

theorem complete_shorter {pending : Option Resume} {cursor : Cursor} {next : Cursor × Option Frame}
    (done : complete settings here cursor pending before = (.ok next, after)) :
    next.1.Sublist cursor := by
  rcases complete_answers done with ⟨_, _, _, _, same, _⟩ | ⟨_, _, _, skipping, _⟩ | ⟨rfl, _⟩
  · rw [same]
  · exact skip_drawn _ cursor _ skipping
  · exact List.Sublist.refl _

end Deed

def Statement.StandsIn (lines : List Line) (statement : Statement) : Prop :=
  ∃ line ∈ lines, line.isBlank = false ∧ Statement.read line = .ok statement

def Resume.Drawn (lines : List Line) : Resume → Prop
  | .loop statement predicate block =>
      statement.StandsIn lines ∧ statement.command = .loop predicate ∧ block.body.Sublist lines
  | .branch statement terminator => statement.StandsIn lines ∧ terminator ∈ lines
  | .call statement _ _ => statement.StandsIn lines

structure Frame.Drawn (lines : List Line) (frame : Frame) : Prop where
  cursor : frame.cursor.Sublist lines
  pending : ∀ resume ∈ frame.resume, resume.Drawn lines

theorem Frame.nobody {property : Frame → Prop} : ∀ body ∈ (none : Option Frame), property body := by
  simp

namespace Deed

variable {σ : Type} {settings : Settings σ} {here : Activation} {before after : World}
  {lines : List Line}

theorem rounds_drawn {statement : Statement} {predicate : Text} {block : Block} {next : Option Frame}
    (rounds : Rounds settings here statement predicate block before next after)
    (drawn : (Resume.loop statement predicate block).Drawn lines) :
    after.store = before.store ∧ ∀ body ∈ next, body.Drawn lines := by
  cases rounds with
  | stopped _ => exact ⟨rfl, Frame.nobody⟩
  | again _ _ =>
      refine ⟨rfl, ?_⟩
      rintro _ ⟨⟩
      refine ⟨drawn.2.2, ?_⟩
      rintro _ ⟨⟩
      exact drawn

theorem performs_drawn {statement : Statement} {rest : Cursor} {next : Cursor × Option Frame}
    (performs : Performs settings here statement rest before next after)
    (stands : statement.StandsIn lines) (drawn : rest.Sublist lines)
    (bodies : before.store.Bodies (List.Sublist · lines)) :
    after.store.Bodies (List.Sublist · lines) ∧ ∀ body ∈ next.2, body.Drawn lines := by
  cases performs with
  | atOnce done =>
      refine ⟨?_, Frame.nobody⟩
      rcases (ensures_answered (at_once_ensures settings here statement before) done).1 with
        same | ⟨_, name, value, wrote⟩
      · rw [same]
        exact bodies
      · rw [wrote]
        exact Store.bodies_write here.path name value bodies
  | defined _ reading =>
      have body := (Block.read_drawn _ _ _ rest _ _ reading).1
      exact ⟨Store.bodies_define here.path _ _ bodies (body.trans drawn), Frame.nobody⟩
  | looped asked reading rounds =>
      have body := (Block.read_drawn _ _ _ rest _ _ reading).1
      obtain ⟨same, spawned⟩ := rounds_drawn rounds ⟨stands, asked, body.trans drawn⟩
      refine ⟨?_, spawned⟩
      rw [same]
      exact Store.bodies_enter _ bodies
  | passed _ _ => exact ⟨bodies, Frame.nobody⟩
  | branched _ chosen _ =>
      obtain ⟨body, ends⟩ := (choose_drawn _ _ rest _ _ chosen).2 _ _ rfl
      refine ⟨Store.bodies_enter _ bodies, ?_⟩
      rintro _ ⟨⟩
      refine ⟨body.trans drawn, ?_⟩
      rintro _ ⟨⟩
      exact ⟨stands, drawn.subset ends⟩
  | called _ found _ =>
      refine ⟨Store.bodies_enter _ bodies, ?_⟩
      rintro _ ⟨⟩
      refine ⟨Store.bodies_function here.path _ _ bodies found, ?_⟩
      rintro _ ⟨⟩
      exact stands

theorem complete_drawn {pending : Option Resume} {cursor : Cursor} {next : Cursor × Option Frame}
    (done : complete settings here cursor pending before = (.ok next, after))
    (drawn : ∀ resume ∈ pending, resume.Drawn lines) :
    after.store = before.store ∧ ∀ body ∈ next.2, body.Drawn lines := by
  rcases complete_answers done with
    ⟨statement, predicate, block, rfl, _, rounds⟩ | ⟨_, _, _, _, spawned, rfl⟩ | ⟨rfl, rfl⟩
  · exact rounds_drawn rounds (drawn _ rfl)
  · rw [spawned]
    exact ⟨rfl, Frame.nobody⟩
  · exact ⟨rfl, Frame.nobody⟩

end Deed

namespace Machine

variable {σ : Type} {settings : Settings σ} {lines : List Line}

-- All that is left to be run, and all that can be called, is drawn from the lines.
structure Drawn (lines : List Line) (world : World) (stack : List Frame) : Prop where
  bodies : world.store.Bodies (List.Sublist · lines)
  frames : ∀ frame ∈ stack, frame.Drawn lines

theorem drawn_spawned {world : World} {frame : Frame} {below : List Frame}
    {next : Cursor × Option Frame} (bodies : world.store.Bodies (List.Sublist · lines))
    (spawned : ∀ body ∈ next.2, body.Drawn lines) (shorter : next.1.Sublist frame.cursor)
    (frames : ∀ other ∈ frame :: below, other.Drawn lines) :
    Drawn lines world (next.2.toList ++ frame.moved next.1 :: below) := by
  refine ⟨bodies, fun other member => ?_⟩
  rcases List.mem_append.mp member with new | old
  · exact spawned other (Option.mem_toList.mp new)
  · rcases List.mem_cons.mp old with rfl | lower
    · have here := frames frame List.mem_cons_self
      exact ⟨shorter.trans here.cursor, here.pending⟩
    · exact frames other (List.mem_cons_of_mem _ lower)

theorem turn_drawn {before after : World} {stack : List Frame} {frame : Frame} {below : List Frame}
    {deed : Deed (Cursor × Option Frame)} {next : Cursor × Option Frame}
    (turn : Turn settings stack frame below deed) (done : deed before = (.ok next, after))
    (drawn : Drawn lines before stack) :
    Drawn lines after (next.2.toList ++ frame.moved next.1 :: below) := by
  obtain ⟨bodies, frames⟩ := drawn
  cases turn with
  | line _ _ line rest taking =>
      obtain ⟨ahead, solid⟩ := Cursor.next_drawn frame.cursor rest line taking
      have whole := ahead.trans (frames frame List.mem_cons_self).cursor
      have behind := (List.sublist_cons_self line rest).trans whole
      obtain ⟨statement, snapshot, reading, performs⟩ := Deed.launch_answers done
      have stands : statement.StandsIn lines :=
        ⟨line, whole.subset List.mem_cons_self, solid, reading⟩
      obtain ⟨kept, spawned⟩ := Deed.performs_drawn performs stands behind bodies
      exact drawn_spawned kept spawned ((Deed.performs_shorter performs).trans
        ((List.sublist_cons_self line rest).trans ahead)) frames
  | back ended _ _ _ =>
      obtain ⟨_, _, ⟨⟩, going⟩ := Deed.bind_answers done
      obtain ⟨same, spawned⟩ :=
        Deed.complete_drawn going (frames ended List.mem_cons_self).pending
      refine drawn_spawned ?_ spawned (Deed.complete_shorter going)
        fun other member => frames other (List.mem_cons_of_mem _ member)
      rw [same]
      exact bodies

theorem reaches_drawn {before after : Machine σ} (unobserved : settings.Unobserved)
    (path : Reaches settings before after) (drawn : Drawn lines before.world before.stack) :
    Drawn lines after.world after.stack := by
  induction path with
  | refl => exact drawn
  | @tail middle after _ goes ih =>
      obtain ⟨frame, below, deed, next, turn, done, stack⟩ :=
        goes_turn settings middle after unobserved goes
      rw [stack]
      exact turn_drawn turn done ih

theorem opening_drawn (settings : Settings σ) (source : Text) (journal : Journal Nat) (host : σ) :
    Drawn (Line.ofSource settings.filename source)
      (opening settings source (fresh journal host)).world
      (opening settings source (fresh journal host)).stack := by
  rw [opening_stack, opening_world]
  refine ⟨Store.bodies_enter _ (Store.bodies_empty _), fun frame member => ?_⟩
  rw [List.mem_singleton.mp member]
  exact ⟨List.Sublist.refl _, by simp [outermost]⟩

end Machine
end BareBones
