import BareBones.Proofs.Decimal
import BareBones.Proofs.Enclosure
import BareBones.Proofs.Parentage
import Mathlib.Data.List.Nodup

set_option autoImplicit false

namespace BareBones

theorem Text.of_int_injective (first second : Int) (same : ofInt first = ofInt second) :
    first = second := by
  obtain ⟨sign, digits, whole⟩ := Numeral.signed_digits first
  obtain ⟨other, numerals, total⟩ := Numeral.signed_digits second
  rw [same, numerals] at digits
  have signs : other = sign := congrArg Prod.fst (Option.some.inj digits)
  have magnitudes := congrArg (Numeral.valueOf ∘ Prod.snd) (Option.some.inj digits)
  simp only [Function.comp, Numeral.value_of_digits] at magnitudes
  rw [← whole, ← total, signs, magnitudes]

namespace Line

theorem numbered_behind (file : Text) (number : Nat) (raws : List Text) :
    ∀ line ∈ numbered file number raws, (number : Int) ≤ line.location.line := by
  induction raws generalizing number with
  | nil => simp [numbered]
  | cons raw rest ih =>
      intro line member
      rcases List.mem_cons.mp member with rfl | later
      · exact Int.le_refl _
      · have behind := ih (number + 1) line later
        omega

theorem numbered_ordered (file : Text) (number : Nat) (raws : List Text) :
    (numbered file number raws).Pairwise fun first second => first.location.line < second.location.line := by
  induction raws generalizing number with
  | nil => exact .nil
  | cons raw rest ih =>
      refine .cons ?_ (ih (number + 1))
      intro line later
      have behind := numbered_behind file (number + 1) rest line later
      have first : (ofRaw file number raw).location.line = number := rfl
      omega

theorem number_injective (file source : Text) (first second : Line) (one : first ∈ ofSource file source)
    (other : second ∈ ofSource file source) (same : first.location.line = second.location.line) :
    first = second := by
  have ordered := numbered_ordered file 1 source.lines
  have distinct : ((ofSource file source).map (·.location.line)).Nodup :=
    List.pairwise_map.mpr (ordered.imp fun less equal => absurd equal (Int.ne_of_lt less))
  exact List.inj_on_of_nodup_map distinct one other same

end Line

namespace Machine

theorem block_label_injective (kind : BlockKind) (first second : Location)
    (same : blockLabel kind first = blockLabel kind second) : first.line = second.line := by
  unfold blockLabel at same
  exact Text.of_int_injective _ _ (List.append_cancel_left same)

theorem labels_apart (first second : Location) :
    blockLabel .loop first ≠ blockLabel .branch second := by
  intro same
  cases congrArg List.head? same

end Machine

namespace Construct

def IsBlock : Construct → Prop
  | .call _ => False
  | .loop _ | .branch _ => True

theorem spawns_member {lines : List Line} {construct : Construct} {resume : Resume}
    (spawns : construct.Spawns lines resume) :
    (∀ header, construct = .loop header → header ∈ lines) ∧
      ∀ clause, construct = .branch clause → clause ∈ lines := by
  cases spawns with
  | loop stands _ _ => exact ⟨by rintro _ ⟨⟩; exact stands, nofun⟩
  | call _ _ _ => exact ⟨nofun, nofun⟩
  | branch drawn _ _ taken _ =>
      refine ⟨nofun, ?_⟩
      rintro clause ⟨⟩
      rcases taken with rfl | found
      · exact drawn.subset List.mem_cons_self
      · exact drawn.subset (List.mem_cons_of_mem _ (Block.clause_drawn found).1)

theorem label_separates (file source : Text) (construct rival : Construct) (pending waiting : Resume)
    (spawns : construct.Spawns (Line.ofSource file source) pending)
    (rivals : rival.Spawns (Line.ofSource file source) waiting) (same : construct.label = rival.label) :
    construct = rival ∨ (construct = .call rival.label ∧ rival.IsBlock) ∨
      (rival = .call construct.label ∧ construct.IsBlock) := by
  have member := spawns_member spawns
  have other := spawns_member rivals
  cases construct with
  | loop header =>
      cases rival with
      | loop second =>
          have numbers := Machine.block_label_injective .loop _ _ same
          have lines := Line.number_injective file source header second (member.1 _ rfl) (other.1 _ rfl)
          exact .inl (congrArg Construct.loop (lines numbers))
      | branch clause => exact absurd same (Machine.labels_apart _ _)
      | call name => exact .inr (.inr ⟨congrArg Construct.call same.symm, trivial⟩)
  | branch clause =>
      cases rival with
      | loop header => exact absurd same.symm (Machine.labels_apart _ _)
      | branch second =>
          have numbers := Machine.block_label_injective .branch _ _ same
          have lines := Line.number_injective file source clause second (member.2 _ rfl) (other.2 _ rfl)
          exact .inl (congrArg Construct.branch (lines numbers))
      | call name => exact .inr (.inr ⟨congrArg Construct.call same.symm, trivial⟩)
  | call name =>
      cases rival with
      | loop header => exact .inr (.inl ⟨congrArg Construct.call same, trivial⟩)
      | branch clause => exact .inr (.inl ⟨congrArg Construct.call same, trivial⟩)
      | call second => exact .inl (congrArg Construct.call same)

end Construct

namespace Machine

variable {σ : Type} {settings : Settings σ}

theorem stacked_named {world : World} {stack : List Frame} {frame : Frame}
    (stacked : Stacked settings world stack) (member : frame ∈ stack) (resumes : frame.resume ≠ none) :
    ∃ outer, frame.path = outer ++ [frame.name] := by
  induction stacked with
  | program _ _ _ _ _ none _ _ =>
      rw [List.mem_singleton.mp member] at resumes
      exact absurd none resumes
  | body body caller below _ path _ _ _ _ _ ih =>
      rcases List.mem_cons.mp member with rfl | lower
      · exact ⟨caller.path, path⟩
      · exact ih lower

theorem shows_spawned (source : Text) (capacity : Nat) (host : σ) (machine : Machine σ) (frame : Frame)
    (unobserved : settings.Unobserved) (shows : Shows settings source capacity host machine)
    (member : frame ∈ machine.stack) (resumes : frame.resume ≠ none) :
    (∃ outer, frame.path = outer ++ [frame.name]) ∧
      ∃ construct, frame.SpawnedBy (Line.ofSource settings.filename source) construct := by
  have comes := shows_comes source capacity host machine unobserved shows
  have standing := comes_standing unobserved comes (opening_standing settings source capacity host)
  have parented := comes_parented unobserved comes
    (opening_drawn settings source (.empty capacity) host)
    (opening_parented settings source (.empty capacity) host)
  exact ⟨stacked_named standing.1.stacked member resumes, (parented frame member).resolve_left resumes⟩

-- Two frames of a run that share a scope were spawned for the same construct, unless one is the call of a
-- function that has the name of the block of the other.
theorem scopes_shared (settings : Settings σ) (source : Text) (capacity : Nat) (host : σ)
    (first second : Machine σ) (frame twin : Frame) (unobserved : settings.Unobserved)
    (one : Shows settings source capacity host first)
    (other : Shows settings source capacity host second) (member : frame ∈ first.stack)
    (present : twin ∈ second.stack) (resumes : frame.resume ≠ none) (waits : twin.resume ≠ none)
    (same : frame.path = twin.path) :
    ∃ construct rival, frame.SpawnedBy (Line.ofSource settings.filename source) construct ∧
      twin.SpawnedBy (Line.ofSource settings.filename source) rival ∧
      (construct = rival ∨ (construct = .call rival.label ∧ rival.IsBlock) ∨
        (rival = .call construct.label ∧ construct.IsBlock)) := by
  obtain ⟨⟨outer, path⟩, construct, spawned⟩ :=
    shows_spawned source capacity host first frame unobserved one member resumes
  obtain ⟨⟨beyond, place⟩, rival, rivals⟩ :=
    shows_spawned source capacity host second twin unobserved other present waits
  refine ⟨construct, rival, spawned, rivals, ?_⟩
  have labels : construct.label = rival.label := by
    rw [path, place] at same
    rw [← spawned.name, ← rivals.name]
    exact (List.append_inj_right' same rfl |> List.cons.inj).1
  obtain ⟨_, pending, _, spawns⟩ := spawned
  obtain ⟨_, waiting, _, waits⟩ := rivals
  exact Construct.label_separates settings.filename source construct rival pending waiting spawns waits
    labels

def leaking : Text :=
  "function if_5 do\nset Y leak\nend\nif_5\nif 1 is 1 do\nprint {Y}\nend".toList

theorem leaking_frames : ∃ (first second : Machine Unit) (frame twin : Frame) (clause : Line),
    Shows quiet leaking 5 () first ∧ Shows quiet leaking 5 () second ∧
      frame ∈ first.stack ∧ twin ∈ second.stack ∧ frame.resume ≠ none ∧ twin.resume ≠ none ∧
      frame.path = twin.path ∧
      frame.SpawnedBy (Line.ofSource quiet.filename leaking) (.call "if_5".toList) ∧
      twin.SpawnedBy (Line.ofSource quiet.filename leaking) (.branch clause) := by
  let start := opening quiet leaking (fresh (.empty 5) ())
  let path : Path := ["f".toList, "if_5".toList]
  let call := Line.ofRaw quiet.filename 4 "if_5".toList
  let clause := Line.ofRaw quiet.filename 5 "if 1 is 1 do".toList
  let rest := (Line.ofSource quiet.filename leaking).drop 5
  let closing := Line.ofRaw quiet.filename 7 "end".toList
  have reaches : ∀ count, count ≤ 5 → Reaches quiet start (ahead quiet count start) := by
    have turns : ∀ count, count < 5 → (step quiet (ahead quiet count start)).1 = .ok true := by
      decide +kernel
    intro count
    induction count with
    | zero => exact fun _ => .refl
    | succ count ih =>
        intro bound
        exact (ih (by omega)).tail (ahead_goes quiet count start (turns count bound))
  have called : (ahead quiet 2 start).stack.head?.map (fun frame => (frame.name, frame.path, frame.resume)) =
      some ("if_5".toList, path, some (.call ⟨call.location, .call "if_5".toList []⟩ "if_5".toList [])) := by
    decide +kernel
  have branched : (ahead quiet 5 start).stack.head?.map (fun frame => (frame.name, frame.path, frame.resume)) =
      some ("if_5".toList, path, some (.branch ⟨clause.location, .branch "1 is 1".toList⟩ closing)) := by
    decide +kernel
  obtain ⟨frame, top, shape⟩ := Option.map_eq_some_iff.mp called
  obtain ⟨twin, last, form⟩ := Option.map_eq_some_iff.mp branched
  obtain ⟨name, scope, resumes⟩ : _ ∧ _ ∧ _ := by simpa only [Prod.mk.injEq] using shape
  obtain ⟨label, place, waits⟩ : _ ∧ _ ∧ _ := by simpa only [Prod.mk.injEq] using form
  refine ⟨ahead quiet 2 start, ahead quiet 5 start, frame, twin, clause,
    .inl (.head (reaches 2 (by decide))), .inl (.head (reaches 5 (by decide))),
    List.mem_of_mem_head? top, List.mem_of_mem_head? last, ?_, ?_, scope.trans place.symm,
    ⟨name, _, resumes, ?_⟩, ⟨label.trans (by decide), _, waits, ?_⟩⟩
  · simp [resumes]
  · simp [waits]
  · exact .call (by decide +kernel) (by decide) (by decide +kernel)
  · have drawn : (clause :: rest).Sublist (Line.ofSource quiet.filename leaking) :=
      List.drop_sublist 4 (Line.ofSource quiet.filename leaking)
    exact .branch drawn (by decide) (by decide +kernel) (.inl rfl) fun stops => absurd stops (by decide)

theorem scopes_shared_leaking : quiet.Unobserved ∧ ∃ first second frame twin,
    Shows quiet leaking 5 () first ∧ Shows quiet leaking 5 () second ∧ frame ∈ first.stack ∧
      twin ∈ second.stack ∧ frame.resume ≠ none ∧ twin.resume ≠ none ∧ frame.path = twin.path ∧
      ∃ construct rival, frame.SpawnedBy (Line.ofSource quiet.filename leaking) construct ∧
        twin.SpawnedBy (Line.ofSource quiet.filename leaking) rival ∧
        (construct = rival ∨ (construct = .call rival.label ∧ rival.IsBlock) ∨
          (rival = .call construct.label ∧ construct.IsBlock)) := by
  obtain ⟨first, second, frame, twin, _, one, other, member, present, resumes, waits, same, _⟩ :=
    leaking_frames
  exact ⟨quiet_unobserved, first, second, frame, twin, one, other, member, present, resumes, waits, same,
    scopes_shared quiet leaking 5 () first second frame twin quiet_unobserved one other member present
      resumes waits same⟩

theorem scopes_collide : ¬∀ (first second : Machine Unit) (frame twin : Frame) (construct rival : Construct),
    Shows quiet leaking 5 () first → Shows quiet leaking 5 () second →
      frame ∈ first.stack → twin ∈ second.stack → frame.path = twin.path →
      frame.SpawnedBy (Line.ofSource quiet.filename leaking) construct →
      twin.SpawnedBy (Line.ofSource quiet.filename leaking) rival → construct = rival := by
  intro unique
  obtain ⟨first, second, frame, twin, clause, one, other, member, present, _, _, same, called, branched⟩ :=
    leaking_frames
  cases unique first second frame twin _ _ one other member present same called branched

end Machine
end BareBones
