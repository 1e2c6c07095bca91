import BareBones.Proofs.Step

set_option autoImplicit false

namespace BareBones

variable {σ α β γ : Type}

def Handler.Keeps (view : Machine σ → γ) (handler : Handler σ) : Prop :=
  ∀ notice machine, view (handler notice machine).2 = view machine

def Settings.Keeps (view : Machine σ → γ) (settings : Settings σ) : Prop :=
  ∀ event, ∀ registration ∈ settings.handlers.of event, registration.handler.Keeps view

namespace Machine

def Keeps (view : Machine σ → γ) (act : Act σ α) : Prop :=
  ∀ machine, view (act machine).2 = view machine

section

variable {view : Machine σ → γ}

theorem keeps_bind {act : Act σ β} {next : β → Act σ α} (first : Keeps view act)
    (second : ∀ b, Keeps view (next b)) : Keeps view (act >>= next) := by
  intro machine
  have step := first machine
  rw [effect_bind]
  generalize act machine = done at step ⊢
  rcases done with ⟨failure | b, after⟩
  · exact step
  · exact (second b after).trans step

theorem keeps_locating {act : Act σ α} (location : Location) (keeps : Keeps view act) :
    Keeps view (locating location act) := by
  intro machine
  have step := keeps machine
  unfold locating
  generalize act machine = done at step ⊢
  rcases done with ⟨failure | a, after⟩
  · exact step
  · exact step

theorem keeps_pure (a : α) : Keeps view (pure a : Act σ α) := fun _ => rfl

theorem keeps_throw (failure : Failure) : Keeps view (throw failure : Act σ α) := fun _ => rfl

theorem keeps_get : Keeps view (get : Act σ (Machine σ)) := fun _ => rfl

theorem keeps_settle (result : Except Failure α) : Keeps view (settle result : Act σ α) := fun _ => rfl

theorem keeps_read_variable (frame : Frame) (name : Text) :
    Keeps view (readVariable frame name : Act σ Value) := by
  refine keeps_bind keeps_get fun machine => ?_
  split
  · exact keeps_pure _
  · exact keeps_throw _

theorem keeps_modify (change : Machine σ → Machine σ)
    (same : ∀ machine, view (change machine) = view machine) :
    Keeps view (modify change : Act σ Unit) := same

theorem call_all_keeps (notice : Notice) (registrations : List (Registration (Handler σ)))
    (keep : ∀ registration ∈ registrations, registration.handler.Keeps view) (machine : Machine σ) :
    view (Registry.callAll (fun handler => handler notice) registrations machine).2 = view machine := by
  induction registrations generalizing machine with
  | nil => rfl
  | cons registration rest ih =>
      have step := keep registration List.mem_cons_self notice machine
      rw [Registry.callAll]
      generalize registration.handler notice machine = done at step ⊢
      rcases done with ⟨failure | _, after⟩
      · exact step
      · exact (ih (fun other member => keep other (List.mem_cons_of_mem _ member)) after).trans step

theorem keeps_announce {settings : Settings σ} (keeps : settings.Keeps view) (notice : Notice) :
    Keeps view (announce settings notice) := by
  intro machine
  have step := call_all_keeps notice _ (keeps notice.event) machine
  unfold announce Registry.notify
  generalize Registry.callAll _ _ machine = done at step ⊢
  rcases done with ⟨(fault | signal | broken) | _, after⟩
  · exact step
  · exact step
  · exact step
  · exact step

end

structure Oblivious (view : Machine σ → γ) : Prop where
  moved : ∀ cursor machine, view (machine.setCursor cursor) = view machine
  traced : ∀ machine traced, view { machine with traced } = view machine
  stored : ∀ machine store, view { machine with store } = view machine

section

variable {view : Machine σ → γ} {settings : Settings σ} {frame : Frame} (oblivious : Oblivious view)
include oblivious

theorem keeps_move (cursor : Cursor) : Keeps view (modify (setCursor cursor) : Act σ Unit) :=
  keeps_modify _ (oblivious.moved cursor)

theorem keeps_note (location : Option Location) (message : Text) :
    Keeps view (note settings location message) := by
  refine keeps_modify _ fun machine => ?_
  split
  · exact oblivious.traced machine _
  · rfl

theorem keeps_assign (name : Text) (value : Value) : Keeps view (assign frame name value : Act σ Unit) :=
  keeps_modify _ fun machine => oblivious.stored machine _

theorem keeps_test (predicate : Text) (location : Location) :
    Keeps view (test settings frame predicate location) := by
  refine keeps_bind keeps_get fun machine => ?_
  refine keeps_bind (keeps_locating location (keeps_settle _)) fun holds => ?_
  exact keeps_bind (keeps_note oblivious _ _) fun _ => keeps_pure holds

theorem keeps_read_block (kind : BlockKind) (header : Location) (cursor : Cursor) :
    Keeps view (readBlock kind header cursor : Act σ Block) := by
  refine keeps_bind (keeps_move oblivious _) fun _ => ?_
  split
  · exact keeps_pure _
  · exact keeps_throw _

theorem keeps_admits (location : Location) (predicate : Option Text) :
    Keeps view (admits settings frame location predicate) := by
  cases predicate with
  | some text => exact keeps_test oblivious text location
  | none => exact keeps_pure true

theorem keeps_choose (predicate : Option Text) (location : Location) (lines : Cursor) :
    Keeps view (chooseBranch settings frame predicate location lines) := by
  cases reading : Block.read BlockKind.branch.keyword location true lines with
  | error fault =>
      rw [choose_branch_unread _ _ _ (Block.take_unread reading)]
      exact keeps_bind (keeps_move oblivious _) fun _ => keeps_throw _
  | ok carved =>
      obtain ⟨block, rest⟩ := carved
      rw [choose_branch_read _ _ _ _ _ _ _ reading]
      refine keeps_bind (keeps_move oblivious rest) fun _ =>
        keeps_bind (keeps_admits oblivious _ _) fun taken => ?_
      split
      · exact keeps_pure _
      · split
        · exact keeps_pure _
        · cases taking : Cursor.next? rest with
          | none => exact keeps_throw _
          | some ahead =>
              obtain ⟨line, after⟩ := ahead
              refine keeps_bind (keeps_move oblivious after) fun _ => ?_
              split
              · exact keeps_throw _
              · exact keeps_choose _ line.location after
termination_by lines.length
decreasing_by
  have kept := Block.read_rest_length reading
  have shorter := Cursor.next_shorter _ _ _ taking
  omega

theorem keeps_count (location : Location) (direction : Direction) (name : Text) :
    Keeps view (count frame location direction name : Act σ Unit) := by
  refine keeps_bind (keeps_read_variable frame name) fun previous => ?_
  refine keeps_bind (keeps_settle _) fun number => ?_
  cases number with
  | some n => exact keeps_assign oblivious name _
  | none => exact keeps_bind (keeps_settle _) fun _ => keeps_throw _

end

end Machine
end BareBones
