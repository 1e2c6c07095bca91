import BareBones.Proofs.Lockstep

set_option autoImplicit false

namespace BareBones

variable {σ τ β : Type}

def Handler.Leaves (view : Machine σ → β) (notice : Notice) (handler : Handler σ) : Prop :=
  ∀ machine, ∃ after, handler notice machine = (.ok (), after) ∧ view after = view machine

namespace Machine

def interpreter (machine : Machine σ) : World × List Frame :=
  (machine.world, machine.stack)

def hosted (host : τ) (machine : Machine σ) : Machine τ :=
  ⟨machine.store, machine.stack, machine.journal, machine.created, machine.written, machine.traced, host⟩

end Machine

def Settings.Watched (settings : Settings σ) : Prop :=
  ∀ (notice : Notice), ∀ registration ∈ settings.handlers.of notice.event,
    registration.handler.Leaves Machine.interpreter notice

def Settings.Heard (settings : Settings σ) (hears : σ → List Notice) : Prop :=
  ∀ notice machine after, Machine.announce settings notice machine = (.ok (), after) →
    hears after.host = hears machine.host ++ [notice]

def Handler.recorder : Handler (σ × List Notice) := fun notice machine =>
  (.ok (), { machine with host := (machine.host.1, machine.host.2 ++ [notice]) })

def Handler.unaware (handler : Handler σ) : Handler (σ × List Notice) := fun notice machine =>
  match handler notice (machine.hosted machine.host.1) with
  | (result, after) => (result, after.hosted (after.host, machine.host.2))

def Registration.unaware (registration : Registration (Handler σ)) :
    Registration (Handler (σ × List Notice)) :=
  ⟨registration.priority, registration.handler.unaware⟩

def Registry.recorded (registry : Registry (Handler σ)) : Registry (Handler (σ × List Notice)) :=
  ⟨Event.all.map fun event =>
    (event, ⟨0, Handler.recorder⟩ :: (registry.of event).map Registration.unaware)⟩

def Settings.recorded (settings : Settings σ) : Settings (σ × List Notice) :=
  { settings with handlers := settings.handlers.recorded }

theorem Registry.recorded_of (registry : Registry (Handler σ)) (event : Event) :
    registry.recorded.of event =
      ⟨0, Handler.recorder⟩ :: (registry.of event).map Registration.unaware := by
  cases event <;> rfl

namespace Machine

variable {settings : Settings σ}

theorem unaware_record (handler : Handler σ) (notice : Notice) (machine : Machine (σ × List Notice)) :
    (handler.unaware notice machine).2.host.2 = machine.host.2 := by
  unfold Handler.unaware
  rcases handler notice (machine.hosted machine.host.1) with ⟨result, after⟩
  rfl

theorem unaware_leaves {notice : Notice} {handler : Handler σ}
    (leaves : handler.Leaves interpreter notice) : handler.unaware.Leaves interpreter notice := by
  intro machine
  obtain ⟨after, told, same⟩ := leaves (machine.hosted machine.host.1)
  refine ⟨after.hosted (after.host, machine.host.2), ?_, same⟩
  unfold Handler.unaware
  rw [told]

theorem recorded_watched (watched : settings.Watched) : settings.recorded.Watched := by
  intro notice registration member
  have member : registration ∈ settings.handlers.recorded.of notice.event := member
  rw [Registry.recorded_of] at member
  rcases List.mem_cons.mp member with rfl | further
  · exact fun machine => ⟨_, rfl, rfl⟩
  · obtain ⟨original, found, rfl⟩ := List.mem_map.mp further
    exact unaware_leaves (watched notice original found)

theorem call_all_leaves {view : Machine σ → β} {notice : Notice}
    (registrations : List (Registration (Handler σ)))
    (leave : ∀ registration ∈ registrations, registration.handler.Leaves view notice)
    (machine : Machine σ) :
    ∃ after, Registry.callAll (fun handler => handler notice) registrations machine = (.ok (), after) ∧
      view after = view machine := by
  induction registrations generalizing machine with
  | nil => exact ⟨machine, rfl, rfl⟩
  | cons registration rest ih =>
      obtain ⟨middle, told, same⟩ := leave registration List.mem_cons_self machine
      obtain ⟨after, further, kept⟩ :=
        ih (fun other member => leave other (List.mem_cons_of_mem _ member)) middle
      refine ⟨after, ?_, kept.trans same⟩
      rw [Registry.callAll, told]
      exact further

theorem watched_discreet (watched : settings.Watched) : Discreet settings := by
  intro notice machine
  obtain ⟨after, told, same⟩ := call_all_leaves _ (watched notice) machine
  refine ⟨after, ?_, congrArg Prod.fst same, congrArg Prod.snd same⟩
  unfold announce Registry.notify
  rw [told]

theorem recorded_discreet (watched : settings.Watched) : Discreet settings.recorded :=
  watched_discreet (recorded_watched watched)

theorem call_all_record (notice : Notice) (registrations : List (Registration (Handler σ)))
    (machine : Machine (σ × List Notice)) :
    (Registry.callAll (fun handler => handler notice) (registrations.map Registration.unaware)
      machine).2.host.2 = machine.host.2 := by
  induction registrations generalizing machine with
  | nil => rfl
  | cons registration rest ih =>
      have kept := unaware_record registration.handler notice machine
      rw [List.map_cons, Registry.callAll]
      generalize told : registration.unaware.handler notice machine = done
      have same : done.2.host.2 = machine.host.2 := told ▸ kept
      rcases done with ⟨failure | _, middle⟩
      · exact same
      · exact (ih middle).trans same

theorem recorded_heard (settings : Settings σ) : settings.recorded.Heard Prod.snd := by
  intro notice machine after told
  have kept := call_all_record notice (settings.handlers.of notice.event)
    { machine with host := (machine.host.1, machine.host.2 ++ [notice]) }
  have notified :
      settings.recorded.handlers.notify notice.event (fun handler => handler notice) machine =
        Registry.callAll (fun handler => handler notice)
          ((settings.handlers.of notice.event).map Registration.unaware)
          { machine with host := (machine.host.1, machine.host.2 ++ [notice]) } := by
    change Registry.callAll _ (settings.handlers.recorded.of notice.event) machine = _
    rw [Registry.recorded_of]
    rfl
  unfold announce at told
  rw [notified] at told
  generalize Registry.callAll _ _ _ = done at told kept
  rcases done with ⟨(fault | signal | breakdown) | _, last⟩
  · cases told
  · cases told
  · cases told
  · cases told
    exact kept

theorem recorded_companions (watched : settings.Watched) :
    Companions (.same fun _ => False) settings settings.recorded where
  bridge := Deed.bridge_self rfl fun here location => Deed.paired_self (Deed.spawn settings here location)
  emits := Deed.emits_self rfl
  discreet := watched_discreet watched
  silent := recorded_discreet watched

theorem finish_discreet (discreet : Discreet settings) (ending : Ending σ) :
    ∃ after, finish settings ending = ((conclude ending).1, after) ∧
      after.interpreter = (conclude ending).2.interpreter := by
  rcases ending with ⟨failure | _, last⟩
  · obtain ⟨after, told, sameWorld, sameStack⟩ := discreet (.onError (last.faultOf failure)) last
    refine ⟨after, ?_, Prod.ext sameWorld sameStack⟩
    simp only [finish, fail, told, conclude]
  · obtain ⟨after, told, sameWorld, sameStack⟩ := discreet (.programEnd 0) last
    refine ⟨after.pop, ?_, Prod.ext sameWorld (congrArg List.tail sameStack)⟩
    simp only [finish, succeed, told, conclude]

theorem run_discreet (discreet : Discreet settings) (source : Text) (machine : Machine σ) :
    ∃ begun, announce settings (.programStart [settings.program]) (machine.enterProgram settings) =
        (.ok (), begun) ∧
      (begun.load settings source).interpreter = (opening settings source machine).interpreter ∧
      ∀ fuel, run settings fuel source machine =
        (drive settings fuel (begun.load settings source)).map (finish settings) := by
  obtain ⟨begun, told, sameWorld, sameStack⟩ :=
    discreet (.programStart [settings.program]) (machine.enterProgram settings)
  refine ⟨begun, told, Prod.ext ?_ ?_, fun fuel => ?_⟩
  · exact (set_cursor_world _ begun).trans (sameWorld.trans (set_cursor_world _ _).symm)
  · have top : begun.stack = _ := sameStack
    simp only [interpreter, load, opening, setCursor, top]
    rfl
  · unfold run start
    rw [told]
    rfl

theorem trial_recorded (watched : settings.Watched) (source : Text) (capacity : Nat) (host : σ)
    (fuel : Nat) (result : Except Failure Unit) (after : Machine σ)
    (ran : trial settings source capacity host fuel = some (result, after)) :
    ∃ beside, trial settings.recorded source capacity (host, []) fuel = some (result, beside) ∧
      beside.world = after.world ∧ beside.stack.length = after.stack.length := by
  obtain ⟨begun, _, start, runs⟩ :=
    run_discreet (watched_discreet watched) source (fresh (.empty capacity) host)
  obtain ⟨counterpart, _, startBeside, runsBeside⟩ :=
    run_discreet (recorded_discreet watched) source (fresh (.empty capacity) (host, []))
  have same : (begun.load settings source).interpreter =
      (counterpart.load settings.recorded source).interpreter := start.trans startBeside.symm
  have abreast := drive_abreast (recorded_companions watched) fuel (begun.load settings source)
    (counterpart.load settings.recorded source) (congrArg Prod.snd same) (congrArg Prod.fst same)
  unfold trial at ran ⊢
  rw [runs] at ran
  rw [runsBeside]
  generalize drive settings fuel _ = driven, drive settings.recorded fuel _ = other at abreast ran ⊢
  cases abreast with
  | running => cases ran
  | @ended ending paired together =>
      obtain ⟨results, worlds, heights⟩ := conclude_together together fun _ _ => id
      obtain ⟨last, finished, here⟩ := finish_discreet (watched_discreet watched) ending
      obtain ⟨beside, completed, there⟩ := finish_discreet (recorded_discreet watched) paired
      rw [Option.map_some, finished] at ran
      cases ran
      refine ⟨beside, ?_, ?_, ?_⟩
      · rw [Option.map_some, completed, results]
      · exact (congrArg Prod.fst there).trans (worlds.symm.trans (congrArg Prod.fst here).symm)
      · exact (congrArg (·.2.length) there).trans (heights.symm.trans (congrArg (·.2.length) here).symm)
  | excused excuse => exact excuse.elim

end Machine
end BareBones
