import BareBones.Event
import Mathlib.Data.List.Induction
import Mathlib.Data.List.Sort

set_option autoImplicit false

namespace BareBones

namespace Event

end Event

namespace Registry

variable {η α σ : Type}

def Precedes (one other : Registration η) : Prop := other.priority ≤ one.priority

instance : DecidableRel (Precedes (η := η)) := fun one other => inferInstanceAs (Decidable (other.priority ≤ one.priority))

def sorted (registrations : List (Registration η)) : List (Registration η) :=
  registrations.mergeSort fun one other => decide (Precedes one other)

section

variable {ε : Type} (held : σ → Registry η) (call : η → σ → Except ε Unit × σ)
  (kept : ∀ handler state, held (call handler state).2 = held state)

include kept

end

inductive Form where
  | direct
  | deferred

structure Request (η : Type) where
  form : Form
  name : Text
  fresh : Registration η

def serve (registry : Registry η) (request : Request η) : Except Signal (Registry η) :=
  match request.form with
  | .direct => registry.registerNamed request.name request.fresh
  | .deferred =>
      (registrar request.name request.fresh.priority).map fun register => register request.fresh.handler registry

structure Reply (η σ : Type) where
  result : Except Failure Unit
  requests : List (Request η)
  state : σ

structure Desk (η σ : Type) where
  registry : Registry η
  asked : List (Request η)
  state : σ

inductive Use (η α : Type) where
  | request (request : Request η)
  | emit (name : Text) (arguments : α)

namespace Desk

def ask (desk : Desk η σ) (request : Request η) : Except Failure Unit × Desk η σ :=
  let asked := desk.asked ++ [request]
  match desk.registry.serve request with
  | .ok registry => (.ok (), { desk with registry, asked })
  | .error signal => (.error (.signal signal), { desk with asked })

def askAll (desk : Desk η σ) (requests : List (Request η)) : Desk η σ :=
  requests.foldl (fun desk request => (desk.ask request).2) desk

def answer (call : η → α → Registry η → σ → Reply η σ) (arguments : α) (handler : η) (desk : Desk η σ) :
    Except Failure Unit × Desk η σ :=
  let reply := call handler arguments desk.registry desk.state
  (reply.result, { desk.askAll reply.requests with state := reply.state })

def emit (call : η → α → Registry η → σ → Reply η σ) (fuel : Nat) (name : Text) (arguments : α)
    (desk : Desk η σ) : Option (Except Failure Unit × Desk η σ) :=
  Registry.emit Desk.registry name (answer call arguments) fuel desk

def perform (call : η → α → Registry η → σ → Reply η σ) (fuel : Nat) (desk : Desk η σ) :
    Use η α → Option (Except Failure Unit × Desk η σ)
  | .request request => some (desk.ask request)
  | .emit name arguments => desk.emit call fuel name arguments

end Desk

structure Turn (η : Type) where
  registration : Registration η
  requests : List (Request η)

def wanted (event : Event) (asked : List (Request η)) : List (Registration η) :=
  (asked.filter (·.name = event.name)).map (·.fresh)

def Desk.Kept (desk : Desk η σ) : Prop :=
  ∀ event, desk.registry.of event = sorted (wanted event desk.asked)

section

variable (call : η → α → Registry η → σ → Reply η σ) (event : Event) (arguments : α)

-- The handlers of an event are called from a place of the list on, each with the arguments, until one fails
-- or the list ends. The list is that of the registry as it stands when the handler is called.
inductive Calls : Nat → Desk η σ → List (Turn η) → Except Failure Unit → Desk η σ → Prop
  | done {place : Nat} {desk : Desk η σ} (ends : (desk.registry.of event)[place]? = none) :
      Calls place desk [] (.ok ()) desk
  | next {place : Nat} {desk last : Desk η σ} {registration : Registration η} {turns : List (Turn η)}
      {result : Except Failure Unit} (stands : (desk.registry.of event)[place]? = some registration)
      (answers : (desk.answer call arguments registration.handler).1 = .ok ())
      (later : Calls (place + 1) (desk.answer call arguments registration.handler).2 turns result last) :
      Calls place desk
        (⟨registration, (call registration.handler arguments desk.registry desk.state).requests⟩ :: turns) result last
  | stops {place : Nat} {desk : Desk η σ} {registration : Registration η} {failure : Failure}
      (stands : (desk.registry.of event)[place]? = some registration)
      (fails : (desk.answer call arguments registration.handler).1 = .error failure) :
      Calls place desk [⟨registration, (call registration.handler arguments desk.registry desk.state).requests⟩]
        (.error failure) (desk.answer call arguments registration.handler).2

end

-- The requests that uses make of a registry, in their order, with those of the handlers that an announcement calls.
inductive Asked (call : η → α → Registry η → σ → Reply η σ) :
    Desk η σ → List (Use η α) → List (Request η) → Desk η σ → Prop
  | nil {desk : Desk η σ} : Asked call desk [] [] desk
  | request {desk last : Desk η σ} {request : Request η} {uses : List (Use η α)} {asked : List (Request η)}
      (later : Asked call (desk.ask request).2 uses asked last) :
      Asked call desk (.request request :: uses) (request :: asked) last
  | emit {desk middle last : Desk η σ} {event : Event} {arguments : α} {turns : List (Turn η)}
      {result : Except Failure Unit} {uses : List (Use η α)} {asked : List (Request η)}
      (calls : Calls call event arguments 0 desk turns result middle) (later : Asked call middle uses asked last) :
      Asked call desk (.emit event.name arguments :: uses) (turns.flatMap (·.requests) ++ asked) last
  | unknown {desk last : Desk η σ} {name : Text} {arguments : α} {uses : List (Use η α)}
      {asked : List (Request η)} (unknown : ∀ event : Event, name ≠ event.name)
      (later : Asked call desk uses asked last) : Asked call desk (.emit name arguments :: uses) asked last

section

variable {call : η → α → Registry η → σ → Reply η σ} {event : Event} {arguments : α} {desk last : Desk η σ}

-- No handler that was called has asked for another one of the event above itself.
def Modest (event : Event) (turns : List (Turn η)) : Prop :=
  ∀ turn ∈ turns, ∀ request ∈ turn.requests, request.name = event.name →
    Precedes turn.registration request.fresh

def Settled (call : η → α → Registry η → σ → Reply η σ) (event : Event) (arguments : α)
    (registrations : List (Registration η)) : Prop :=
  ∀ registration ∈ registrations, ∀ registry state,
    ∀ request ∈ (call registration.handler arguments registry state).requests, request.name ≠ event.name

end

section

variable (call : η → α → Registry η → σ → Reply η σ)

structure Ordered (start : σ) (uses : List (Use η α)) (desk : Desk η σ) : Prop where
  asked : Asked call ⟨.empty, [], start⟩ uses desk.asked desk
  order : ∀ event, desk.registry.of event = sorted (wanted event desk.asked)
  refuses : ∀ request : Request η, (∀ event : Event, request.name ≠ event.name) →
    desk.ask request =
      (.error (.signal (.unknownEvent request.name)), { desk with asked := desk.asked ++ [request] })
  calls : ∀ event arguments fuel result last, desk.emit call fuel event.name arguments = some (result, last) →
    ∃ turns, Calls call event arguments 0 desk turns result last ∧
      last = { desk.askAll (turns.flatMap (·.requests)) with state := last.state } ∧
      (Modest event turns → turns.map (·.registration) <+: last.registry.of event ∧
        (result = .ok () → turns.map (·.registration) = last.registry.of event))
  ends : ∀ event arguments, Settled call event arguments (desk.registry.of event) →
    ∃ turns result last,
      (∃ enough, ∀ fuel, enough ≤ fuel → desk.emit call fuel event.name arguments = some (result, last)) ∧
      Calls call event arguments 0 desk turns result last ∧
      turns.map (·.registration) <+: sorted (wanted event desk.asked) ∧
      (result = .ok () → turns.map (·.registration) = sorted (wanted event desk.asked)) ∧
      ((∀ turn ∈ turns, turn.requests = []) → last.registry = desk.registry)
  -- Where no handler can reach the registry, an announcement is what a machine does that tells its observers.
  notifies : ∀ name (handle : η → σ → Except Failure Unit × σ) state, ∃ enough, ∀ fuel, enough ≤ fuel →
    Registry.emit (fun _ => desk.registry) name handle fuel state =
      some (desk.registry.notifyNamed name handle state)

end

end Registry
end BareBones
