import BareBones.Bindings
import BareBones.Failure

set_option autoImplicit false

namespace BareBones

inductive Event where
  | programStart
  | beforeStatement
  | afterStatement
  | beforeCall
  | afterCall
  | onError
  | programEnd
deriving DecidableEq, Repr

namespace Event

def all : List Event :=
  [.programStart, .beforeStatement, .afterStatement, .beforeCall, .afterCall, .onError, .programEnd]

def name : Event → Text
  | .programStart => "program_start".toList
  | .beforeStatement => "before_statement".toList
  | .afterStatement => "after_statement".toList
  | .beforeCall => "before_call".toList
  | .afterCall => "after_call".toList
  | .onError => "on_error".toList
  | .programEnd => "program_end".toList

def ofName? (text : Text) : Option Event :=
  all.find? (·.name == text)

end Event

structure Registration (η : Type) where
  priority : Int
  handler : η

structure Registry (η : Type) where
  registrations : Bindings Event (List (Registration η))

namespace Registry

variable {η : Type}

def empty : Registry η := ⟨[]⟩

def insert (fresh : Registration η) : List (Registration η) → List (Registration η)
  | [] => [fresh]
  | old :: rest =>
      if old.priority < fresh.priority then fresh :: old :: rest else old :: insert fresh rest

def of (registry : Registry η) (event : Event) : List (Registration η) :=
  (registry.registrations.get? event).getD []

def register (registry : Registry η) (event : Event) (fresh : Registration η) : Registry η :=
  ⟨registry.registrations.put event (insert fresh (registry.of event))⟩

def registerNamed (registry : Registry η) (name : Text) (fresh : Registration η) :
    Except Signal (Registry η) :=
  match Event.ofName? name with
  | some event => .ok (registry.register event fresh)
  | none => .error (.unknownEvent name)

def registrar (name : Text) (priority : Int) : Except Signal (η → Registry η → Registry η) :=
  match Event.ofName? name with
  | some event => .ok fun handler registry => registry.register event ⟨priority, handler⟩
  | none => .error (.unknownEvent name)

-- Calls the handlers of an event one after another until one fails. The list is looked up anew before each
-- call, because a handler may register others: one that comes above moves those below it on by a place.
def emitFrom {σ ε : Type} (held : σ → Registry η) (call : η → σ → Except ε Unit × σ) (event : Event) :
    Nat → Nat → σ → Option (Except ε Unit × σ)
  | 0, _, _ => none
  | fuel + 1, place, state =>
      match ((held state).of event)[place]? with
      | none => some (.ok (), state)
      | some registration =>
          match call registration.handler state with
          | (.ok (), after) => emitFrom held call event fuel (place + 1) after
          | (.error failure, after) => some (.error failure, after)

def emit {σ ε : Type} (held : σ → Registry η) (name : Text) (call : η → σ → Except ε Unit × σ) (fuel : Nat)
    (state : σ) : Option (Except ε Unit × σ) :=
  match Event.ofName? name with
  | some event => emitFrom held call event fuel 0 state
  | none => some (.ok (), state)

def callAll {σ ε : Type} (call : η → σ → Except ε Unit × σ) :
    List (Registration η) → σ → Except ε Unit × σ
  | [], state => (.ok (), state)
  | registration :: rest, state =>
      match call registration.handler state with
      | (.ok (), state) => callAll call rest state
      | (.error failure, state) => (.error failure, state)

def notify {σ ε : Type} (registry : Registry η) (event : Event) (call : η → σ → Except ε Unit × σ)
    (state : σ) : Except ε Unit × σ :=
  callAll call (registry.of event) state

def notifyNamed {σ ε : Type} (registry : Registry η) (name : Text)
    (call : η → σ → Except ε Unit × σ) (state : σ) : Except ε Unit × σ :=
  match Event.ofName? name with
  | some event => registry.notify event call state
  | none => (.ok (), state)

end Registry
end BareBones
