import BareBones.Proofs.Deed

set_option autoImplicit false

namespace BareBones

abbrev Nested (α : Type) := ExceptT Failure (StateT World Option) α

namespace Nested

variable {σ α : Type}

instance : MonadLift Deed Nested := ⟨fun deed world => some (deed world)⟩

def starved : Nested α := fun _ => none

mutual

def lines (settings : Settings σ) : Nat → Activation → Cursor → Nested Unit
  | 0, _, _ => starved
  | fuel + 1, here, cursor =>
      match Cursor.next? cursor with
      | none => return ()
      | some (line, rest) => do
          let statement ← Deed.read line
          Deed.record settings here statement
          let location := statement.location
          match statement.command with
          | .define name => do
              let (block, rest) ← Deed.carve .function location rest
              Deed.define here name block
              lines settings fuel here rest
          | .loop predicate => do
              let (block, rest) ← Deed.carve .loop location rest
              -- All rounds share one scope, which exists even if no round is run.
              Deed.enter here (Machine.blockLabel .loop location)
              loop settings fuel here location predicate block
              lines settings fuel here rest
          | .branch predicate => do
              match ← Deed.choose here (some predicate) location rest with
              | (none, rest) => lines settings fuel here rest
              | (some (block, clause), rest) => do
                  let label := Machine.blockLabel .branch clause
                  Deed.enter here label
                  let id ← Deed.spawn settings here clause
                  lines settings fuel (here.inner id label here.arguments) block.body
                  Deed.leave id
                  let rest ← Deed.skip block.terminator rest
                  lines settings fuel here rest
          | .call name arguments => do
              let block ← Deed.find here location name
              Deed.enter here name
              let id ← Deed.spawn settings here location
              lines settings fuel (here.inner id name arguments) block.body
              Deed.leave id
              lines settings fuel here rest
          | _ => do
              Deed.atOnce settings here statement
              lines settings fuel here rest

def loop (settings : Settings σ) (fuel : Nat) (here : Activation) (location : Location)
    (predicate : Text) (block : Block) : Nested Unit := do
  if ← Deed.holds here predicate location then
    let id ← Deed.spawn settings here location
    match fuel with
    | 0 => starved
    | fuel + 1 => do
        let label := Machine.blockLabel .loop location
        lines settings fuel (here.inner id label here.arguments) block.body
        Deed.leave id
        loop settings fuel here location predicate block

end

def run (settings : Settings σ) (fuel : Nat) (source : Text) (journal : Journal Nat) :
    Option (Except Failure Unit × World) :=
  let program := [settings.program]
  let world : World := ⟨Store.empty.enter program, journal, 1, []⟩
  (lines settings fuel ⟨0, program, settings.arguments, 1⟩
    (Line.ofSource settings.filename source) world).map fun
    | (.error failure, after) => (.error (.fault (after.faultOf failure)), after)
    | done => done

end Nested
end BareBones
