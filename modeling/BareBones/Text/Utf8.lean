import BareBones.Text.Basic

set_option autoImplicit false

namespace BareBones.Text.Utf8

inductive Reason where
  | invalidStart
  | invalidContinuation
  | unexpectedEnd
deriving DecidableEq, Repr

structure Flaw where
  reason : Reason
  byte : UInt8
  first : Nat
  count : Nat
deriving DecidableEq, Repr

def Reason.message : Reason → Text
  | .invalidStart => "invalid start byte".toList
  | .invalidContinuation => "invalid continuation byte".toList
  | .unexpectedEnd => "unexpected end of data".toList

def Flaw.message (flaw : Flaw) : Text :=
  let place :=
    if flaw.count == 1 then
      "byte 0x".toList ++ hex 2 flaw.byte.toNat ++ " in position ".toList ++ ofNat flaw.first
    else
      "bytes in position ".toList ++ ofNat flaw.first ++ "-".toList ++
        ofNat (flaw.first + flaw.count - 1)
  "'utf-8' codec can't decode ".toList ++ place ++ ": ".toList ++ flaw.reason.message

def lead? (byte : UInt8) : Option (Nat × Nat) :=
  let n := byte.toNat
  if n < 0x80 then some (0, n)
  else if n < 0xC2 then none
  else if n < 0xE0 then some (1, n - 0xC0)
  else if n < 0xF0 then some (2, n - 0xE0)
  else if n < 0xF5 then some (3, n - 0xF0)
  else none

-- Whether `byte` may follow as the second byte of the character that `lead` begins: a continuation byte
-- that makes neither an overlong form, nor a surrogate, nor too large a number.
def secondFits (lead byte : UInt8) : Bool :=
  let n := byte.toNat
  0x80 ≤ n && n < 0xC0 && (lead != 0xE0 || 0xA0 ≤ n) && (lead != 0xED || n < 0xA0) &&
    (lead != 0xF0 || 0x90 ≤ n) && (lead != 0xF4 || n < 0x90)

def isContinuation (byte : UInt8) : Bool :=
  0x80 ≤ byte.toNat && byte.toNat < 0xC0

def decodeFrom (place : Nat) (pending : Option (UInt8 × Nat × Nat × Nat)) :
    List UInt8 → Except Flaw Text
  | [] =>
      match pending with
      | none => .ok []
      | some (leadByte, read, _, _) => .error ⟨.unexpectedEnd, leadByte, place - read, read⟩
  | byte :: rest =>
      match pending with
      | none =>
          match lead? byte with
          | none => .error ⟨.invalidStart, byte, place, 1⟩
          | some (0, bits) => (decodeFrom (place + 1) none rest).map (Char.ofNat bits :: ·)
          | some (owed, bits) => decodeFrom (place + 1) (some (byte, 1, owed, bits)) rest
      | some (leadByte, read, owed, bits) =>
          let fits := if read == 1 then secondFits leadByte byte else isContinuation byte
          if fits then
            let bits := bits * 64 + (byte.toNat - 0x80)
            if owed ≤ 1 then
              (decodeFrom (place + 1) none rest).map (Char.ofNat bits :: ·)
            else decodeFrom (place + 1) (some (leadByte, read + 1, owed - 1, bits)) rest
          else .error ⟨.invalidContinuation, leadByte, place - read, read⟩

def decode (bytes : List UInt8) : Except Flaw Text :=
  decodeFrom 0 none bytes

end BareBones.Text.Utf8
