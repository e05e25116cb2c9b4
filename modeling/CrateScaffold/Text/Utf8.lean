import CrateScaffold.Text.Quoted

/-!
UTF-8 between bytes and text. Decoding stops at the first byte sequence that is no character and
says which bytes are at fault: the longest beginning of a character that is there, at least one
byte.
-/

namespace CrateScaffold

abbrev Bytes := List UInt8

namespace Utf8

def encode (s : Text) : Bytes := s.flatMap String.utf8EncodeChar

inductive Reason where
  | start
  | continuation
  | ended
  deriving DecidableEq, Repr

structure Fault where
  byte : UInt8
  first : Nat
  stop : Nat
  reason : Reason
  deriving DecidableEq, Repr

def lead? (b : UInt8) : Option (Nat × List (UInt8 × UInt8)) :=
  let n := b.toNat
  let rest := (0x80, 0xbf)
  if n < 0x80 then some (n, [])
  else if 0xc2 ≤ n ∧ n < 0xe0 then some (n - 0xc0, [rest])
  else if n = 0xe0 then some (0, [(0xa0, 0xbf), rest])
  else if n = 0xed then some (0xd, [(0x80, 0x9f), rest])
  else if 0xe1 ≤ n ∧ n < 0xf0 then some (n - 0xe0, [rest, rest])
  else if n = 0xf0 then some (0, [(0x90, 0xbf), rest, rest])
  else if n = 0xf4 then some (4, [(0x80, 0x8f), rest, rest])
  else if 0xf1 ≤ n ∧ n < 0xf4 then some (n - 0xf0, [rest, rest, rest])
  else none

/-- Reads the bytes that a lead byte announces after `count` read ones; or how many bytes are at
fault, and why. -/
def trail (count value : Nat) : List (UInt8 × UInt8) → Bytes → Except (Nat × Reason) Nat
  | [], _ => .ok value
  | _ :: _, [] => .error (count, .ended)
  | (lo, hi) :: rs, b :: bs =>
    if lo ≤ b ∧ b ≤ hi then trail (count + 1) (value * 64 + (b.toNat - 0x80)) rs bs
    else .error (count, .continuation)

/-- Decodes from position `at`; `skip` bytes belong to a character already read. -/
def decodeFrom (position : Nat) : Nat → Bytes → Except Fault Text
  | _, [] => .ok []
  | skip + 1, _ :: bs => decodeFrom (position + 1) skip bs
  | 0, b :: bs =>
    match lead? b with
    | none => .error ⟨b, position, position + 1, .start⟩
    | some (value, ranges) =>
      match trail 1 value ranges bs with
      | .error (count, reason) => .error ⟨b, position, position + count, reason⟩
      | .ok n => (decodeFrom (position + 1) ranges.length bs).map (Char.ofNat n :: ·)

def decode (bs : Bytes) : Except Fault Text := decodeFrom 0 0 bs

def Reason.message : Reason → Text
  | .start => "invalid start byte"
  | .continuation => "invalid continuation byte"
  | .ended => "unexpected end of data"

def Fault.message (f : Fault) : Text :=
  let place : Text :=
    if f.stop = f.first + 1 then
      "byte 0x" ++ Text.hexDigits 2 f.byte.toNat ++ " in position " ++ Text.ofNat f.first
    else
      "bytes in position " ++ Text.ofNat f.first ++ "-" ++ Text.ofNat (f.stop - 1)
  "'utf-8' codec can't decode " ++ place ++ ": " ++ f.reason.message

end Utf8

end CrateScaffold
