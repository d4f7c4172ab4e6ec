import Pinpoint.Text.Quoted
import Pinpoint.Text.Numeral

/-!
# UTF-8

Decoding is strict: no overlong forms, no surrogates and nothing beyond the last
code point. It reads one byte at a time and stops at the first byte that rules
the input out. The fault then names the bytes of the unfinished character, or
the byte itself when no character can start with it.
-/

namespace Pinpoint.Text.Utf8

def encode (t : Text) : List UInt8 :=
  t.flatMap String.utf8EncodeChar

inductive Reason
  | invalidStart
  | invalidContinuation
  | unexpectedEnd
deriving DecidableEq, Repr

/-- Bytes that no character explains. -/
structure Fault where
  first : Nat
  start : Nat
  length : Nat
  reason : Reason
deriving DecidableEq, Repr

def Reason.message : Reason → Text
  | .invalidStart => "invalid start byte".toList
  | .invalidContinuation => "invalid continuation byte".toList
  | .unexpectedEnd => "unexpected end of data".toList

def Fault.message (f : Fault) : Text :=
  "'utf-8' codec can't decode ".toList ++
    (if f.length = 1 then
      "byte 0x".toList ++ Quoted.hex 2 f.first ++ " in position ".toList ++ Numeral.ofNat f.start
    else
      "bytes in position ".toList ++ Numeral.ofNat f.start ++ "-".toList ++
        Numeral.ofNat (f.start + f.length - 1)) ++
    ": ".toList ++ f.reason.message

/-- What a first byte promises: its share of the code point, how many bytes
follow, and the range of the next one. -/
structure Lead where
  bits : Nat
  more : Nat
  low : Nat
  high : Nat
deriving DecidableEq, Repr

def lead? (b : Nat) : Option Lead :=
  if b < 0x80 then some ⟨b, 0, 0x80, 0xBF⟩
  else if b < 0xC2 then none
  else if b < 0xE0 then some ⟨b - 0xC0, 1, 0x80, 0xBF⟩
  else if b = 0xE0 then some ⟨b - 0xE0, 2, 0xA0, 0xBF⟩
  else if b = 0xED then some ⟨b - 0xE0, 2, 0x80, 0x9F⟩
  else if b < 0xF0 then some ⟨b - 0xE0, 2, 0x80, 0xBF⟩
  else if b = 0xF0 then some ⟨b - 0xF0, 3, 0x90, 0xBF⟩
  else if b < 0xF4 then some ⟨b - 0xF0, 3, 0x80, 0xBF⟩
  else if b = 0xF4 then some ⟨b - 0xF0, 3, 0x80, 0x8F⟩
  else none

/-- A character of which some bytes have been read and `more` are missing. -/
structure Unfinished where
  first : Nat
  start : Nat
  read : Nat
  bits : Nat
  more : Nat
  low : Nat
  high : Nat
deriving DecidableEq, Repr

def Unfinished.fault (u : Unfinished) (reason : Reason) : Fault :=
  ⟨u.first, u.start, u.read, reason⟩

/-- The characters of the bytes from `position` on, `open?` being unfinished before them. -/
def decodeFrom (open? : Option Unfinished) (position : Nat) : List UInt8 → Except Fault Text
  | [] =>
    match open? with
    | none => .ok []
    | some u => .error (u.fault .unexpectedEnd)
  | byte :: rest =>
    let b := byte.toNat
    match open? with
    | none =>
      match lead? b with
      | none => .error ⟨b, position, 1, .invalidStart⟩
      | some l =>
        if l.more = 0 then (decodeFrom none (position + 1) rest).map (Char.ofNat l.bits :: ·)
        else decodeFrom (some ⟨b, position, 1, l.bits, l.more, l.low, l.high⟩) (position + 1) rest
    | some u =>
      if u.low ≤ b ∧ b ≤ u.high then
        let bits := u.bits * 64 + (b - 0x80)
        if u.more = 1 then (decodeFrom none (position + 1) rest).map (Char.ofNat bits :: ·)
        else
          decodeFrom (some { u with read := u.read + 1, bits, more := u.more - 1, low := 0x80, high := 0xBF })
            (position + 1) rest
      else .error (u.fault .invalidContinuation)

def decode (bytes : List UInt8) : Except Fault Text :=
  decodeFrom none 0 bytes

end Pinpoint.Text.Utf8
