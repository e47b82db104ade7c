/-!
# UTF-8

Decoding bytes. A character takes one byte, or a first byte that says how many continuation bytes
follow; the first byte also narrows the range of the second, so that no character has two encodings
and no surrogate has any. Decoding stops at the first fault, which says where the faulty bytes are
and what is wrong with them.
-/

namespace MarkupLog.Utf8

inductive Reason
  | invalidStart
  | invalidContinuation
  | unexpectedEnd
  deriving Repr, DecidableEq

/-- Bytes that encode no character: the first of them, where they are, how many they are, and what
is wrong. -/
structure Fault where
  first : UInt8
  position : Nat
  length : Nat
  reason : Reason
  deriving Repr, DecidableEq

def Reason.message : Reason → String
  | .invalidStart => "invalid start byte"
  | .invalidContinuation => "invalid continuation byte"
  | .unexpectedEnd => "unexpected end of data"

def hexDigit (n : Nat) : Char :=
  Char.ofNat (if n < 10 then 0x30 + n else 0x57 + n)

def byteText (b : UInt8) : String :=
  "0x" ++ String.ofList [hexDigit (b.toNat / 16), hexDigit (b.toNat % 16)]

def Fault.message (f : Fault) : String :=
  let place :=
    if f.length = 1 then "byte " ++ byteText f.first ++ " in position " ++ toString f.position
    else "bytes in position " ++ toString f.position ++ "-"
      ++ toString (f.position + f.length - 1)
  "'utf-8' codec can't decode " ++ place ++ ": " ++ f.reason.message

/-! ### Characters -/

/-- A character whose first bytes are read: the very first, how many are read, how many are still to
come, the range of the next one, and the number that the bytes so far write. -/
structure Pending where
  first : UInt8
  seen : Nat
  owed : Nat
  low : Nat
  high : Nat
  code : Nat
  deriving Repr, DecidableEq

/-- What a first byte opens; `none` if no character starts with it. -/
def opening? (b : UInt8) : Option Pending :=
  let n := b.toNat
  if n < 0x80 then some ⟨b, 1, 0, 0x80, 0xBF, n⟩
  else if n < 0xC2 then none
  else if n < 0xE0 then some ⟨b, 1, 1, 0x80, 0xBF, n - 0xC0⟩
  else if n = 0xE0 then some ⟨b, 1, 2, 0xA0, 0xBF, n - 0xE0⟩
  else if n = 0xED then some ⟨b, 1, 2, 0x80, 0x9F, n - 0xE0⟩
  else if n < 0xF0 then some ⟨b, 1, 2, 0x80, 0xBF, n - 0xE0⟩
  else if n = 0xF0 then some ⟨b, 1, 3, 0x90, 0xBF, n - 0xF0⟩
  else if n < 0xF4 then some ⟨b, 1, 3, 0x80, 0xBF, n - 0xF0⟩
  else if n = 0xF4 then some ⟨b, 1, 3, 0x80, 0x8F, n - 0xF0⟩
  else none

/-- The character with one more byte; `none` if the byte cannot follow. -/
def Pending.next? (p : Pending) (b : UInt8) : Option Pending :=
  let n := b.toNat
  if p.low ≤ n ∧ n ≤ p.high then
    some ⟨p.first, p.seen + 1, p.owed - 1, 0x80, 0xBF, 64 * p.code + (n - 0x80)⟩
  else none

/-- The fault of a character that does not go on as it should, found before the byte at
`position`. -/
def Pending.fault (p : Pending) (position : Nat) (reason : Reason) : Fault :=
  ⟨p.first, position - p.seen, p.seen, reason⟩

/-! ### Texts -/

/-- The characters that bytes encode, from a position on and within a character or between two. -/
def decodeFrom : Nat → Option Pending → List UInt8 → Except Fault (List Char)
  | _, none, [] => .ok []
  | position, some p, [] => .error (p.fault position .unexpectedEnd)
  | position, none, b :: bs =>
    match opening? b with
    | none => .error ⟨b, position, 1, .invalidStart⟩
    | some p =>
      if p.owed = 0 then
        (decodeFrom (position + 1) none bs).map (Char.ofNat p.code :: ·)
      else decodeFrom (position + 1) (some p) bs
  | position, some p, b :: bs =>
    match p.next? b with
    | none => .error (p.fault position .invalidContinuation)
    | some q =>
      if q.owed = 0 then
        (decodeFrom (position + 1) none bs).map (Char.ofNat q.code :: ·)
      else decodeFrom (position + 1) (some q) bs

def decode (bytes : List UInt8) : Except Fault String :=
  (decodeFrom 0 none bytes).map String.ofList

end MarkupLog.Utf8
