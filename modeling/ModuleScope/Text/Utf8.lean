/-!
UTF-8. Decoding either stops at the first fault or puts U+FFFD in place of each one; a fault covers
the longest stretch that could still have begun a character.
-/
namespace ModuleScope.Text.Utf8

inductive Reason where
  | invalidStart
  | invalidContinuation
  | unexpectedEnd
deriving DecidableEq, Repr

namespace Reason

def message : Reason → String
  | invalidStart => "invalid start byte"
  | invalidContinuation => "invalid continuation byte"
  | unexpectedEnd => "unexpected end of data"

end Reason

def encode (text : List Char) : List UInt8 := text.flatMap String.utf8EncodeChar

/-- What a first byte promises: how many bytes follow it, its share of the code point, and the range
of the byte after it. -/
structure Lead where
  following : Nat
  high : Nat
  least : Nat
  greatest : Nat
deriving Repr

/-- The promise of a byte from 0x80 on; none if no character begins with it. -/
def lead? (byte : Nat) : Option Lead :=
  if byte < 0xC2 then none
  else if byte < 0xE0 then some ⟨1, byte - 0xC0, 0x80, 0xBF⟩
  else if byte = 0xE0 then some ⟨2, 0, 0xA0, 0xBF⟩
  else if byte = 0xED then some ⟨2, 0xD, 0x80, 0x9F⟩
  else if byte < 0xF0 then some ⟨2, byte - 0xE0, 0x80, 0xBF⟩
  else if byte = 0xF0 then some ⟨3, 0, 0x90, 0xBF⟩
  else if byte < 0xF4 then some ⟨3, byte - 0xF0, 0x80, 0xBF⟩
  else if byte = 0xF4 then some ⟨3, 4, 0x80, 0x8F⟩
  else none

/-- A decoded character, or a fault with the number of bytes it covers. -/
inductive Piece where
  | scalar (c : Char)
  | fault (reason : Reason) (length : Nat)
deriving Repr

/-- The character promised by a lead, from the bytes after it; `taken` of them count already. -/
def finish (value taken following least greatest : Nat) : List UInt8 → Piece
  | [] => if following = 0 then .scalar (Char.ofNat value) else .fault .unexpectedEnd taken
  | byte :: rest =>
    match following with
    | 0 => .scalar (Char.ofNat value)
    | following + 1 =>
      if least ≤ byte.toNat ∧ byte.toNat ≤ greatest then
        finish (value * 64 + (byte.toNat - 0x80)) (taken + 1) following 0x80 0xBF rest
      else .fault .invalidContinuation taken

def head (byte : UInt8) (rest : List UInt8) : Piece :=
  if byte.toNat < 0x80 then .scalar (Char.ofNat byte.toNat)
  else match lead? byte.toNat with
    | none => .fault .invalidStart 1
    | some lead => finish lead.high 1 lead.following lead.least lead.greatest rest

namespace Piece

def tailLength : Piece → Nat
  | scalar c => c.utf8Size - 1
  | fault _ length => length - 1

end Piece

/-- The pieces of a byte sequence; `skip` bytes belong to the piece before. -/
def piecesFrom (skip : Nat) : List UInt8 → List Piece
  | [] => []
  | byte :: rest =>
    match skip with
    | skip + 1 => piecesFrom skip rest
    | 0 =>
      let piece := head byte rest
      piece :: piecesFrom piece.tailLength rest

def pieces (bytes : List UInt8) : List Piece := piecesFrom 0 bytes

def decodeLossy (bytes : List UInt8) : List Char :=
  (pieces bytes).map fun
    | .scalar c => c
    | .fault _ _ => '�'

structure Fault where
  reason : Reason
  position : Nat
  bytes : List UInt8
deriving DecidableEq, Repr

def decodeFrom (position skip : Nat) : List UInt8 → Except Fault (List Char)
  | [] => .ok []
  | byte :: rest =>
    match skip with
    | skip + 1 => decodeFrom (position + 1) skip rest
    | 0 =>
      match head byte rest with
      | .scalar c => (decodeFrom (position + 1) (c.utf8Size - 1) rest).map (c :: ·)
      | .fault reason length => .error ⟨reason, position, (byte :: rest).take length⟩

def decode (bytes : List UInt8) : Except Fault (List Char) := decodeFrom 0 0 bytes

namespace Fault

private def hexDigits (byte : UInt8) : String :=
  let digits := "0123456789abcdef".toList
  String.ofList [digits.getD (byte.toNat / 16) '0', digits.getD (byte.toNat % 16) '0']

/-- Names the byte if there is one only, and the range of positions otherwise. -/
def message (fault : Fault) : String :=
  let subject := match fault.bytes with
    | [byte] => s!"byte 0x{hexDigits byte} in position {fault.position}"
    | bytes => s!"bytes in position {fault.position}-{fault.position + bytes.length - 1}"
  s!"'utf-8' codec can't decode {subject}: {fault.reason.message}"

end Fault

end ModuleScope.Text.Utf8
