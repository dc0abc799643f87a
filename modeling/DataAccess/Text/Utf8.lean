/-!
# UTF-8

Bytes of a text and texts of bytes. Decoding is strict: overlong forms, surrogates and values past
the last character are refused, and the refusal says where the first bad sequence starts and how
long it is.
-/

namespace DataAccess.Text

/-- The bytes of a text. -/
def utf8 (cs : List Char) : List UInt8 := cs.flatMap String.utf8EncodeChar

/-- Where decoding stops: the start of the first bad sequence, and its length unless the input just
ends in the middle of a character. -/
structure Utf8Error where
  index : Nat
  length : Option Nat
deriving DecidableEq

/-- The wording of a decoding error. -/
def Utf8Error.message (e : Utf8Error) : String :=
  match e.length with
  | some n => "invalid utf-8 sequence of " ++ toString n ++ " bytes from index " ++ toString e.index
  | none => "incomplete utf-8 byte sequence from index " ++ toString e.index

/-- A byte that goes on with a character. -/
def isContinuation (b : UInt8) : Bool := 0x80 ≤ b && b < 0xC0

/-- The second bytes that may follow a first byte, for characters of three and four bytes. -/
def followsLead (lead b : UInt8) : Bool :=
  if lead == 0xE0 then 0xA0 ≤ b && b < 0xC0
  else if lead == 0xED then 0x80 ≤ b && b < 0xA0
  else if lead == 0xF0 then 0x90 ≤ b && b < 0xC0
  else if lead == 0xF4 then 0x80 ≤ b && b < 0x90
  else isContinuation b

/-- The low six bits of a continuation byte. -/
def payload (b : UInt8) : Nat := b.toNat % 64

/-- The length in bytes of the character that a byte starts; none for a byte that starts no
character. -/
def sequenceLength? (b : UInt8) : Option Nat :=
  if b < 0x80 then some 1
  else if 0xC2 ≤ b && b < 0xE0 then some 2
  else if 0xE0 ≤ b && b < 0xF0 then some 3
  else if 0xF0 ≤ b && b < 0xF5 then some 4
  else none

/-- Decode bytes, of which the first has the given index. -/
def decodeUtf8From (index : Nat) : List UInt8 → Except Utf8Error (List Char)
  | [] => .ok []
  | b :: rest =>
    match sequenceLength? b with
    | some 1 => (decodeUtf8From (index + 1) rest).map (Char.ofNat b.toNat :: ·)
    | some 2 =>
      match rest with
      | [] => .error ⟨index, none⟩
      | c :: rest =>
        if isContinuation c then
          (decodeUtf8From (index + 2) rest).map (Char.ofNat (b.toNat % 32 * 64 + payload c) :: ·)
        else .error ⟨index, some 1⟩
    | some 3 =>
      match rest with
      | [] => .error ⟨index, none⟩
      | [c] => if followsLead b c then .error ⟨index, none⟩ else .error ⟨index, some 1⟩
      | c :: d :: rest =>
        if !followsLead b c then .error ⟨index, some 1⟩
        else if !isContinuation d then .error ⟨index, some 2⟩
        else
          (decodeUtf8From (index + 3) rest).map
            (Char.ofNat (b.toNat % 16 * 4096 + payload c * 64 + payload d) :: ·)
    | some _ =>
      match rest with
      | [] => .error ⟨index, none⟩
      | [c] => if followsLead b c then .error ⟨index, none⟩ else .error ⟨index, some 1⟩
      | [c, d] =>
        if !followsLead b c then .error ⟨index, some 1⟩
        else if !isContinuation d then .error ⟨index, some 2⟩
        else .error ⟨index, none⟩
      | c :: d :: e :: rest =>
        if !followsLead b c then .error ⟨index, some 1⟩
        else if !isContinuation d then .error ⟨index, some 2⟩
        else if !isContinuation e then .error ⟨index, some 3⟩
        else
          (decodeUtf8From (index + 4) rest).map
            (Char.ofNat (b.toNat % 8 * 262144 + payload c * 4096 + payload d * 64 + payload e) :: ·)
    | none => .error ⟨index, some 1⟩

/-- The text of some bytes. -/
def decodeUtf8 (bytes : List UInt8) : Except Utf8Error (List Char) := decodeUtf8From 0 bytes

end DataAccess.Text
