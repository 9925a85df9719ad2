/-!
# Reading UTF-8

`decodeUtf8` turns bytes into characters and, where it cannot, says which bytes are at fault and
why.  A sequence is at fault from its first byte up to the first byte that cannot continue it.
-/

namespace ClusterLineage.Text

/-- Why bytes are not UTF-8. -/
inductive Utf8Fault where
  /-- No character starts with this byte. -/
  | startByte
  /-- A byte that should continue a character does not. -/
  | continuationByte
  /-- The bytes end inside a character. -/
  | unexpectedEnd
  deriving DecidableEq, Repr

/-- The bytes at fault: where they start, which they are, and why. -/
structure Utf8Error where
  position : Nat
  bytes : List UInt8
  fault : Utf8Fault
  deriving DecidableEq, Repr

/-- What the first byte of a longer character announces: how many bytes follow, the bits that it
brings itself, and the range of the second byte, which excludes overlong forms, surrogates and
codes past the last character. -/
structure Utf8Lead where
  following : Nat
  bits : Nat
  low : UInt8 := 0x80
  high : UInt8 := 0xBF

/-- What a byte announces as the first of a longer character. -/
def Utf8Lead.ofByte? (b : UInt8) : Option Utf8Lead :=
  if b < 0xC2 then none
  else if b < 0xE0 then some ⟨1, b.toNat % 0x20, 0x80, 0xBF⟩
  else if b < 0xF0 then
    some ⟨2, b.toNat % 0x10, if b = 0xE0 then 0xA0 else 0x80, if b = 0xED then 0x9F else 0xBF⟩
  else if b < 0xF5 then
    some ⟨3, b.toNat % 0x08, if b = 0xF0 then 0x90 else 0x80, if b = 0xF4 then 0x8F else 0xBF⟩
  else none

/-- The bytes that continue a character after its first byte, at most as many as announced. -/
def Utf8Lead.continuation (lead : Utf8Lead) (rest : List UInt8) : List UInt8 :=
  match rest with
  | [] => []
  | b :: rest =>
    if lead.low ≤ b && b ≤ lead.high then
      b :: (rest.take (lead.following - 1)).takeWhile fun b => 0x80 ≤ b && b ≤ 0xBF
    else []

/-- The character made of the bits of a first byte and of the bytes that continue it. -/
def Utf8Lead.char (lead : Utf8Lead) (continuation : List UInt8) : Char :=
  Char.ofNat (continuation.foldl (fun code b => code * 0x40 + b.toNat % 0x40) lead.bits)

/-- The characters of the bytes from a position on, after those already read. -/
def decodeUtf8From (position : Nat) (bytes : List UInt8) (read : List Char) :
    Except Utf8Error (List Char) :=
  match bytes with
  | [] => .ok read.reverse
  | b :: rest =>
    if b < 0x80 then decodeUtf8From (position + 1) rest (Char.ofNat b.toNat :: read)
    else
      match Utf8Lead.ofByte? b with
      | none => .error ⟨position, [b], .startByte⟩
      | some lead =>
        let continuation := lead.continuation rest
        if continuation.length = lead.following then
          decodeUtf8From (position + 1 + continuation.length) (rest.drop continuation.length)
            (lead.char continuation :: read)
        else if continuation.length = rest.length then
          .error ⟨position, b :: continuation, .unexpectedEnd⟩
        else
          .error ⟨position, b :: continuation, .continuationByte⟩
  termination_by bytes.length
  decreasing_by all_goals (simp only [List.length_drop, List.length_cons]; omega)

/-- The characters of UTF-8 bytes. -/
def decodeUtf8 (bytes : List UInt8) : Except Utf8Error (List Char) :=
  decodeUtf8From 0 bytes []

/-- The wording of a fault. -/
def Utf8Fault.reason : Utf8Fault → String
  | .startByte => "invalid start byte"
  | .continuationByte => "invalid continuation byte"
  | .unexpectedEnd => "unexpected end of data"

/-- A byte as two hexadecimal digits. -/
def hexByte (b : UInt8) : String :=
  String.ofList [Nat.digitChar (b.toNat / 16), Nat.digitChar (b.toNat % 16)]

/-- The wording of an error: one byte is shown, several are given by their positions. -/
def Utf8Error.message (e : Utf8Error) : String :=
  let place :=
    match e.bytes with
    | [b] => "byte 0x" ++ hexByte b ++ " in position " ++ toString e.position
    | bytes => "bytes in position " ++ toString e.position ++ "-" ++
        toString (e.position + bytes.length - 1)
  "'utf-8' codec can't decode " ++ place ++ ": " ++ e.fault.reason

end ClusterLineage.Text
