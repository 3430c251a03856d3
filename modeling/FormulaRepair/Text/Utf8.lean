import FormulaRepair.Text.Basic

/-! # Texts as bytes

Characters are stored in one to four bytes. Reading bytes back either gives the text or tells where
and why they stop making sense: the first byte fits no character, a byte inside a character does not
continue it, or the bytes end inside a character. In the latter two cases the place is the part of
the character that still made sense.
-/

namespace FormulaRepair

/-- The content of a file. -/
abbrev Bytes := List UInt8

namespace Utf8

/-- The bytes of a character. -/
def encodeChar (c : Char) : Bytes :=
  let code := c.toNat
  let tail := fun (unit : Nat) => UInt8.ofNat (0x80 + code / unit % 0x40)
  if code < 0x80 then [UInt8.ofNat code]
  else if code < 0x800 then [UInt8.ofNat (0xc0 + code / 0x40), tail 1]
  else if code < 0x10000 then [UInt8.ofNat (0xe0 + code / 0x1000), tail 0x40, tail 1]
  else [UInt8.ofNat (0xf0 + code / 0x40000), tail 0x1000, tail 0x40, tail 1]

/-- The bytes of a text. -/
def encode (text : Text) : Bytes := text.flatMap encodeChar

/-- Why bytes are no text. -/
inductive Cause
  | invalidStart
  | invalidContinuation
  | unexpectedEnd
deriving DecidableEq, Repr, Inhabited

/-- The wording of a cause. -/
def Cause.wording : Cause → Text
  | invalidStart => "invalid start byte".toList
  | invalidContinuation => "invalid continuation byte".toList
  | unexpectedEnd => "unexpected end of data".toList

/-- Where and why bytes are no text: the position, and the bytes there that belong together. -/
structure Problem where
  position : Nat
  bytes : Bytes
  cause : Cause
deriving DecidableEq, Repr, Inhabited

/-- The two lower-case hexadecimal digits of a byte. -/
def hexByte (byte : UInt8) : Text :=
  let digits := Nat.toDigits 16 byte.toNat
  if digits.length < 2 then '0' :: digits else digits

/-- The message for bytes that are no text. -/
def Problem.message (problem : Problem) : Text :=
  let place := match problem.bytes with
    | [byte] =>
        "byte 0x".toList ++ hexByte byte ++ " in position ".toList ++ Text.ofNat problem.position
    | bytes =>
        "bytes in position ".toList ++ Text.ofNat problem.position ++ '-' ::
          Text.ofNat (problem.position + bytes.length - 1)
  "'utf-8' codec can't decode ".toList ++ place ++ [':', ' '] ++ problem.cause.wording

/-- What a first byte promises: how many bytes follow, its own share of the code point, and the bounds
of the second byte. The bounds keep out overlong forms, surrogates and code points that are too
large. -/
def lead? (byte : UInt8) : Option (Nat × Nat × Nat × Nat) :=
  let value := byte.toNat
  if value < 0x80 then some (0, value, 0x80, 0xbf)
  else if value < 0xc2 then none
  else if value < 0xe0 then some (1, value - 0xc0, 0x80, 0xbf)
  else if value < 0xf0 then
    some (2, value - 0xe0, if value = 0xe0 then 0xa0 else 0x80, if value = 0xed then 0x9f else 0xbf)
  else if value < 0xf5 then
    some (3, value - 0xf0, if value = 0xf0 then 0x90 else 0x80, if value = 0xf4 then 0x8f else 0xbf)
  else none

/-- Read the bytes that continue a character: the code point, or the ones that still fit and why the
next one does not. -/
def continueFrom (code low high : Nat) : Nat → Bytes → Except (Nat × Cause) Nat
  | 0, _ => .ok code
  | _ + 1, [] => .error (0, .unexpectedEnd)
  | count + 1, byte :: rest =>
      if low ≤ byte.toNat ∧ byte.toNat ≤ high then
        match continueFrom (code * 0x40 + (byte.toNat - 0x80)) 0x80 0xbf count rest with
        | .ok code => .ok code
        | .error (fitting, cause) => .error (fitting + 1, cause)
      else .error (0, .invalidContinuation)

/-- Read bytes from a position on. -/
def decodeFrom (position : Nat) (bytes : Bytes) : Except Problem Text :=
  match bytes with
  | [] => .ok []
  | first :: rest =>
      match lead? first with
      | none => .error ⟨position, [first], .invalidStart⟩
      | some (count, code, low, high) =>
          match continueFrom code low high count rest with
          | .error (fitting, cause) => .error ⟨position, first :: rest.take fitting, cause⟩
          | .ok code =>
              (decodeFrom (position + count + 1) (rest.drop count)).map (Char.ofNat code :: ·)
termination_by bytes.length
decreasing_by
  rw [List.length_drop, List.length_cons]
  exact Nat.lt_succ_of_le (Nat.sub_le _ _)

/-- The text of bytes. -/
def decode (bytes : Bytes) : Except Problem Text := decodeFrom 0 bytes

end Utf8

end FormulaRepair
