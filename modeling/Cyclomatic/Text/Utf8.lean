import Cyclomatic.Text.Quoted

/-!
# UTF-8

Reading bytes as text. A strict reader stops at the first bytes that are no character; a lenient one
leaves them out. Line ends of all kinds become line feeds.
-/

namespace Cyclomatic.Text

/-! ## Characters -/

/-- Why some bytes are no character. -/
inductive Utf8Defect where
  | startByte
  | continuationByte
  | endOfData
deriving DecidableEq, Repr

/-- The wording of a defect. -/
def Utf8Defect.message : Utf8Defect → String
  | startByte => "invalid start byte"
  | continuationByte => "invalid continuation byte"
  | endOfData => "unexpected end of data"

/-- What the bytes at the front are: a character of some length, or so many bytes of none. -/
inductive Utf8Step where
  | char (c : Char) (length : Nat)
  | defect (d : Utf8Defect) (length : Nat)
deriving DecidableEq, Repr

/-- The number of bytes after a lead byte, the bits of the lead byte, and the bounds of the byte
after it; none if the byte leads nothing. -/
def leadByte? (b : UInt8) : Option (Nat × Nat × UInt8 × UInt8) :=
  if b < 0xC2 then none
  else if b < 0xE0 then some (1, b.toNat - 0xC0, 0x80, 0xBF)
  else if b < 0xF0 then
    some (2, b.toNat - 0xE0, if b = 0xE0 then 0xA0 else 0x80, if b = 0xED then 0x9F else 0xBF)
  else if b < 0xF5 then
    some (3, b.toNat - 0xF0, if b = 0xF0 then 0x90 else 0x80, if b = 0xF4 then 0x8F else 0xBF)
  else none

/-- Reads continuation bytes, the first of them within bounds; `taken` bytes came before. -/
def continuation (low high : UInt8) (taken value : Nat) : Nat → List UInt8 → Utf8Step
  | 0, _ => .char (Char.ofNat value) taken
  | _ + 1, [] => .defect .endOfData taken
  | n + 1, b :: bs =>
    if low ≤ b ∧ b ≤ high then
      continuation 0x80 0xBF (taken + 1) (value * 64 + (b.toNat - 0x80)) n bs
    else .defect .continuationByte taken

/-- What the bytes from a given one on begin with. -/
def utf8Step (b : UInt8) (bs : List UInt8) : Utf8Step :=
  if b < 0x80 then .char (Char.ofNat b.toNat) 1
  else
    match leadByte? b with
    | none => .defect .startByte 1
    | some (count, bits, low, high) => continuation low high 1 bits count bs

/-! ## Texts -/

/-- The characters of some bytes. Bytes that are no character are left out: since only a lead byte
begins a character, it is enough to drop them one at a time. -/
def decodeLenient : List UInt8 → List Char
  | [] => []
  | b :: bs =>
    match utf8Step b bs with
    | .char c length => c :: decodeLenient (bs.drop (length - 1))
    | .defect .. => decodeLenient bs
termination_by bytes => bytes.length
decreasing_by all_goals simp; try omega

/-- Bytes that are no character. -/
structure Utf8Error where
  defect : Utf8Defect
  first : UInt8
  position : Nat
  length : Nat
deriving DecidableEq, Repr

/-- The wording of an error. -/
def Utf8Error.message (e : Utf8Error) : String :=
  "'utf-8' codec can't decode byte" ++
    (if e.length = 1 then
      " 0x" ++ String.ofList (hex 2 e.first.toNat) ++ " in position " ++ toString e.position
     else
      "s in position " ++ toString e.position ++ "-" ++ toString (e.position + e.length - 1)) ++
    ": " ++ e.defect.message

/-- The characters of some bytes, the first of them at the given position, if all are valid. -/
def decodeStrict (position : Nat) : List UInt8 → Except Utf8Error (List Char)
  | [] => .ok []
  | b :: bs =>
    match utf8Step b bs with
    | .char c length => (decodeStrict (position + length) (bs.drop (length - 1))).map (c :: ·)
    | .defect defect length => .error { defect, first := b, position, length }
termination_by bytes => bytes.length
decreasing_by all_goals simp; try omega

/-- The bytes of a text. -/
def encode (s : String) : List UInt8 :=
  s.toUTF8.toList

/-! ## Line ends -/

/-- Turns carriage returns, with a line feed after them or alone, into line feeds. -/
def unifyLineEnds : List Char → List Char
  | [] => []
  | '\r' :: '\n' :: cs => '\n' :: unifyLineEnds cs
  | '\r' :: cs => '\n' :: unifyLineEnds cs
  | c :: cs => c :: unifyLineEnds cs

end Cyclomatic.Text
