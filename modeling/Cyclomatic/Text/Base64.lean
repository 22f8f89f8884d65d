import Cyclomatic.Text.Quoted

/-!
# Base 64

Bytes written in sixty-four characters, six bits each. Characters of no value are passed over when
bytes are read back; padding ends a text whose last group of four is not full.
-/

namespace Cyclomatic.Text

/-- The value of a character, if it has one. -/
def base64Value? (c : Char) : Option Nat :=
  if 'A' ≤ c ∧ c ≤ 'Z' then some (c.toNat - 'A'.toNat)
  else if 'a' ≤ c ∧ c ≤ 'z' then some (c.toNat - 'a'.toNat + 26)
  else if '0' ≤ c ∧ c ≤ '9' then some (c.toNat - '0'.toNat + 52)
  else if c = '+' then some 62
  else if c = '/' then some 63
  else none

/-- Why a text holds no bytes. -/
inductive Base64Error where
  | padding
  /-- A group of a single character after so many bytes. -/
  | single (bytes : Nat)
deriving DecidableEq, Repr

/-- The wording of an error. -/
def Base64Error.message : Base64Error → String
  | padding => "Incorrect padding"
  | single bytes =>
    "Invalid base64-encoded string: number of data characters (" ++ toString (bytes / 3 * 4 + 1) ++
      ") cannot be 1 more than a multiple of 4"

/-- A group of four characters as far as it has been read. -/
structure Base64Group where
  size : Nat := 0
  /-- The bits of the last character that are not in a byte yet. -/
  bits : Nat := 0
  pads : Nat := 0

/-- Reads bytes; `done` holds those before, newest first. -/
def base64Bytes (group : Base64Group) (done : List UInt8) :
    List Char → Except Base64Error (List UInt8)
  | [] =>
    match group.size with
    | 0 => .ok done.reverse
    | 1 => .error (.single done.length)
    | _ => .error .padding
  | c :: cs =>
    if c = '=' then
      if 2 ≤ group.size then
        let pads := group.pads + 1
        if 4 ≤ group.size + pads then .ok done.reverse
        else base64Bytes { group with pads } done cs
      else base64Bytes group done cs
    else
      match base64Value? c, group.size with
      | none, _ => base64Bytes group done cs
      | some v, 0 => base64Bytes ⟨1, v, 0⟩ done cs
      | some v, 1 => base64Bytes ⟨2, v % 16, 0⟩ (UInt8.ofNat (group.bits * 4 + v / 16) :: done) cs
      | some v, 2 => base64Bytes ⟨3, v % 4, 0⟩ (UInt8.ofNat (group.bits * 16 + v / 4) :: done) cs
      | some v, _ => base64Bytes {} (UInt8.ofNat (group.bits * 64 + v) :: done) cs

/-- Why a text is not ASCII: the first characters that are not, and where they stand. -/
def asciiError (cs : List Char) : String :=
  let before := cs.takeWhile (·.toNat < 0x80)
  let run := (cs.drop before.length).takeWhile fun c => 0x80 ≤ c.toNat
  "'ascii' codec can't encode character" ++
    (match run with
      | [c] =>
        " '" ++ String.ofList (codePointEscape c.toNat) ++ "' in position " ++ toString before.length
      | _ =>
        "s in position " ++ toString before.length ++ "-" ++
          toString (before.length + run.length - 1)) ++
    ": ordinal not in range(128)"

end Cyclomatic.Text
