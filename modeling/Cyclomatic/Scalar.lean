import Cyclomatic.Calendar
import Cyclomatic.Number
import Cyclomatic.Number.Literal
import Cyclomatic.Text.Quoted

/-!
# Scalars

Values without parts of their own: null, truth values, numbers, texts, dates and bytes. They are also
the keys of mappings.
-/

namespace Cyclomatic

/-- A value without parts. -/
inductive Scalar where
  | null
  | bool (b : Bool)
  | int (n : Int)
  | real (x : Float)
  | text (s : String)
  | date (d : Date)
  | moment (m : Moment)
  | bytes (bs : List UInt8)
deriving Inhabited

namespace Scalar

instance : Coe String Scalar := ⟨text⟩

/-- The number that a scalar is, if any; the truth values are 0 and 1. -/
def number? : Scalar → Option Number
  | bool b => some (.int (if b then 1 else 0))
  | int n => some (.int n)
  | real x => some (.real x)
  | _ => none

/-- Whether two scalars are one key: numbers are by their value, whatever their kind. -/
def same (a b : Scalar) : Bool :=
  match a, b with
  | text s, text t => s == t
  | null, null => true
  | date d, date e => d == e
  | moment m, moment n => m == n
  | bytes bs, bytes cs => bs == cs
  | a, b =>
    match a.number?, b.number? with
    | some x, some y => x.compare? y == some .eq
    | _, _ => false

/-- Whether a scalar counts as true: not null, false, zero or empty. -/
def isTruthy : Scalar → Bool
  | null => false
  | bool b => b
  | int n => n != 0
  | real x => x != 0
  | text s => !s.isEmpty
  | date _ => true
  | moment _ => true
  | bytes bs => !bs.isEmpty

/-- The kind of a scalar, as messages name it. -/
def kind : Scalar → String
  | null => "NoneType"
  | bool _ => "bool"
  | int _ => "int"
  | real _ => "float"
  | text _ => "str"
  | date _ => "datetime.date"
  | moment _ => "datetime.datetime"
  | bytes _ => "bytes"

/-- A byte as it stands between quotes. -/
def quotedByte (quote : Char) (b : UInt8) : List Char :=
  let c := Char.ofNat b.toNat
  if b < 0x80 then Text.quotedChar quote c else Text.codePointEscape b.toNat

/-- Bytes between quotes. -/
def quotedBytes (bs : List UInt8) : String :=
  let quote := if bs.contains 0x27 && !bs.contains 0x22 then '"' else '\''
  String.ofList ('b' :: quote :: bs.flatMap (quotedByte quote) ++ [quote])

/-- A scalar as messages show it. -/
def shown : Scalar → String
  | null => "None"
  | bool b => if b then "True" else "False"
  | int n => toString n
  | real x => (Number.real x).text
  | text s => Text.quoted s
  | date d => d.shown
  | moment m => m.shown
  | bytes bs => quotedBytes bs

/-- Whether messages can show a scalar: an integer must not have too many digits. -/
def isShowable : Scalar → Bool
  | int n => n.natAbs < Nat.pow 10 Literal.maxDigits
  | _ => true

/-- A scalar as a text: a text as it is, anything else as it is printed. -/
def asText : Scalar → String
  | text s => s
  | date d => d.text
  | moment m => m.text
  | s => s.shown

end Scalar

end Cyclomatic
