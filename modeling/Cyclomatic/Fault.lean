import Cyclomatic.Json.Reader
import Cyclomatic.Ledger
import Cyclomatic.Text.Utf8
import Cyclomatic.Yaml.Problem

/-!
# Faults

Everything that can go wrong outside a recognizer, by cause, and the wording of each.
-/

namespace Cyclomatic

/-- Why the file system refused. -/
inductive SystemError where
  | notFound
  | notDirectory
  | isDirectory
  | nameTooLong
  | linkLoop
  /-- A path with the character zero in it, which is not even asked for. -/
  | zeroCharacter
  /-- A number in place of a path, which stands for an open stream, where none is open. -/
  | noStream
  /-- A negative number in place of a path. -/
  | negativeStream
deriving DecidableEq, Repr

/-- The number of a system error. -/
def SystemError.number : SystemError → Nat
  | notFound => 2
  | notDirectory => 20
  | isDirectory => 21
  | nameTooLong => 36
  | linkLoop => 40
  | zeroCharacter => 22
  | noStream => 9
  | negativeStream => 22

/-- The text of a system error. -/
def SystemError.text : SystemError → String
  | notFound => "No such file or directory"
  | notDirectory => "Not a directory"
  | isDirectory => "Is a directory"
  | nameTooLong => "File name too long"
  | linkLoop => "Too many levels of symbolic links"
  | zeroCharacter => "embedded null byte"
  | noStream => "Bad file descriptor"
  | negativeStream => "negative file descriptor"

/-- The wording of a system error at a path. -/
def SystemError.message (path : Scalar) : SystemError → String
  | zeroCharacter => zeroCharacter.text
  | noStream => "[Errno " ++ toString noStream.number ++ "] " ++ noStream.text
  | negativeStream => negativeStream.text
  | e => "[Errno " ++ toString e.number ++ "] " ++ e.text ++ ": " ++ path.shown

/-- A setting of the wrong kind, found where it is used. -/
inductive KindError where
  /-- Two values that have no order. -/
  | unordered (symbol : String) (left right : Value)
  /-- Two values that an operation does not take. -/
  | operands (symbol : String) (left right : Value)
  /-- A value that cannot be joined to a text or a list. -/
  | notJoinable (owner right : Value)
  /-- A value that cannot be joined to bytes. -/
  | notBytes (right : Value)
  /-- A value that is no number. -/
  | notNumber (v : Value)
  /-- A value that yields no items. -/
  | notIterable (v : Value)
  /-- A value that cannot be taken apart. -/
  | notUnpackable (v : Value)
  /-- A value that is no path or pattern. -/
  | notText (v : Value)
  /-- Bytes as a pattern for texts. -/
  | bytesPattern
  /-- Bytes where the beginning of a text is asked for. -/
  | bytesStart
  /-- A value without the member that is asked of it. -/
  | noMember (owner : Value) (member : String)
  /-- A value whose member of that name cannot be changed. -/
  | fixedMember (owner : Value) (member : String)
  /-- An operation of a value, in place of a value with the member that is asked of it. -/
  | operation (member : String)
  /-- An item that is no pair, where pairs make up a mapping. -/
  | notPair (position : Nat)
  /-- A value that cannot be a key. -/
  | notKey (v : Value)

/-- The wording of a kind error. -/
def KindError.message : KindError → String
  | unordered symbol left right =>
    "'" ++ symbol ++ "' not supported between instances of '" ++ left.kind ++ "' and '" ++
      right.kind ++ "'"
  | operands symbol left right =>
    "unsupported operand type(s) for " ++ symbol ++ ": '" ++ left.kind ++ "' and '" ++
      right.kind ++ "'"
  | notJoinable owner right =>
    "can only concatenate " ++ owner.kind ++ " (not \"" ++ right.kind ++ "\") to " ++ owner.kind
  | notBytes right => "can't concat " ++ right.kind ++ " to bytes"
  | notNumber v => "must be real number, not " ++ v.kind
  | notIterable v => "'" ++ v.kind ++ "' object is not iterable"
  | notUnpackable v => "cannot unpack non-iterable " ++ v.kind ++ " object"
  | notText v => "expected str, bytes or os.PathLike object, not " ++ v.plainKind
  | bytesPattern => "cannot use a bytes pattern on a string-like object"
  | bytesStart => "startswith first arg must be bytes or a tuple of bytes, not str"
  | noMember owner member =>
    "'" ++ owner.kind ++ "' object has no attribute '" ++ member ++ "'"
  | fixedMember owner member =>
    "'" ++ owner.kind ++ "' object attribute '" ++ member ++ "' is read-only"
  | operation member =>
    "'builtin_function_or_method' object has no attribute '" ++ member ++ "'"
  | notPair position =>
    "cannot convert dictionary update sequence element #" ++ toString position ++ " to a sequence"
  | notKey v => "unhashable type: '" ++ v.kind ++ "'"

/-- Why a request failed. -/
inductive Fault where
  | unsupportedLanguage (given : Value)
  | scope (e : ScopeError)
  | arithmetic (e : ArithmeticError)
  | kind (e : KindError)
  /-- A list of thresholds with other than four entries. -/
  | thresholdCount (found : Nat)
  | targetMissing (path : String)
  | settingsMissing (path : String)
  | unknownFormat (name : String)
  /-- An empty path where a place is needed. -/
  | emptyPath
  | system (e : SystemError) (path : Scalar)
  /-- A place that links lead to and away from again. -/
  | linkLoop (path : String)
  /-- A value that has no end where it must be written out. -/
  | endless
  /-- A number with more digits than are written. -/
  | longInteger
  /-- An item with other than two parts, where pairs make up a mapping. -/
  | pairSize (position size : Nat)
  | malformedJson (e : Json.Error)
  | malformedYaml (e : Yaml.Error)
  /-- A settings file that is not UTF-8. -/
  | undecodable (e : Text.Utf8Error)

/-- The wording of a fault. -/
def Fault.message : Fault → String
  | unsupportedLanguage given => "Unsupported language: " ++ given.shown
  | scope e => e.message
  | arithmetic e => e.message
  | kind e => e.message
  | thresholdCount found =>
    if found < 4 then "not enough values to unpack (expected 4, got " ++ toString found ++ ")"
    else "too many values to unpack (expected 4)"
  | targetMissing path => "Target not found: " ++ path
  | settingsMissing path => "Configuration file not found: " ++ path
  | unknownFormat name => "Unknown format: " ++ name
  | emptyPath => "no path specified"
  | system e path => e.message path
  | linkLoop path => "Symlink loop from " ++ Text.quoted path
  | endless => "maximum recursion depth exceeded"
  | longInteger =>
    "Exceeds the limit (" ++ toString Literal.maxDigits ++ " digits) for integer string " ++
      "conversion; use sys.set_int_max_str_digits() to increase the limit"
  | pairSize position size =>
    "dictionary update sequence element #" ++ toString position ++ " has length " ++
      toString size ++ "; 2 is required"
  | malformedJson e => e.message
  | malformedYaml e => e.message
  | undecodable e => e.message

end Cyclomatic
