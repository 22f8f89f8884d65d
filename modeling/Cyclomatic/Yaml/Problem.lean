import Cyclomatic.Number
import Cyclomatic.Number.Literal
import Cyclomatic.Calendar

/-!
# What can be wrong with YAML text

A problem says what was found at which place, and what was being read there. Its message shows the
lines of the places with a pointer under them.
-/

namespace Cyclomatic.Yaml

/-- A place in a text. All parts are counted from zero. -/
structure Mark where
  index : Nat := 0
  line : Nat := 0
  column : Nat := 0
deriving DecidableEq, Repr

/-! ## Activities -/

/-- What was being read. -/
inductive Activity where
  | nextToken
  | simpleKey
  | directive
  | directiveName
  | anchor
  | reference
  | tag
  | tagName
  | blockScalar
  | doubleQuoted
  | quoted
  | node
  | blockNode
  | flowNode
  | blockSequence
  | blockMapping
  | flowSequence
  | flowMapping
  | stream
  | anchorAgain (name : String)
  | mappingValue
  | orderedMapValue
  | pairsValue
deriving DecidableEq, Repr

/-- The wording of an activity. -/
def Activity.message : Activity → String
  | nextToken => "while scanning for the next token"
  | simpleKey => "while scanning a simple key"
  | directive => "while scanning a directive"
  | directiveName => "while parsing a directive"
  | anchor => "while scanning an anchor"
  | reference => "while scanning an alias"
  | tag => "while scanning a tag"
  | tagName => "while parsing a tag"
  | blockScalar => "while scanning a block scalar"
  | doubleQuoted => "while scanning a double-quoted scalar"
  | quoted => "while scanning a quoted scalar"
  | node => "while parsing a node"
  | blockNode => "while parsing a block node"
  | flowNode => "while parsing a flow node"
  | blockSequence => "while parsing a block collection"
  | blockMapping => "while parsing a block mapping"
  | flowSequence => "while parsing a flow sequence"
  | flowMapping => "while parsing a flow mapping"
  | stream => "expected a single document in the stream"
  | anchorAgain name => "found duplicate anchor " ++ Text.quoted name ++ "; first occurrence"
  | mappingValue => "while constructing a mapping"
  | orderedMapValue => "while constructing an ordered map"
  | pairsValue => "while constructing pairs"

/-! ## Complaints -/

/-- The character at a place; the end of the text shows as the character zero. -/
def shownChar (c : Char) : String :=
  Text.quoted c.toString

/-- What is wrong. -/
inductive Complaint where
  | cannotStart (c : Char)
  | colonMissing
  | entryNotAllowed
  | keyNotAllowed
  | valueNotAllowed
  | nameExpected (found : Char)
  | digitOrPointExpected (found : Char)
  | digitOrBlankExpected (found : Char)
  | digitExpected (found : Char)
  | markExpected (mark : String) (found : Char)
  | lineEndExpected (found : Char)
  | uriExpected (found : Char)
  | uriEscapeExpected (found : Char)
  | undecodable (reason : String)
  | zeroIndentation
  | indicatorExpected (found : Char)
  | hexExpected (digits : Nat) (found : Char)
  | unknownEscape (c : Char)
  | endOfText
  | documentSeparator
  | documentStartExpected (found : String)
  | versionAgain
  | versionUnknown
  | handleAgain (handle : String)
  | handleUnknown (handle : String)
  | contentExpected (found : String)
  | blockEndExpected (found : String)
  | flowMarkExpected (closing : String) (found : String)
  | anotherDocument
  | referenceUnknown (name : String)
  | secondOccurrence
  | tagUnknown (tag : String)
  | nodeExpected (kind found : String)
  | unhashableKey
  | mappingToMerge (found : String)
  | mergeable (found : String)
  | notAscii (reason : String)
  | notBase64 (reason : String)
  | sequenceExpected (found : String)
  | pairExpected (found : String)
  | singlePairExpected (count : Nat)
deriving DecidableEq, Repr

/-- The wording of a complaint. -/
def Complaint.message : Complaint → String
  | cannotStart c => "found character " ++ shownChar c ++ " that cannot start any token"
  | colonMissing => "could not find expected ':'"
  | entryNotAllowed => "sequence entries are not allowed here"
  | keyNotAllowed => "mapping keys are not allowed here"
  | valueNotAllowed => "mapping values are not allowed here"
  | nameExpected c => "expected alphabetic or numeric character, but found " ++ shownChar c
  | digitOrPointExpected c => "expected a digit or '.', but found " ++ shownChar c
  | digitOrBlankExpected c => "expected a digit or ' ', but found " ++ shownChar c
  | digitExpected c => "expected a digit, but found " ++ shownChar c
  | markExpected mark c => "expected '" ++ mark ++ "', but found " ++ shownChar c
  | lineEndExpected c => "expected a comment or a line break, but found " ++ shownChar c
  | uriExpected c => "expected URI, but found " ++ shownChar c
  | uriEscapeExpected c =>
    "expected URI escape sequence of 2 hexadecimal numbers, but found " ++ shownChar c
  | undecodable reason => reason
  | zeroIndentation => "expected indentation indicator in the range 1-9, but found 0"
  | indicatorExpected c => "expected chomping or indentation indicators, but found " ++ shownChar c
  | hexExpected digits c =>
    "expected escape sequence of " ++ toString digits ++ " hexadecimal numbers, but found " ++
      shownChar c
  | unknownEscape c => "found unknown escape character " ++ shownChar c
  | endOfText => "found unexpected end of stream"
  | documentSeparator => "found unexpected document separator"
  | documentStartExpected found =>
    "expected '<document start>', but found " ++ Text.quoted found
  | versionAgain => "found duplicate YAML directive"
  | versionUnknown => "found incompatible YAML document (version 1.* is required)"
  | handleAgain handle => "duplicate tag handle " ++ Text.quoted handle
  | handleUnknown handle => "found undefined tag handle " ++ Text.quoted handle
  | contentExpected found => "expected the node content, but found " ++ Text.quoted found
  | blockEndExpected found => "expected <block end>, but found " ++ Text.quoted found
  | flowMarkExpected closing found =>
    "expected ',' or '" ++ closing ++ "', but got " ++ Text.quoted found
  | anotherDocument => "but found another document"
  | referenceUnknown name => "found undefined alias " ++ Text.quoted name
  | secondOccurrence => "second occurrence"
  | tagUnknown tag => "could not determine a constructor for the tag " ++ Text.quoted tag
  | nodeExpected kind found => "expected a " ++ kind ++ " node, but found " ++ found
  | unhashableKey => "found unhashable key"
  | mappingToMerge found => "expected a mapping for merging, but found " ++ found
  | mergeable found =>
    "expected a mapping or list of mappings for merging, but found " ++ found
  | notAscii reason => "failed to convert base64 data into ascii: " ++ reason
  | notBase64 reason => "failed to decode base64 data: " ++ reason
  | sequenceExpected found => "expected a sequence, but found " ++ found
  | pairExpected found => "expected a mapping of length 1, but found " ++ found
  | singlePairExpected count =>
    "expected a single mapping item, but found " ++ toString count ++ " items"

/-! ## Problems -/

/-- What is wrong at a place, and what was being read there, which may have begun elsewhere. -/
structure Problem where
  activity : Option Activity := none
  began : Option Mark := none
  complaint : Complaint
  place : Mark
deriving DecidableEq, Repr

/-- Why reading failed. -/
inductive Failure where
  | problem (p : Problem)
  /-- An escape beyond the last code point. -/
  | codePoint (n : Nat)
  | integer (e : Literal.IntegerError)
  /-- A text that is no double. -/
  | notReal (text : String)
  | arithmetic (e : ArithmeticError)
  | calendar (e : CalendarError)
  /-- A text that is no date or time. -/
  | notMoment
  /-- A collection where a date or time is needed. -/
  | notStamp
  /-- A text that is no truth value. -/
  | notBool (text : String)
  /-- No text where a number is needed. -/
  | emptyNumber
  /-- Collections are nested too deeply. -/
  | depth
deriving DecidableEq, Repr

/-- Fails with a problem. -/
def complain {α : Type} (activity : Option Activity) (began : Option Mark) (complaint : Complaint)
    (place : Mark) : Except Failure α :=
  .error (.problem { activity, began, complaint, place })

/-! ## Messages -/

/-- The characters that end a line. -/
def isBreak (c : Char) : Bool :=
  c == '\n' || c == '\u0085' || c == '\u2028' || c == '\u2029'

/-- Whether a character ends what a snippet shows. -/
def endsSnippet (c : Char) : Bool :=
  isBreak c || c == '\r' || c == '\x00'

/-- How far a snippet reaches to each side. -/
def snippetReach : Nat := 36

/-- The line of a place with a pointer under it. A long line is cut on both sides. -/
def snippet (text : List Char) (m : Mark) : String :=
  let before := ((text.take m.index).reverse.takeWhile (!endsSnippet ·))
  let after := (text.drop m.index).takeWhile (!endsSnippet ·)
  let (head, left) :=
    if snippetReach < before.length then (" ... ", before.take (snippetReach + 1 - 5))
    else ("", before)
  let (tail, right) :=
    if snippetReach < after.length then (" ... ", after.take (snippetReach + 1 - 5))
    else ("", after)
  let blanks (n : Nat) : String := String.ofList (List.replicate n ' ')
  blanks 4 ++ head ++ String.ofList (left.reverse ++ right) ++ tail ++ "\n" ++
    blanks (4 + left.length + head.length) ++ "^"

/-- A place with its line. -/
def Mark.message (text : List Char) (m : Mark) : String :=
  "  in \"<unicode string>\", line " ++ toString (m.line + 1) ++ ", column " ++
    toString (m.column + 1) ++ ":\n" ++ snippet text m

/-- The wording of a problem in its text. -/
def Problem.message (text : List Char) (p : Problem) : String :=
  let began := p.began.filter fun m => m.line != p.place.line || m.column != p.place.column
  "\n".intercalate
    ((p.activity.map (·.message)).toList ++ (began.map (·.message text)).toList ++
      [p.complaint.message, p.place.message text])

/-- What is wrong with a text. -/
inductive Error where
  /-- A character that text must not hold. -/
  | unprintable (c : Char) (position : Nat)
  | failed (source : String) (f : Failure)
deriving DecidableEq, Repr

/-- The wording of a failure. -/
def Failure.message (text : List Char) : Failure → String
  | problem p => p.message text
  | codePoint n =>
    if n < 0x80000000 then "chr() arg not in range(0x110000)"
    else "Python int too large to convert to C int"
  | integer e => e.message
  | notReal s => "could not convert string to float: " ++ Text.quoted s
  | arithmetic e => e.message
  | calendar e => e.message
  | notMoment => "'NoneType' object has no attribute 'groupdict'"
  | notStamp => "expected string or bytes-like object, got 'list'"
  | notBool s => Text.quoted s
  | emptyNumber => "string index out of range"
  | depth => "maximum recursion depth exceeded"

/-- The wording of an error. -/
def Error.message : Error → String
  | unprintable c position =>
    "unacceptable character #x" ++ String.ofList (Text.hex 4 c.toNat) ++
      ": special characters are not allowed\n  in \"<unicode string>\", position " ++
      toString position
  | failed source f => f.message source.toList

end Cyclomatic.Yaml
