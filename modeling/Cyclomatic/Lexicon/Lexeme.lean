import Cyclomatic.Lexicon
import Cyclomatic.Token
import Cyclomatic.Text.CharClass

/-!
# Lexemes

How a lexicon splits a text. Each lexical rule answers with the length of the piece that it takes
from the front of the text, if it applies. The rules are tried in a fixed order, and a character
that no rule takes is a code token of its own, so splitting never fails and loses nothing.
-/

namespace Cyclomatic

open Text

/-- A piece of text with its lexical class. -/
structure Lexeme where
  kind : TokenKind
  text : List Char
deriving DecidableEq, Repr

/-! ## Rules that all lexicons share -/

/-- A line break, with an optional carriage return before it. -/
def newlineLength? : List Char → Option Nat
  | '\n' :: _ => some 1
  | '\r' :: '\n' :: _ => some 2
  | _ => none

/-- A backslash at the end of a line, which continues it. -/
def continuationLength? : List Char → Option Nat
  | '\\' :: cs => (newlineLength? cs).map (· + 1)
  | _ => none

/-- The length of the longest run of blanks other than line breaks. -/
def blankLength (cs : List Char) : Nat :=
  (cs.takeWhile fun c => isBlank c && c != '\n').length

/-- The length of an exponent, or 0 if there is none. -/
def exponentLength : List Char → Nat
  | [] => 0
  | c :: cs =>
    if c = 'e' ∨ c = 'E' then
      let sign := if cs.head? = some '+' ∨ cs.head? = some '-' then 1 else 0
      let digits := ((cs.drop sign).takeWhile isDigit).length
      if digits = 0 then 0 else 1 + sign + digits
    else 0

/-- A number with digits on both sides of a point, and an optional exponent. Other numbers are
words. -/
def numberLength? (cs : List Char) : Option Nat :=
  let whole := (cs.takeWhile isDigit).length
  match cs.drop whole with
  | '.' :: rest =>
    let fraction := (rest.takeWhile isDigit).length
    if whole = 0 ∨ fraction = 0 then none
    else some (whole + 1 + fraction + exponentLength (rest.drop fraction))
  | _ => none

/-- A character of a name or a keyword. -/
def isNameChar (c : Char) : Bool :=
  isWord c || c == '$'

/-- A name, a keyword or a number without a point. -/
def wordLength? (cs : List Char) : Option Nat :=
  match (cs.takeWhile isNameChar).length with
  | 0 => none
  | n + 1 => some (n + 1)

/-! ## Delimited text -/

/-- The distance to the end of the first occurrence of `mark`, counted from `n`. -/
def endOfFrom (mark : List Char) (n : Nat) : List Char → Option Nat
  | [] => none
  | c :: cs =>
    if mark.isPrefixOf (c :: cs) then some (n + mark.length) else endOfFrom mark (n + 1) cs

/-- The distance to the end of the first delimiter that no backslash takes with it, counted from
`n`. Without `multiline` the text must not reach the end of its line. -/
def closingFrom (delimiter : Char) (multiline : Bool) (n : Nat) : List Char → Option Nat
  | [] => none
  | [c] => if c = delimiter then some (n + 1) else none
  | c :: d :: cs =>
    if c = delimiter then some (n + 1)
    else if c = '\\' then closingFrom delimiter multiline (n + 2) cs
    else if c = '\n' ∧ !multiline then none
    else closingFrom delimiter multiline (n + 1) (d :: cs)

/-- The length of a string literal of the given form at the front of a text. -/
def Quote.length? : Quote → List Char → Option Nat
  | .onLine q, c :: cs => if c = q then closingFrom q false 1 cs else none
  | .acrossLines q, c :: cs => if c = q then closingFrom q true 1 cs else none
  | .tripled q, cs =>
    if [q, q, q].isPrefixOf cs then endOfFrom [q, q, q] 3 (cs.drop 3) else none
  | _, [] => none

/-! ## Rules of a lexicon -/

namespace Lexicon

/-- A block comment, if the lexicon has them and this one is closed. -/
def blockCommentLength? (x : Lexicon) : List Char → Option Nat
  | '/' :: '*' :: cs => if x.blockComments then endOfFrom ['*', '/'] 2 cs else none
  | _ => none

/-- A line comment: everything up to the end of the line. -/
def lineCommentLength? (x : Lexicon) (cs : List Char) : Option Nat :=
  if x.lineComments.any (·.toList.isPrefixOf cs) then some (cs.takeWhile (· != '\n')).length
  else none

/-- A comment of either form. -/
def commentLength? (x : Lexicon) (cs : List Char) : Option Nat :=
  x.blockCommentLength? cs <|> x.lineCommentLength? cs

/-- A string literal, in the first form that fits. -/
def stringLength? (x : Lexicon) (cs : List Char) : Option Nat :=
  x.quotes.findSome? (·.length? cs)

/-- The length of the longest operator at the front of a text, or 0 if there is none. -/
def symbolLength (x : Lexicon) (cs : List Char) : Nat :=
  (x.symbols.filter (·.toList.isPrefixOf cs)).foldl (fun n s => max n s.length) 0

/-- The length of a code token: a number, a word, the longest operator or a single character. -/
def codeLength (x : Lexicon) (cs : List Char) : Nat :=
  (numberLength? cs <|> wordLength? cs).getD (max 1 (x.symbolLength cs))

/-- The class and the length of the token at the front of a text. -/
def classify (x : Lexicon) (cs : List Char) : TokenKind × Nat :=
  match newlineLength? cs with
  | some n => (.newline, n)
  | none =>
    match continuationLength? cs with
    | some n => (.whitespace, n)
    | none =>
      match blankLength cs with
      | n + 1 => (.whitespace, n + 1)
      | 0 =>
        match x.commentLength? cs with
        | some n => (.comment, n)
        | none =>
          match x.stringLength? cs with
          | some n => (.string, n)
          | none => (.code, x.codeLength cs)

/-- Splits a text, of which the first characters, as many as the first argument says, belong to the
lexeme before. -/
def split (x : Lexicon) : Nat → Array Lexeme → List Char → Array Lexeme
  | _, done, [] => done
  | k + 1, done, _ :: cs => x.split k done cs
  | 0, done, c :: cs =>
    let (kind, n) := x.classify (c :: cs)
    x.split (n - 1) (done.push ⟨kind, c :: cs.take (n - 1)⟩) cs

/-- The lexemes of a text, in order. -/
def lexemes (x : Lexicon) (cs : List Char) : List Lexeme :=
  (x.split 0 #[] cs).toList

end Lexicon

/-! ## Tokens -/

/-- The token of a lexeme that begins at `p`. -/
def Lexeme.token (l : Lexeme) (p : Position) : Token where
  kind := l.kind
  text := String.ofList l.text
  line := p.line
  column := p.column

/-- Puts lexemes in their places, one after the other. -/
def placed (lexemes : List Lexeme) : List Token :=
  (lexemes.foldl (fun (p, done) l => (p.after l.text, done.push (l.token p)))
    (({} : Position), (#[] : Array Token))).2.toList

/-- The tokens of a source text: every character of it belongs to one of them. -/
def Lexicon.tokens (x : Lexicon) (source : String) : List Token :=
  placed (x.lexemes source.toList)

end Cyclomatic
