/-!
# Tokens

A token is a piece of source text with its class and its place. Tokens come out of a lexicon in
source order; a recognizer reads the significant ones: code, strings and line breaks.
-/

namespace Cyclomatic

/-! ## Places -/

/-- The distance between two tab stops. -/
def tabWidth : Nat := 8

/-- The column after a character: a tab goes to the next tab stop, anything else one further. -/
def columnAfter (column : Nat) (c : Char) : Nat :=
  if c = '\t' then (column / tabWidth + 1) * tabWidth else column + 1

/-- A place in a text: its line, counted from 1, and its column, counted from 0. -/
structure Position where
  line : Nat := 1
  column : Nat := 0
deriving DecidableEq, Repr

/-- The place after a character. -/
def Position.next (p : Position) (c : Char) : Position :=
  if c = '\n' then ⟨p.line + 1, 0⟩ else ⟨p.line, columnAfter p.column c⟩

/-- The place after a text that begins at `p`. -/
def Position.after (p : Position) (text : List Char) : Position :=
  text.foldl Position.next p

@[simp] theorem Position.after_nil (p : Position) : p.after [] = p := rfl

@[simp] theorem Position.after_cons (p : Position) (c : Char) (cs : List Char) :
    p.after (c :: cs) = (p.next c).after cs := rfl

theorem Position.after_append (p : Position) (a b : List Char) :
    p.after (a ++ b) = (p.after a).after b := by
  simp [Position.after]

/-! ## Tokens -/

/-- The lexical classes. -/
inductive TokenKind where
  | code
  | comment
  | string
  | whitespace
  | newline
deriving DecidableEq, Repr

/-- A piece of source text with its class and its place. A newline token is `implicit` when it
stands for a line break inside a comment, a string or a continuation: it ends a line, but not a
logical line. -/
structure Token where
  kind : TokenKind
  text : String
  line : Int := 1
  column : Int := 0
  implicit : Bool := false
deriving DecidableEq, Repr

/-- The number of line breaks in a text. -/
def lineBreaks (text : String) : Nat :=
  text.toList.count '\n'

namespace Token

/-- Whether the token is program text rather than a string, a comment, blanks or a line break. -/
def isCode (t : Token) : Bool :=
  t.kind == .code

/-- Whether the token is a line break. -/
def isNewline (t : Token) : Bool :=
  t.kind == .newline

/-- Whether the token is code or a string, and so makes its lines code lines. -/
def isSubstance (t : Token) : Bool :=
  t.kind == .code || t.kind == .string

/-- The number of lines that the token touches. -/
def lineSpan (t : Token) : Nat :=
  lineBreaks t.text + 1

/-- The line breaks inside a token, one implicit newline each. -/
def innerBreaks (t : Token) : List Token :=
  (List.range (lineBreaks t.text)).map fun (i : Nat) =>
    ({ kind := .newline, text := "\n", line := t.line + i, column := 0, implicit := true } : Token)

/-- What a recognizer sees of a token: the token itself if it is code, a string or a line break, and
the line breaks inside it. -/
def significant (t : Token) : List Token :=
  if t.isNewline then [t]
  else if t.isSubstance then t :: t.innerBreaks
  else t.innerBreaks

end Token

/-- The significant part of a token stream. -/
def significantTokens (tokens : List Token) : List Token :=
  tokens.flatMap Token.significant

end Cyclomatic
