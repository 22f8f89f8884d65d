import Cyclomatic.Language

/-!
# Lexicons

What tells the tokens of one language from those of another: its comment markers, its string
delimiters and its operators of more than one character.
-/

namespace Cyclomatic

/-- A form of string literal. -/
inductive Quote where
  /-- Between two of the delimiter on one line; a backslash takes the next character with it. -/
  | onLine (delimiter : Char)
  /-- Between two of the delimiter, over any number of lines, with the same escapes. -/
  | acrossLines (delimiter : Char)
  /-- Between two runs of three of the delimiter, everything in between taken as it is. -/
  | tripled (delimiter : Char)
deriving DecidableEq, Repr

/-- The lexical conventions of a language. -/
structure Lexicon where
  lineComments : List String
  blockComments : Bool
  quotes : List Quote
  symbols : List String
deriving DecidableEq, Repr

namespace Lexicon

/-- The operators of more than one character that every language reads as one token. A double
closing angle is left out, so that nested type arguments close one by one. -/
def sharedSymbols : List String :=
  ["<<=", ">>=", "===", "!==", "**=", "...",
   "&&", "||", "==", "!=", "<=", ">=", "->", "=>",
   "++", "--", "+=", "-=", "*=", "/=", "%=", "^=", "&=", "|=",
   ":=", "::", "**"]

/-- The string forms of languages with template or raw strings. -/
def backtickQuotes : List Quote :=
  [.onLine '"', .onLine '\'', .acrossLines '\x60']

/-- The lexicon of TypeScript and JavaScript. -/
def script : Lexicon where
  lineComments := ["//"]
  blockComments := true
  quotes := backtickQuotes
  symbols := sharedSymbols ++ ["??=", "?.", "??"]

/-- The lexicon of Go. -/
def go : Lexicon where
  lineComments := ["//"]
  blockComments := true
  quotes := backtickQuotes
  symbols := sharedSymbols ++ ["<-", "&^="]

/-- The lexicon of Python. -/
def python : Lexicon where
  lineComments := ["#"]
  blockComments := false
  quotes := [.tripled '"', .tripled '\'', .onLine '"', .onLine '\'']
  symbols := sharedSymbols ++ ["//="]

/-- The lexicon of text in an unknown language, which takes both comment styles. -/
def unknown : Lexicon where
  lineComments := ["//", "#"]
  blockComments := true
  quotes := backtickQuotes
  symbols := sharedSymbols

/-- The lexicon of a language, if there is one. -/
def of : Option Language → Lexicon
  | some .typescript => script
  | some .javascript => script
  | some .go => go
  | some .python => python
  | none => unknown

end Lexicon

end Cyclomatic
