import Cyclomatic.Yaml.Label

/-!
# Symbols

What a YAML text is made of: scalars, names, and the marks that structure collections and documents.
Indentation shows as symbols that open and close blocks.
-/

namespace Cyclomatic.Yaml

/-- A part of a text that has a meaning of its own. -/
inductive Symbol where
  | streamEnd
  | directive (d : Directive)
  | documentStart
  | documentEnd
  | blockSequenceStart
  | blockMappingStart
  | blockEnd
  | flowSequenceStart
  | flowSequenceEnd
  | flowMappingStart
  | flowMappingEnd
  | key
  | value
  | blockEntry
  | flowEntry
  | reference (name : String)
  | anchor (name : String)
  | tag (t : TagText)
  | scalar (text : String) (plain : Bool)
deriving DecidableEq, Repr

/-- The name of a symbol, as messages give it. -/
def Symbol.label : Symbol → String
  | streamEnd => "<stream end>"
  | directive _ => "<directive>"
  | documentStart => "<document start>"
  | documentEnd => "<document end>"
  | blockSequenceStart => "<block sequence start>"
  | blockMappingStart => "<block mapping start>"
  | blockEnd => "<block end>"
  | flowSequenceStart => "["
  | flowSequenceEnd => "]"
  | flowMappingStart => "\x7b"
  | flowMappingEnd => "\x7d"
  | key => "?"
  | value => ":"
  | blockEntry => "-"
  | flowEntry => ","
  | reference _ => "<alias>"
  | anchor _ => "<anchor>"
  | tag _ => "<tag>"
  | scalar .. => "<scalar>"

/-- A symbol with the places where it begins and ends. -/
structure Placed where
  symbol : Symbol
  start : Mark
  stop : Mark
deriving DecidableEq, Repr

/-- A symbol that takes no room. -/
def Symbol.mark (s : Symbol) (m : Mark) : Placed :=
  ⟨s, m, m⟩

end Cyclomatic.Yaml
