/-!
# Languages

The languages that can be measured, with their names and file extensions.
-/

namespace Cyclomatic

/-- A language that can be measured. -/
inductive Language where
  | typescript
  | javascript
  | go
  | python
deriving DecidableEq, Repr

namespace Language

/-- The name of a language. -/
def name : Language → String
  | typescript => "typescript"
  | javascript => "javascript"
  | go => "go"
  | python => "python"

/-- The languages in the order in which a choice lists them. -/
def all : List Language :=
  [typescript, javascript, go, python]

/-- The languages in the order of their recognizers. -/
def recognized : List Language :=
  [go, typescript, javascript, python]

/-- The language of a name, spelled exactly. -/
def ofName? (name : String) : Option Language :=
  all.find? (·.name == name)

/-- The file extensions of a language. -/
def extensions : Language → List String
  | typescript => [".ts", ".tsx"]
  | javascript => [".js", ".jsx", ".mjs", ".cjs"]
  | go => [".go"]
  | python => [".py"]

/-- The language of a file extension in lower case. -/
def ofExtension? (extension : String) : Option Language :=
  all.find? (·.extensions.contains extension)

/-- The language of source text that nothing else identifies. -/
def fallback : Language :=
  typescript

@[simp] theorem ofName?_name (l : Language) : ofName? l.name = some l := by
  cases l <;> decide

end Language

end Cyclomatic
