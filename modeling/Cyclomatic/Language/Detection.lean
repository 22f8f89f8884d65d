import Cyclomatic.Language
import Cyclomatic.Path
import Cyclomatic.Text.LowerCase

/-!
# Detecting a language

The language that a value names, and the language of a file by its extension. Settings may map
further extensions to languages, or map the known ones to others.
-/

namespace Cyclomatic.Language

/-- The fault of a value that names no language. Its message shows the value, if that can be shown. -/
def unsupported (v : Value) : Fault :=
  if v.isShowable then .unsupportedLanguage v else .longInteger

/-- The language that a value names, in any case and with blanks around it. -/
def ofValue (v : Value) : Except Fault Language :=
  match v with
  | .text s =>
    match ofName? (Text.lower (String.ofList (Text.trimmed s.toList))) with
    | some language => .ok language
    | none => .error (unsupported v)
  | _ => .error (unsupported v)

/-- An extension with the dot that it may be written without. -/
def dotted (extension : String) : String :=
  if extension.startsWith "." then extension else "." ++ extension

/-- The language that overrides give to an extension. The first override for it decides, and all
before that must be for texts. -/
def ofOverrides? (extension : String) : Entries → Except Fault (Option Language)
  | [] => .ok none
  | (.text key, v) :: rest =>
    if Text.lower (dotted key) == extension then (ofValue v).map some
    else ofOverrides? extension rest
  | (.bytes _, _) :: _ => .error (.kind .bytesStart)
  | (key, _) :: _ => .error (.kind (.noMember (.scalar key) "startswith"))

/-- The language of a file by its extension, in any case. -/
def ofFile? (overrides : Entries) (filename : String) : Except Fault (Option Language) := do
  let extension := Text.lower (Path.extension filename)
  return (← ofOverrides? extension overrides).or (ofExtension? extension)

/-- The language of a file, or the fallback if its extension says nothing. -/
def ofFile (overrides : Entries) (filename : String) : Except Fault Language :=
  (ofFile? overrides filename).map (·.getD fallback)

end Cyclomatic.Language
