import Cyclomatic.FileTree.Content
import Cyclomatic.Json.Reader
import Cyclomatic.Settings
import Cyclomatic.Yaml.Reader
import Cyclomatic.Yaml.Writer

/-!
# Settings files

Settings are read from YAML or JSON files, which are looked for from a directory upwards.
-/

namespace Cyclomatic.Settings

/-! ## Reading -/

/-- The value of a YAML text. One that counts as false is an empty mapping. -/
def ofYaml (text : String) : Except Fault Value :=
  match Yaml.parse text with
  | .ok v => .ok (if v.isTruthy then v else .dict [])
  | .error e => .error (.malformedYaml e)

/-- The value of a JSON text. -/
def ofJson (text : String) : Except Fault Value :=
  (Json.parse text).mapError .malformedJson

/-- The value of a text in the format that a suffix names, or else in either format. -/
def ofText (suffix text : String) : Except Fault Value :=
  if suffix = ".yaml" ∨ suffix = ".yml" then ofYaml text
  else if suffix = ".json" then ofJson text
  else
    match Json.parse text with
    | .ok v => .ok v
    | .error (.malformed ..) => ofYaml text
    | .error e => .error (.malformedJson e)

/-- Whether a path leads to something, unless that cannot be told. -/
def hasFile (d : Disk) (path : String) : Except Fault Bool :=
  (d.hasPath path).mapError (.system · path)

/-- The value that a settings file holds. -/
def fileValue (d : Disk) (path : String) : Except Fault Value := do
  let path := Path.plain path
  if !(← hasFile d path) then throw (.settingsMissing path)
  let bytes ← (d.read path).mapError (.system · path)
  let text ← (Content.strictText bytes).mapError .undecodable
  ofText (Path.suffix path) text

/-! ## Finding -/

/-- The names of settings files, in the order in which they are looked for. -/
def fileNames : List String :=
  [".complexityscanner.yaml", ".complexityscanner.yml", ".complexityscanner.json",
   "complexityscanner.yaml", "complexityscanner.yml", "complexityscanner.json"]

/-- The first of some paths that leads to something. -/
def firstPath? (d : Disk) : List String → Except Fault (Option String)
  | [] => .ok none
  | path :: rest => do
    if ← hasFile d path then return some path else firstPath? d rest

/-- The settings file of a place, given by its parts in reverse, or of the nearest place above it
that has one. -/
def findAbove (d : Disk) : List String → Except Fault (Option String)
  | [] => firstPath? d (fileNames.map ("/" ++ ·))
  | name :: outer => do
    let place := Path.ofPlace (name :: outer).reverse
    match ← firstPath? d (fileNames.map (Path.join place)) with
    | some path => return some path
    | none => findAbove d outer

/-- The settings file for a starting point. -/
def findFile (d : Disk) (start : String) : Except Fault (Option String) := do
  let place ← (d.resolve start).mapError (.system · start)
  let path := Path.ofPlace place
  if d.find path matches .error .linkLoop then throw (.linkLoop path)
  findAbove d place.reverse

/-! ## Settings of a file -/

/-- The section on scanning. -/
def scanName : String :=
  "scan"

/-- The entries of a mapping without a section, and those of the section put among them. -/
def flattened {α : Type} (own inner : List (Scalar × α)) : List (Scalar × α) :=
  inner.foldl (fun es e => Value.put es e.1 e.2) own

/-- The entries of a mapping without the section on scanning. -/
def withoutScan {α : Type} (entries : List (Scalar × α)) : List (Scalar × α) :=
  entries.filter fun e => !e.1.same (.text scanName)

/-- A mapping at a place of a web with the entries of its section on scanning put among its own. The
section may be the mapping itself, which then has lost the section already. -/
def flattenLinked (web : Web) (place : Nat) : Web :=
  match web.cell place with
  | .dict entries =>
    match Value.get? entries scanName with
    | some (.link inner) =>
      match web.cell inner with
      | .dict _ =>
        let own := withoutScan entries
        let web : Web := web.setIfInBounds place (.dict own)
        match web.cell inner with
        | .dict more => web.setIfInBounds place (.dict (flattened own more))
        | _ => web
      | _ => web
    | _ => web
  | _ => web

/-- A mapping with the entries of its section on scanning put among its own. -/
def flattenScan : Value → Value
  | .linked web place => .linked (flattenLinked web place) place
  | .dict entries =>
    match (Value.get? entries scanName).bind (·.entries?) with
    | some inner => .dict (flattened (withoutScan entries) inner)
    | none => .dict entries
  | v => v

/-- The settings that a value holds, which must be a mapping. -/
def ofValue (v : Value) : Except Fault Settings :=
  match (flattenScan v).entries? with
  | some entries => .ok (ofEntries entries)
  | none => .error (.kind (.noMember v "get"))

/-- A value without links, unless it is part of itself. -/
def writtenOut (v : Value) : Except Fault Value :=
  match v.unlinked? with
  | some v => .ok v
  | none => .error .endless

/-- All settings as one value. -/
def record (s : Settings) : Except Fault Value :=
  writtenOut (.dict s.toEntries)

/-- The settings file to be read: the one given, or if that is null the one for a starting point. -/
def chooseFile (d : Disk) (given : Value) (start : String) : Except Fault (Option String) :=
  match given with
  | .null => findFile d start
  | .text path => .ok (some path)
  | v => .error (.kind (.notText v))

/-- The settings of the file that is given or found, or the defaults. -/
def load (d : Disk) (given : Value) (start : String) : Except Fault Settings := do
  match ← chooseFile d given start with
  | some path => ofValue (← fileValue d path)
  | none => return {}

/-- The text of a new settings file. -/
def starterText : String :=
  Yaml.write (.dict starter)

end Cyclomatic.Settings
