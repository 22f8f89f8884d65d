import Cyclomatic.FileTree
import Cyclomatic.Glob
import Cyclomatic.Language.Detection
import Cyclomatic.Report

/-!
# Discovering source files

Which files below a target are to be scanned: those that no pattern leaves out, whose extension tells
a language and which are not too large. Left-out directories are not entered. The files of a
directory come before those of its subdirectories, each in the order of their names.
-/

namespace Cyclomatic

/-! ## Patterns -/

/-- Whether a pattern matches a path, given from the base of a scan, or its last part. Patterns are
tried in turn, so one that is no text matters only if none before it matches. -/
def matchesAny (way name : String) : List Value → Except Fault Bool
  | [] => .ok false
  | .text pattern :: rest =>
    if globMatches pattern way || globMatches pattern name then .ok true
    else matchesAny way name rest
  | .scalar (.bytes _) :: _ => .error (.kind .bytesPattern)
  | v :: _ => .error (.kind (.notText v))

/-- The items of a value that must have some. -/
def Value.toItems (v : Value) : Except Fault (List Value) :=
  match v.items? with
  | some items => .ok items
  | none => .error (.kind (.notIterable v))

namespace Settings

/-- Whether a path is left out of a scan with the given base: if a pattern excludes it, or if there
are patterns for files to include and none matches. -/
def ignores (s : Settings) (cwd : List String) (base path : String) (isDirectory : Bool) :
    Except Fault Bool := do
  let way ← Path.relative cwd path base
  let name := Path.baseName path
  if ← matchesAny way name (← s.excludePatterns.toItems) then
    return true
  else if s.includePatterns.isTruthy && !isDirectory then
    return !(← matchesAny way name (← s.includePatterns.toItems))
  else
    return false

/-- The languages that settings give to extensions. -/
def overrides (s : Settings) : Except Fault Entries :=
  match s.extensionOverrides.entries? with
  | some entries => .ok entries
  | none =>
    if s.extensionOverrides.isTruthy then
      .error (.kind (.noMember s.extensionOverrides "items"))
    else .ok []

/-- The language of a file by its extension. -/
def languageOf? (s : Settings) (path : String) : Except Fault (Option Language) := do
  Language.ofFile? (← s.overrides) path

/-- Whether a size is above what settings allow. -/
def tooLarge (s : Settings) (size : Nat) : Except Fault Bool :=
  (Value.int size).exceeds s.maxFileSize

end Settings

/-! ## Findings -/

/-- What a walk through a tree comes across. -/
inductive Finding where
  /-- A file to scan. -/
  | source (path : String)
  /-- A file left out for its size. -/
  | tooLarge (path : String)
  /-- A reason to stop. -/
  | fault (f : Fault)

namespace Discovery

/-- What becomes of a file with the given bytes, or of a link that leads to none. -/
def considerFile (s : Settings) (cwd : List String) (base path : String)
    (bytes : Option (List UInt8)) : Except Fault (List Finding) := do
  if ← s.ignores cwd base path false then
    return []
  else if (← s.languageOf? path).isNone then
    return []
  else
    match bytes with
    | some bytes => return [if ← s.tooLarge bytes.length then .tooLarge path else .source path]
    | none => return []

/-- Findings, or the fault in their place. -/
def orFault : Except Fault (List Finding) → List Finding
  | .ok findings => findings
  | .error f => [.fault f]

/-- What was found at one entry of a directory. -/
structure Branch where
  name : String
  isDirectory : Bool
  /-- What keeps the directory from being read at all. -/
  obstacles : List Finding := []
  findings : List Finding := []

/-- The branches of a directory in one list: files first, each kind in the order of names. -/
def assemble (branches : List Branch) : List Finding :=
  let sorted := branches.mergeSort fun a b => textLe a.name b.name
  branches.flatMap (·.obstacles) ++
    (sorted.filter (!·.isDirectory)).flatMap (·.findings) ++
    (sorted.filter (·.isDirectory)).flatMap (·.findings)

/-- The branch at a directory, given what is found in it if it is entered. -/
def directoryBranch (s : Settings) (cwd : List String) (base path name : String)
    (inside : List Finding) : Branch :=
  match s.ignores cwd base path true with
  | .ok true => { name, isDirectory := true }
  | .ok false => { name, isDirectory := true, findings := inside }
  | .error f => { name, isDirectory := true, obstacles := [.fault f] }

/-- The branch at a file with the given bytes, or at a link that leads to none. -/
def fileBranch (s : Settings) (cwd : List String) (base path name : String)
    (bytes : Option (List UInt8)) : Branch :=
  { name, isDirectory := false, findings := orFault (considerFile s cwd base path bytes) }

/-- The branch at a link. A directory that a link leads to is not entered. -/
def linkBranch (s : Settings) (d : Disk) (base path name : String) : Branch :=
  match d.find path with
  | .ok (.directory _) => directoryBranch s d.cwd base path name []
  | .ok (.file bytes) => fileBranch s d.cwd base path name (some bytes)
  | _ => fileBranch s d.cwd base path name none

mutual

/-- The findings below a node with the given path. -/
def walk (s : Settings) (d : Disk) (base path : String) : Node → List Finding
  | .directory entries => assemble (branches s d base path entries)
  | .file _ => []
  | .link _ => []

/-- The branches at the entries of a directory with the given path. -/
def branches (s : Settings) (d : Disk) (base path : String) : List (String × Node) → List Branch
  | [] => []
  | (name, node) :: rest =>
    let place := Path.join path name
    let branch : Branch :=
      match node with
      | .directory entries =>
        directoryBranch s d.cwd base place name (walk s d base place (.directory entries))
      | .file bytes => fileBranch s d.cwd base place name (some bytes)
      | .link _ => linkBranch s d base place name
    branch :: branches s d base path rest

end

/-- The findings at a target. A file is taken as it is. -/
def findings (s : Settings) (d : Disk) (target : String) : List Finding :=
  let top := Path.plain target
  match d.find top with
  | .ok (.file _) => [.source top]
  | .ok node => walk s d target top node
  | .error .zeroCharacter => [.fault (.system .zeroCharacter top)]
  | .error .nameTooLong => [.fault (.system .nameTooLong top)]
  | .error _ => []

/-- The findings before the first fault. -/
def beforeFault : List Finding → List Finding :=
  List.takeWhile fun f => !(f matches .fault _)

/-- The files to scan, unless a fault stops the search. -/
def files : List Finding → Except Fault (List String)
  | [] => .ok []
  | .source path :: rest => (files rest).map (path :: ·)
  | .tooLarge _ :: rest => files rest
  | .fault f :: _ => .error f

end Discovery

end Cyclomatic
