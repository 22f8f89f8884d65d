import Cyclomatic.CommandLine.Session

/-!
# The program

Reads what a command line needs from the file system, runs it, and carries out what came of it. All
decisions are made by the run.
-/

namespace Cyclomatic

open CommandLine

/-- Reads the tree at a path. Links to directories are not followed; what cannot be read is a link to
nothing. -/
partial def readTree (path : String) : IO Node := do
  let place := (← IO.currentDir) / path
  try
    if ← place.isDir then
      let entries ← place.readDir
      let children ← entries.toList.mapM fun entry => do
        let child := path ++ "/" ++ entry.fileName
        let isLink := (← entry.path.symlinkMetadata).type matches .symlink
        let node ← if isLink && (← entry.path.isDir) then pure (.directory []) else readTree child
        return (entry.fileName, node)
      return .directory children
    else
      return .file (← IO.FS.readBinFile place).toList
  catch _ => return .link ""

/-- Puts what is at a path into a file system, if anything is there. -/
def addTree (d : Disk) (path : String) : IO Disk := do
  if ← ((← IO.currentDir) / path).pathExists then return d.put path (← readTree path) else return d

/-- Puts a directory at a path into a file system, without what is in it. -/
def addDirectory (d : Disk) (path : String) : IO Disk := do
  if !d.contains path && (← ((← IO.currentDir) / path).isDir) then
    return d.put path (.directory [])
  else return d

/-- The place that holds a path. -/
def parentOf (path : String) : String :=
  Path.join path ".."

/-- The places from a path upwards where settings files are looked for. -/
def settingsPlaces (d : Disk) (path : String) : List String :=
  let place := Path.place d.cwd path
  (List.range (place.length + 1)).flatMap fun n =>
    Settings.fileNames.map (Path.join (Path.ofPlace (place.take n)))

/-- The path that an argument is, if it is one. -/
def pathsOf : Value → List String
  | .text path => [path]
  | _ => []

/-- The part of the file system that an analysis looks at. -/
def diskFor (d : Disk) (a : AnalyzeArguments) : IO Disk := do
  let targets := if a.readsInput then [] else a.targets
  let d ← (targets ++ pathsOf a.config ++ settingsPlaces d a.start).foldlM addTree d
  (pathsOf a.output).foldlM (fun d path => addDirectory d (Path.absolute d.cwd (parentOf path))) d

/-- Reads standard input to its end. -/
partial def readInput (input : IO.FS.Stream) (text : String) : IO String := do
  let line ← input.getLine
  if line.isEmpty then return text else readInput input (text ++ line)

/-- The surroundings of a command line. -/
def environmentFor (args : List String) : IO Environment := do
  let cwd := Path.parts (← IO.currentDir).toString
  let bare : Disk := Disk.put { cwd } (Path.ofPlace cwd) (.directory [])
  let terminal ← (← IO.getStdout).isTty
  match Command.read args with
  | .ok (.analyze a) =>
    let input ← if a.readsInput then readInput (← IO.getStdin) "" else pure ""
    return { disk := ← diskFor bare a, input := some input, terminal }
  | .ok (.setUp _) => return { disk := ← addTree bare newSettingsFile, terminal }
  | _ => return { disk := bare, terminal }

end Cyclomatic

open Cyclomatic CommandLine in
/-- Runs the program. -/
def main (args : List String) : IO UInt32 := do
  let env ← environmentFor args
  let exit := run env args
  (← IO.getStdout).putStr exit.out
  (← IO.getStderr).putStr exit.err
  for (place, bytes) in Disk.changes env.disk exit.disk do
    IO.FS.writeBinFile (Path.ofPlace place) ⟨bytes.toArray⟩
  match exit.fault, ← IO.getEnv "DEBUG" with
  | some f, some _ => throw (IO.userError f.message)
  | _, _ => return UInt32.ofNat exit.code
