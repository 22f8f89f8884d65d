import Cyclomatic.Fault

/-!
# Paths

Paths as texts with slashes: their parts, their lexical normal form and the way from one to another.
None of this looks at a file system.
-/

namespace Cyclomatic.Path

/-! ## Parts -/

/-- Whether a path begins at the root. -/
def isAbsolute (path : String) : Bool :=
  path.startsWith "/"

/-- The parts between slashes, empty ones included. -/
def segments (path : String) : List String :=
  path.splitOn "/"

/-- The parts that name something: neither empty nor a single dot. -/
def parts (path : String) : List String :=
  (segments path).filter fun s => s != "" && s != "."

/-- The part after the last slash. -/
def baseName (path : String) : String :=
  (segments path).getLastD ""

/-- The slashes that a path at the root begins with: two stay two, and any other number is one. -/
def rootMark (path : String) : String :=
  if path.startsWith "//" && !path.startsWith "///" then "//"
  else if isAbsolute path then "/" else ""

/-- A path in its plain form: without empty parts and single dots. -/
def plain (path : String) : String :=
  let joined := rootMark path ++ "/".intercalate (parts path)
  if joined.isEmpty then "." else joined

/-- A path with one part more. -/
def join (path name : String) : String :=
  if isAbsolute name then name
  else if path.isEmpty || path.endsWith "/" then path ++ name
  else path ++ "/" ++ name

/-! ## Extensions -/

/-- The text from the last dot on, together with what stands before it, nearest first. -/
def lastDot (name : List Char) : Option (List Char × List Char) :=
  match name.reverse.dropWhile (· != '.') with
  | [] => none
  | dot :: before => some (dot :: (name.reverse.takeWhile (· != '.')).reverse, before)

/-- The extension of a path with its dot. Dots at the front of the last part begin none. -/
def extension (path : String) : String :=
  match lastDot (baseName path).toList with
  | some (ext, before) => if before.all (· == '.') then "" else String.ofList ext
  | none => ""

/-- The suffix of the last part that names something: an extension that is not a mere dot and has
something before it. -/
def suffix (path : String) : String :=
  match lastDot ((parts path).getLastD "").toList with
  | some (ext, before) => if before.isEmpty || ext.length == 1 then "" else String.ofList ext
  | none => ""

/-! ## Places -/

/-- Goes from a place, given by its parts in reverse, along the parts of a path. At the root the
parent of a place is the place itself. -/
def follow (place : List String) : List String → List String
  | [] => place
  | ".." :: rest => follow place.tail rest
  | name :: rest => follow (name :: place) rest

/-- The parts of the place of a path, seen from the working directory `cwd`. -/
def place (cwd : List String) (path : String) : List String :=
  (follow (if isAbsolute path then [] else cwd.reverse) (parts path)).reverse

/-- The absolute path of a place. -/
def ofPlace (place : List String) : String :=
  "/" ++ "/".intercalate place

/-- A path seen from the root. -/
def absolute (cwd : List String) (path : String) : String :=
  (if isAbsolute path then rootMark path else "/") ++ "/".intercalate (place cwd path)

/-- Drops the common beginning of two lists. -/
def dropCommon : List String → List String → List String × List String
  | a :: as, b :: bs => if a = b then dropCommon as bs else (a :: as, b :: bs)
  | as, bs => (as, bs)

/-- The way from the place of `base` to the place of `path`. -/
def relative (cwd : List String) (path base : String) : Except Fault String :=
  if path.isEmpty then .error .emptyPath
  else
    let (down, up) := dropCommon (place cwd path) (place cwd base)
    let way := up.map (fun _ => "..") ++ down
    .ok (if way.isEmpty then "." else "/".intercalate way)

end Cyclomatic.Path
