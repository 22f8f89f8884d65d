import Cyclomatic.Path

/-!
# File trees

A file system as a tree of directories, files and links, with a working directory. Finding the node
of a path follows its parts one by one, goes on at the target of a link, and fails as a real file
system does.
-/

namespace Cyclomatic

/-- What stands at a place of a file system. -/
inductive Node where
  | file (bytes : List UInt8)
  /-- A link to a path, seen from the directory that holds the link. -/
  | link (target : String)
  | directory (entries : List (String × Node))

namespace Node

/-- Whether a node is a file. -/
def isFile : Node → Bool
  | file _ => true
  | _ => false

/-- Whether a node is a directory. -/
def isDirectory : Node → Bool
  | directory _ => true
  | _ => false

/-! ## Ways -/

/-- How many bytes a name may have. A longer one, which nothing has, is refused. -/
def maxNameSize : Nat := 255

/-- A node on the way along a path, with the name under which it was found. -/
structure Step where
  name : String
  node : Node

/-- The place that a way leads to. The nodes on a way are given from the innermost outwards, the root
last. -/
def placeOf (way : List Step) : List String :=
  (way.map (·.name)).dropLast.reverse

/-- Where the parts of a path lead. -/
inductive Arrival where
  | there (way : List Step)
  /-- A name that nothing has in its directory. The flag tells whether slashes follow it. -/
  | vacant (way : List Step) (name : String) (slashes : Bool)
  /-- A link in a directory, with the parts that are left. -/
  | link (target : String) (way : List Step) (rest : List String)

/-- Follows the parts of a path up to the first link. The parent of the root is the root. -/
def go : List String → List Step → Except SystemError Arrival
  | [], way => .ok (.there way)
  | _ :: _, [] => .error .notFound
  | name :: rest, step :: outer =>
    match step.node with
    | .directory entries =>
      if name = "" ∨ name = "." then go rest (step :: outer)
      else if name = ".." then go rest (if outer.isEmpty then [step] else outer)
      else
        match entries.lookup name with
        | some (.link target) => .ok (.link target (step :: outer) rest)
        | some node => go rest (⟨name, node⟩ :: step :: outer)
        | none =>
          if maxNameSize < name.utf8ByteSize then .error .nameTooLong
          else if rest.all (· == "") then .ok (.vacant (step :: outer) name (!rest.isEmpty))
          else .error .notFound
    | _ => .error .notDirectory

/-- How many links may be followed on one way. -/
def maxLinks : Nat := 40

/-- Follows the parts of a path, and up to `links` links on the way. -/
def follow (links : Nat) (names : List String) (way : List Step) : Except SystemError Arrival :=
  match go names way with
  | .ok (.link target inner rest) =>
    match links with
    | 0 => .error .linkLoop
    | links + 1 =>
      if target.isEmpty then .error .notFound
      else
        follow links (Path.segments target ++ rest)
          (if Path.isAbsolute target then inner.getLast?.toList else inner)
  | other => other

/-- The node at a place, to which no link leads. -/
def at? : List String → Node → Option Node
  | [], node => some node
  | name :: rest, directory entries => (entries.lookup name).bind (at? rest)
  | _ :: _, _ => none

/-! ## Putting -/

/-- The entries with a node put under a name. -/
def putEntry (name : String) (node : Node) : List (String × Node) → List (String × Node)
  | [] => [(name, node)]
  | (other, n) :: rest =>
    if other = name then (name, node) :: rest else (other, n) :: putEntry name node rest

/-- A tree with a node put at a place. Directories on the way are made if they are missing. -/
def put (node : Node) : List String → Node → Node
  | [], _ => node
  | name :: rest, directory entries =>
    directory (putEntry name (put node rest ((entries.lookup name).getD (directory []))) entries)
  | name :: rest, _ => directory [(name, put node rest (directory []))]

/-! ## Listing -/

mutual

/-- The files below a node with their places, in front of which `outer` is put. -/
def files (outer : List String) : Node → List (List String × List UInt8)
  | file bytes => [(outer, bytes)]
  | link _ => []
  | directory entries => filesOfEntries outer entries

/-- The files below the entries of a directory. -/
def filesOfEntries (outer : List String) :
    List (String × Node) → List (List String × List UInt8)
  | [] => []
  | (name, node) :: rest => files (outer ++ [name]) node ++ filesOfEntries outer rest

end

end Node

/-- A file system with a working directory. -/
structure Disk where
  root : Node := .directory []
  cwd : List String := []

namespace Disk

/-! ## Finding -/

/-- Where parts of a path lead, from the root or from the working directory. -/
def arrive (d : Disk) (fromRoot : Bool) (names : List String) : Except SystemError Node.Arrival :=
  Node.follow Node.maxLinks (if fromRoot then names else d.cwd ++ names) [⟨"", d.root⟩]

/-- Where a path leads. -/
def locate (d : Disk) (path : String) : Except SystemError Node.Arrival :=
  if path.contains '\x00' then .error .zeroCharacter
  else if path.isEmpty then .error .notFound
  else d.arrive (Path.isAbsolute path) (Path.segments path)

/-- The node of a path. -/
def find (d : Disk) (path : String) : Except SystemError Node := do
  match ← d.locate path with
  | .there (step :: _) => return step.node
  | _ => throw .notFound

/-- Whether a path leads to something. -/
def contains (d : Disk) (path : String) : Bool :=
  (d.find path).isOk

/-- Whether a path leads to something, unless that cannot be told. -/
def hasPath (d : Disk) (path : String) : Except SystemError Bool :=
  match d.find path with
  | .ok _ => .ok true
  | .error .nameTooLong => .error .nameTooLong
  | .error _ => .ok false

/-- Whether a path leads to a file. -/
def isFile (d : Disk) (path : String) : Bool :=
  match d.find path with
  | .ok node => node.isFile
  | .error _ => false

/-! ## Real places -/

/-- What is left to do on the way to a real place: a name to follow, or the end of a link's target. -/
inductive Pending where
  | name (s : String)
  | closed (link : List String)

/-- The name that is left to follow, if any. -/
def Pending.name? : Pending → Option String
  | name s => some s
  | closed _ => none

/-- The real place, in reverse, that parts lead to from a place given in reverse. The targets of links
are followed; `active` holds those that are being followed. What comes after a link that leads back to
itself is taken by its names alone. Each step spends fuel. -/
def realPlace (d : Disk) : Nat → (active : List (List String)) → (place : List String) →
    List Pending → Except SystemError (List String)
  | _, _, place, [] => .ok place
  | 0, _, place, _ => .ok place
  | fuel + 1, active, place, .closed link :: rest => realPlace d fuel (active.erase link) place rest
  | fuel + 1, active, place, .name name :: rest =>
    if name = "" ∨ name = "." then realPlace d fuel active place rest
    else if name = ".." then realPlace d fuel active place.tail rest
    else if name.contains '\x00' then .error .zeroCharacter
    else
      let here := name :: place
      match Node.at? here.reverse d.root with
      | some (.link target) =>
        if active.contains here then
          .ok (Path.follow here ((rest.filterMap (·.name?)).filter fun s => s != "" && s != "."))
        else
          realPlace d fuel (here :: active) (if Path.isAbsolute target then [] else place)
            ((Path.segments target).map .name ++ .closed here :: rest)
      | _ => realPlace d fuel active here rest

/-- How many steps are made on the way to a real place. -/
def maxSteps : Nat := 100000

/-- The place that a path really leads to, whether something is there or not. -/
def resolve (d : Disk) (path : String) : Except SystemError (List String) := do
  let start := if Path.isAbsolute path then [] else d.cwd.reverse
  return (← realPlace d maxSteps [] start ((Path.segments path).map .name)).reverse

/-! ## Reading and writing -/

/-- The bytes of a file. -/
def read (d : Disk) (path : String) : Except SystemError (List UInt8) := do
  match ← d.find path with
  | .file bytes => return bytes
  | .directory _ => throw .isDirectory
  | .link _ => throw .notFound

/-- What becomes of a file that is to be made with slashes after its name: only a directory could
have them. -/
def refuseSlashes (d : Disk) (path : String) : SystemError :=
  let names := ((Path.segments path).reverse.dropWhile (· == "")).reverse
  match d.arrive (Path.isAbsolute path) names.dropLast with
  | .ok (.there (step :: _)) => if step.node.isDirectory then .isDirectory else .notDirectory
  | .ok _ => .notFound
  | .error e => e

/-- Writes a file, which its directory must be there for. -/
def write (d : Disk) (path : String) (bytes : List UInt8) : Except SystemError Disk :=
  let put (place : List String) : Disk := { d with root := Node.put (.file bytes) place d.root }
  match d.locate path with
  | .error .zeroCharacter => .error .zeroCharacter
  | arrival =>
    if path.endsWith "/" then .error (d.refuseSlashes path)
    else
      match arrival with
      | .ok (.there (step :: outer)) =>
        if step.node.isDirectory then .error .isDirectory
        else .ok (put (Node.placeOf (step :: outer)))
      | .ok (.vacant _ _ true) => .error .isDirectory
      | .ok (.vacant way name false) => .ok (put (Node.placeOf way ++ [name]))
      | .ok _ => .error .notFound
      | .error e => .error e

/-- A file system with a node at a place, made for it. -/
def put (d : Disk) (path : String) (node : Node) : Disk :=
  { d with root := Node.put node (Path.place d.cwd path) d.root }

/-! ## Comparing -/

/-- The files of a file system with their places. -/
def files (d : Disk) : List (List String × List UInt8) :=
  d.root.files []

/-- The bytes of the file at a place. -/
def fileAt? (d : Disk) (place : List String) : Option (List UInt8) :=
  match Node.at? place d.root with
  | some (.file bytes) => some bytes
  | _ => none

/-- The files that are new or have other bytes than before. -/
def changes (before after : Disk) : List (List String × List UInt8) :=
  after.files.filter fun (place, bytes) => before.fileAt? place != some bytes

end Disk

end Cyclomatic
