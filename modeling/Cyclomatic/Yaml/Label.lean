import Cyclomatic.Text.Utf8
import Cyclomatic.Yaml.Block

/-!
# Anchors, tags and directives

The names that can be put before a node, and the lines before a document that say how to read it.
-/

namespace Cyclomatic.Yaml

/-! ## Names -/

/-- Takes a name, after which one of the given characters must stand. -/
def name (activity : Activity) (start : Mark) (mayFollow : Char → Bool) (c : Cursor) :
    Except Failure (String × Cursor) :=
  let found := c.run isNameChar
  let after := c.skip found.length
  if found.isEmpty || !mayFollow after.peek then
    complain (some activity) (some start) (.nameExpected after.peek) after.mark
  else .ok (String.ofList found, after)

/-- Whether a character may stand after an anchor. -/
def endsAnchor (c : Char) : Bool :=
  isGap c || "?:,]\x7d%@\x60".contains c

/-- The name of an anchor or of a reference to one; the cursor is at its mark. -/
def anchorName (c : Cursor) : Except Failure (String × Cursor) :=
  name (if c.peek = '*' then .reference else .anchor) c.mark endsAnchor c.next

/-! ## Tags -/

/-- A tag as it is written: a handle, if there is one, and what stands after it. -/
structure TagText where
  handle : Option String
  suffix : String
deriving DecidableEq, Repr

/-- Where a tag is written, which messages tell. -/
inductive TagPlace where
  | node
  | directive
deriving DecidableEq, Repr

/-- The activity that a message names while characters are read. -/
def TagPlace.scanning : TagPlace → Activity
  | node => .tag
  | directive => .directive

/-- The activity that a message names if there is nothing to be read. -/
def TagPlace.parsing : TagPlace → Activity
  | node => .tagName
  | directive => .directiveName

/-- Takes a handle: a name between exclamation marks, or one exclamation mark with a blank after
it. -/
def tagHandle (place : TagPlace) (start : Mark) (c : Cursor) : Except Failure (String × Cursor) :=
  let missing (c : Cursor) : Except Failure (String × Cursor) :=
    complain (some place.scanning) (some start) (.markExpected "!" c.peek) c.mark
  if c.peek ≠ '!' then missing c
  else if c.ahead 1 = ' ' then .ok ("!", c.next)
  else
    let found := c.next.run isNameChar
    let after := c.next.skip found.length
    if after.peek = '!' then .ok ("!" ++ String.ofList found ++ "!", after.next) else missing after

/-- Whether a character may stand in a tag. -/
def isTagChar (c : Char) : Bool :=
  c.isAlphanum || "-;/?:@&=+$,_.!~*'()[]%".contains c

/-- Takes the bytes that are written by their numbers. -/
def escapedBytes (place : TagPlace) (start : Mark) :
    Nat → List UInt8 → Cursor → Except Failure (List UInt8 × Cursor)
  | 0, done, c => .ok (done.reverse, c)
  | fuel + 1, done, c =>
    if c.peek ≠ '%' then .ok (done.reverse, c)
    else
      let c := c.next
      let ds := (c.rest.take 2).takeWhile isHexDigit
      if ds.length < 2 then
        complain (some place.scanning) (some start) (.uriEscapeExpected (c.ahead ds.length)) c.mark
      else
        let byte := UInt8.ofNat (Literal.digitsValue 16 (ds.filterMap (Literal.digit? 16)))
        escapedBytes place start fuel (byte :: done) (c.skip 2)

/-- Takes the characters of a tag. -/
def tagChars (place : TagPlace) (start : Mark) :
    Nat → String → Cursor → Except Failure (String × Cursor)
  | 0, done, c => .ok (done, c)
  | fuel + 1, done, c =>
    if c.peek = '%' then do
      let (bytes, after) ← escapedBytes place start fuel [] c
      match Text.decodeStrict 0 bytes with
      | .ok cs => tagChars place start fuel (done ++ String.ofList cs) after
      | .error e => complain (some place.scanning) (some start) (.undecodable e.message) c.mark
    else if isTagChar c.peek then tagChars place start fuel (done.push c.peek) c.next
    else .ok (done, c)

/-- Takes the part of a tag that must not be empty. -/
def tagSuffix (place : TagPlace) (start : Mark) (fuel : Nat) (c : Cursor) :
    Except Failure (String × Cursor) :=
  if isTagChar c.peek then tagChars place start fuel "" c
  else complain (some place.parsing) (some start) (.uriExpected c.peek) c.mark

/-- Whether an exclamation mark stands before the next blank. -/
def hasHandle (c : Cursor) : Bool :=
  (c.next.run (!isStop ·)).contains '!'

/-- Takes a tag; the cursor is at its exclamation mark. -/
def tagText (fuel : Nat) (c : Cursor) : Except Failure (TagText × Cursor) := do
  let start := c.mark
  let (tag, after) ←
    if c.ahead 1 = '<' then do
      let (suffix, c) ← tagSuffix .node start fuel (c.skip 2)
      if c.peek ≠ '>' then
        complain (some .tagName) (some start) (.markExpected ">" c.peek) c.mark
      else pure (TagText.mk none suffix, c.next)
    else if isGap (c.ahead 1) then pure (TagText.mk none "!", c.next)
    else do
      let (handle, c) ← if hasHandle c then tagHandle .node start c else pure ("!", c.next)
      let (suffix, c) ← tagSuffix .node start fuel c
      pure (TagText.mk (some handle) suffix, c)
  if isStop after.peek then return (tag, after)
  complain (some .tag) (some start) (.markExpected " " after.peek) after.mark

/-! ## Directives -/

/-- A line before a document. -/
inductive Directive where
  | version (major : Int)
  | handle (handle expansion : String)
  | other
deriving DecidableEq, Repr

/-- Takes a number. -/
def directiveNumber (start : Mark) (c : Cursor) : Except Failure (Int × Cursor) :=
  let digits := c.run Char.isDigit
  if digits.isEmpty then complain (some .directive) (some start) (.digitExpected c.peek) c.mark
  else
    match Literal.integer 10 (String.ofList digits) with
    | .ok n => .ok (n, c.skip digits.length)
    | .error e => .error (.integer e)

/-- Takes a version: two numbers with a point between them. -/
def versionValue (start : Mark) (c : Cursor) : Except Failure (Directive × Cursor) := do
  let (major, c) ← directiveNumber start c.skipBlanks
  if c.peek ≠ '.' then
    complain (some .directive) (some start) (.digitOrPointExpected c.peek) c.mark
  else
    let (_, c) ← directiveNumber start c.next
    if isStop c.peek then return (.version major, c)
    complain (some .directive) (some start) (.digitOrBlankExpected c.peek) c.mark

/-- Takes a handle and what it stands for. -/
def handleValue (start : Mark) (fuel : Nat) (c : Cursor) : Except Failure (Directive × Cursor) := do
  let (handle, c) ← tagHandle .directive start c.skipBlanks
  if c.peek ≠ ' ' then
    complain (some .directive) (some start) (.markExpected " " c.peek) c.mark
  else
    let (expansion, c) ← tagSuffix .directive start fuel c.skipBlanks
    if isStop c.peek then return (.handle handle expansion, c)
    complain (some .directive) (some start) (.markExpected " " c.peek) c.mark

/-- Takes a directive, with the place where it ends; the cursor is at its percent sign. -/
def directive (fuel : Nat) (c : Cursor) : Except Failure (Directive × Mark × Cursor) := do
  let start := c.mark
  let (word, c) ← name .directive start isStop c.next
  let (value, c) ←
    if word = "YAML" then versionValue start c
    else if word = "TAG" then handleValue start fuel c
    else pure (.other, c)
  let stop := c.mark
  let c := if value = .other then c.skipWhile (!endsLine ·) else c
  return (value, stop, ← ignoredLine .directive start c)

end Cyclomatic.Yaml
