import Cyclomatic.FileTree

/-!
# Contents of files

Whether the bytes of a file look like text, and the text that they are.
-/

namespace Cyclomatic.Content

/-- Whether a byte occurs in text: most control bytes do not. -/
def isTextByte (b : UInt8) : Bool :=
  (0x20 ≤ b && b != 0x7F) || [7, 8, 9, 10, 12, 13, 27].contains b

/-- How many bytes are looked at. -/
def sampleSize : Nat := 1024

/-- Whether bytes look binary: among the first of them is a zero, or more than three in ten do not
occur in text. -/
def looksBinary (bytes : List UInt8) : Bool :=
  let sample := bytes.take sampleSize
  sample.contains 0 || decide (3 * sample.length < 10 * sample.countP (!isTextByte ·))

/-- The source text of some bytes. -/
def sourceText (bytes : List UInt8) : String :=
  String.ofList (Text.unifyLineEnds (Text.decodeLenient bytes))

/-- The text of some bytes, all of which must be valid. -/
def strictText (bytes : List UInt8) : Except Text.Utf8Error String :=
  (Text.decodeStrict 0 bytes).map fun cs => String.ofList (Text.unifyLineEnds cs)

end Cyclomatic.Content
