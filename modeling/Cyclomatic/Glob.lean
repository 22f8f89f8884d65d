/-!
# Globs

Patterns for paths: a star stands for any text, a question mark for any character, and brackets for
one character out of a set. Slashes are characters like any other.
-/

namespace Cyclomatic

/-- A member of a bracketed set: the characters between two bounds, both included. -/
structure CharSpan where
  first : Char
  last : Char
deriving DecidableEq, Repr

/-- Whether a span holds a character. -/
def CharSpan.contains (s : CharSpan) (c : Char) : Bool :=
  decide (s.first ≤ c) && decide (c ≤ s.last)

/-- A part of a glob. -/
inductive GlobItem where
  /-- Any text. -/
  | star
  /-- Any character. -/
  | anyChar
  | char (c : Char)
  /-- A character of one of some spans, or of none of them. -/
  | oneOf (negated : Bool) (spans : List CharSpan)
deriving DecidableEq, Repr

/-- A pattern for texts. -/
abbrev Glob := List GlobItem

namespace Glob

/-! ## Bracketed sets -/

/-- Divides a text at the hyphens that make spans: not at a hyphen within the first `least`
characters, nor at one of the two characters after such a hyphen, nor at the end. -/
def chunks (least : Nat) (body : List Char) : List (List Char) :=
  match h : (body.drop least).dropWhile (· != '-') with
  | [] | [_] => [body]
  | _ :: c :: rest => body.take (body.length - rest.length - 2) :: chunks 2 (c :: rest)
termination_by body.length
decreasing_by
  have := (List.dropWhile_suffix (l := body.drop least) (· != '-')).length_le
  simp_all
  omega

/-- Joins a chunk to the chunks after it, leaving out the two ends of a span that goes backwards. -/
def joinChunk (chunk : List Char) : List (List Char) → List (List Char)
  | [] => [chunk]
  | next :: rest =>
    match chunk.getLast?, next with
    | some low, high :: tail => if high < low then (chunk.dropLast ++ tail) :: rest else
        chunk :: next :: rest
    | _, _ => chunk :: next :: rest

/-- A character of a set, or the hyphen between the ends of a span (`none`). -/
abbrev SetMark := Option Char

/-- The marks of some chunks. -/
def marks (parts : List (List Char)) : List SetMark :=
  List.intercalate [none] (parts.map (·.map some))

/-- The spans that some marks describe. A hyphen without a lower end is a character. -/
def spans : List SetMark → List CharSpan
  | [] => []
  | low :: none :: some high :: rest => ⟨low.getD '-', high⟩ :: spans rest
  | c :: rest => ⟨c.getD '-', c.getD '-'⟩ :: spans rest

/-- The set that the text between brackets describes; `none` if no character can match. -/
def bracketSet (body : List Char) : Option GlobItem :=
  let least := if body.head? = some '!' then 2 else 1
  let parts := (chunks least body).foldr joinChunk []
  match marks parts with
  | [] => none
  | [some '!'] => some .anyChar
  | some '!' :: rest => some (.oneOf true (spans rest))
  | all => some (.oneOf false (spans all))

/-- Takes a bracketed set apart from what follows: its text, and the rest after the closing bracket.
A closing bracket right at the front, or after an exclamation mark there, belongs to the set. -/
def bracketed? (cs : List Char) : Option (List Char × List Char) :=
  let lead := match cs with
    | '!' :: ']' :: _ => 2
    | '!' :: _ => 1
    | ']' :: _ => 1
    | _ => 0
  match (cs.drop lead).dropWhile (· != ']') with
  | [] => none
  | _ :: rest => some (cs.take (cs.length - rest.length - 1), rest)

/-! ## Patterns -/

theorem bracketed?_length {cs body rest : List Char} (h : bracketed? cs = some (body, rest)) :
    rest.length < cs.length := by
  simp only [bracketed?] at h
  generalize (match cs with
    | '!' :: ']' :: _ => 2
    | '!' :: _ => 1
    | ']' :: _ => 1
    | _ => 0) = lead at h
  have := (List.dropWhile_suffix (l := cs.drop lead) (· != ']')).length_le
  split at h
  · simp at h
  · simp_all
    omega

/-- Reads a glob; `none` if nothing can match it. -/
def read? : List Char → Option Glob
  | [] => some []
  | '*' :: cs => (read? cs).map (GlobItem.star :: ·)
  | '?' :: cs => (read? cs).map (GlobItem.anyChar :: ·)
  | '[' :: cs =>
    match _h : bracketed? cs with
    | none => (read? cs).map (GlobItem.char '[' :: ·)
    | some (body, rest) =>
      match bracketSet body with
      | none => none
      | some item => (read? rest).map (item :: ·)
  | c :: cs => (read? cs).map (GlobItem.char c :: ·)
termination_by cs => cs.length
decreasing_by
  all_goals simp_all
  have := bracketed?_length _h
  omega

/-- The glob of a text; `none` if nothing can match it. -/
def ofString? (pattern : String) : Option Glob :=
  read? pattern.toList

/-! ## Matching -/

/-- Whether a character matches a part other than a star. -/
def accepts : GlobItem → Char → Bool
  | .star, _ => true
  | .anyChar, _ => true
  | .char c, d => c == d
  | .oneOf negated spans, c => spans.any (·.contains c) != negated

/-- Whether a text matches a glob as a whole. -/
def fits : Glob → List Char → Bool
  | [], cs => cs.isEmpty
  | .star :: items, [] => fits items []
  | .star :: items, c :: cs => fits items (c :: cs) || fits (.star :: items) cs
  | _ :: _, [] => false
  | item :: items, c :: cs => accepts item c && fits items cs
termination_by items cs => items.length + cs.length

end Glob

/-- Whether a text matches a pattern as a whole. -/
def globMatches (pattern text : String) : Bool :=
  match Glob.ofString? pattern with
  | some glob => glob.fits text.toList
  | none => false

end Cyclomatic
