import Mathlib
import Cyclomatic.Proofs.Recognizer.GoSignature
import Cyclomatic.Proofs.Recognizer.Script

/-!
# Brackets that a pass counts

The two grammars with braces count brackets as they go: braces, and in TypeScript and JavaScript also the
groups of round and square brackets. A closing bracket where none is open is passed over. Round and square
brackets close each other.

Not every bracket is counted. A signature hides those in its parameters or types (`Go.hides`,
`Script.hides`). A code token that is not hidden does to the count what its text says, and one that is
hidden leaves the count alone (`Go.readCode_depth`, `Script.readToken_openings`).
-/

namespace Cyclomatic

/-! ## Counting brackets -/

/-- The number of open braces after a token. -/
def bracesAfter (depth : Nat) (text : String) : Nat :=
  if text = "\x7b" then depth + 1 else if text = "\x7d" then depth - 1 else depth

/-- The number of open groups after a token. -/
def groupsAfter (depth : Nat) (text : String) : Nat :=
  if text = "(" ∨ text = "[" then depth + 1
  else if text = ")" ∨ text = "]" then depth - 1
  else depth

/-- The numbers of open braces and of open groups. -/
structure Openings where
  braces : Nat := 0
  groups : Nat := 0
deriving DecidableEq, Repr

/-- What is open after a token. -/
def Openings.after (o : Openings) (text : String) : Openings :=
  ⟨bracesAfter o.braces text, groupsAfter o.groups text⟩

/-- The error that open brackets are at the end of the input. -/
def Openings.error? (o : Openings) : Option ScopeError :=
  if o.groups = 0 then
    if o.braces = 0 then none else some (.unclosedBraces o.braces)
  else some (.unclosedBrackets o.groups)

/-- Whether a token is a bracket of any kind. -/
def isBracket (text : String) : Bool :=
  isOpening text || isClosing text

/-- Whether a token is a round or a square bracket. -/
def isGroupBracket (text : String) : Bool :=
  ["(", "[", ")", "]"].contains text

/-- Only if nothing is open, there is no error. -/
theorem Openings.eq_of_error?_eq_none {o : Openings} (h : o.error? = none) : o = {} := by
  obtain ⟨braces, groups⟩ := o
  unfold Openings.error? at h
  dsimp only at h
  split at h
  · rename_i hgroups
    split at h
    · rename_i hbraces
      rw [hgroups, hbraces]
    · cases h
  · cases h

/-- Only braces change the number of open braces. -/
theorem bracesAfter_of_ne {text : String} (hopen : text ≠ "\x7b") (hclose : text ≠ "\x7d")
    (depth : Nat) : bracesAfter depth text = depth := by
  rw [bracesAfter, if_neg hopen, if_neg hclose]

/-- A bracket of a group leaves the braces alone. -/
theorem bracesAfter_of_isGroupBracket {text : String} (h : isGroupBracket text = true) (depth : Nat) :
    bracesAfter depth text = depth := by
  refine bracesAfter_of_ne ?_ ?_ depth
  · rintro rfl
    exact absurd h (by decide)
  · rintro rfl
    exact absurd h (by decide)

/-- Only brackets of groups change the number of open groups. -/
theorem groupsAfter_of_not_isGroupBracket {text : String} (h : isGroupBracket text = false)
    (depth : Nat) : groupsAfter depth text = depth := by
  simp only [isGroupBracket, List.contains_cons, List.contains_nil, Bool.or_false, Bool.or_eq_false_iff,
    beq_eq_false_iff_ne] at h
  obtain ⟨hround, hsquare, hround', hsquare'⟩ := h
  rw [groupsAfter, if_neg (not_or.2 ⟨hround, hsquare⟩), if_neg (not_or.2 ⟨hround', hsquare'⟩)]

/-- A text that is no bracket changes nothing. -/
theorem Openings.after_of_not_isBracket (o : Openings) {text : String} (h : isBracket text = false) :
    o.after text = o := by
  simp only [isBracket, isOpening, isClosing, Bool.or_eq_false_iff, beq_eq_false_iff_ne] at h
  obtain ⟨⟨⟨hround, hsquare⟩, hbrace⟩, ⟨hround', hsquare'⟩, hbrace'⟩ := h
  simp [after, bracesAfter, groupsAfter, hround, hsquare, hbrace, hround', hsquare', hbrace']

/-- A closing brace closes one, if one is open. -/
theorem Braces.closeBrace_depth (b : Braces) : b.closeBrace.depth = b.depth - 1 := by
  have hblock (b : Braces) : b.closeBlock.depth = b.depth := by
    unfold closeBlock
    split
    · split <;> rfl
    · rfl
  unfold closeBrace
  split
  · rename_i h
    rw [h]
  · rename_i depth h
    rw [hblock, closeWhile_depth, h]
    rfl

namespace Recognizer

/-! ## Go -/

namespace Go

/-- Whether brackets or the braces of a type are open among the results. -/
def inResultBrackets (g : GoSignature) : Bool :=
  decide (0 < g.typeBraceDepth) || decide (0 < g.bracketDepth)

/-- Whether a signature hides a token. Parameter lists and type parameters are hidden altogether, and so is
what stands in brackets or in the braces of a type among the results. -/
def hides (s : Go) (text : String) : Bool :=
  match s.phase with
  | .typeParameters | .firstGroup | .parameters => true
  | .results => inResultBrackets s.signature || (s.signature.typeLiteral && text == "\x7b")
  | .afterFirstGroup | .afterCandidate => text != "\x7b" && inResultBrackets s.signature
  | _ => false

variable (s : Go) (text : String)

/-- Outside signatures every brace is counted. -/
theorem outside_depth : (s.outside text).braces.depth = bracesAfter s.braces.depth text := by
  unfold outside bracesAfter
  split
  · rename_i h
    subst h
    rfl
  · split
    · rfl
    · split
      · exact s.braces.closeBrace_depth
      · rfl

/-- The token at which a signature is given up is counted as outside. -/
theorem abandon_depth : (s.abandon text).braces.depth = bracesAfter s.braces.depth text :=
  s.reset.outside_depth text

variable {text} in
/-- A token that is no brace leaves the braces alone, wherever it stands. -/
theorem results_depth_of_ne (hopen : text ≠ "\x7b") (hclose : text ≠ "\x7d") :
    (s.results text).braces.depth = s.braces.depth := by
  have habandon : (s.abandon text).braces.depth = s.braces.depth := by
    rw [abandon_depth, bracesAfter_of_ne hopen hclose]
  unfold results
  dsimp only
  rw [if_neg hopen, if_neg hclose, if_neg hopen]
  split
  · rfl
  · split
    · rfl
    · split
      · rfl
      · split
        · rfl
        · split
          · exact habandon
          · rfl

/-- Among the results a brace is hidden inside brackets, and where it begins a type. -/
theorem results_depth_opening : (s.results "\x7b").braces.depth =
    if inResultBrackets s.signature || s.signature.typeLiteral then s.braces.depth
      else s.braces.depth + 1 := by
  have hliteral : isTypeLiteral "\x7b" = false := by decide
  unfold results inResultBrackets
  by_cases htypes : 0 < s.signature.typeBraceDepth
  · simp [htypes]
  · by_cases hbrackets : s.signature.bracketDepth = 0
    · cases hl : s.signature.typeLiteral <;>
        simp [htypes, hbrackets, hl, hliteral, openBody, Braces.openBody]
    · cases hl : s.signature.typeLiteral <;>
        simp [htypes, hbrackets, hl, hliteral, Nat.pos_of_ne_zero hbrackets]

/-- Among the results a closing brace is hidden inside brackets. -/
theorem results_depth_closing : (s.results "\x7d").braces.depth =
    if inResultBrackets s.signature then s.braces.depth else s.braces.depth - 1 := by
  have hliteral : isTypeLiteral "\x7d" = false := by decide
  have hterminator : isTerminator "\x7d" = true := by decide
  have habandon : (s.abandon "\x7d").braces.depth = s.braces.depth - 1 := s.abandon_depth "\x7d"
  unfold results inResultBrackets
  by_cases htypes : 0 < s.signature.typeBraceDepth
  · simp [htypes]
  · by_cases hbrackets : s.signature.bracketDepth = 0
    · simpa [htypes, hbrackets, hliteral, hterminator] using habandon
    · simp [htypes, hbrackets, hliteral, Nat.pos_of_ne_zero hbrackets]

/-- In parameter lists no brace is counted. -/
theorem feedParameters_depth (next : GoPhase) :
    (s.feedParameters text next).braces.depth = s.braces.depth := by
  rw [(feedParameters_cases s text next).1]

/-- In type parameters no brace is counted. -/
theorem typeParameters_depth : (s.typeParameters text).braces.depth = s.braces.depth := by
  unfold typeParameters
  split
  · rfl
  · split <;> rfl

variable {text} in
/-- A token that is no brace leaves the braces alone. -/
theorem readCode_depth_of_ne (hopen : text ≠ "\x7b") (hclose : text ≠ "\x7d") :
    (s.readCode text).braces.depth = s.braces.depth := by
  have houtside (s : Go) : (s.outside text).braces.depth = s.braces.depth := by
    rw [outside_depth, bracesAfter_of_ne hopen hclose]
  unfold readCode
  split
  · exact houtside s
  · unfold afterFunc
    rw [if_neg hopen]
    split
    · rfl
    · split
      · rfl
      · exact houtside s.reset
  · unfold afterName
    split
    · rfl
    · split
      · rfl
      · exact houtside s.reset
  · exact s.typeParameters_depth text
  · exact s.feedParameters_depth text _
  · unfold afterFirstGroup
    rw [if_neg hopen]
    split
    · rfl
    · exact results_depth_of_ne _ hopen hclose
  · unfold afterCandidate
    rw [if_neg hopen]
    split
    · rfl
    · exact results_depth_of_ne _ hopen hclose
  · exact s.feedParameters_depth text _
  · exact s.results_depth_of_ne hopen hclose

/-- An opening brace is counted unless it is hidden. -/
theorem readCode_depth_opening : (s.readCode "\x7b").braces.depth =
    if s.hides "\x7b" then s.braces.depth else s.braces.depth + 1 := by
  have hname : isName "\x7b" = false := by decide
  have hresults := s.results_depth_opening
  unfold readCode hides
  cases s.phase with
  | outside => rfl
  | afterFunc => simp [afterFunc, hname, openBody, Braces.openBody]
  | afterName => rfl
  | typeParameters => exact s.typeParameters_depth _
  | firstGroup => exact s.feedParameters_depth _ _
  | afterFirstGroup => rfl
  | afterCandidate => rfl
  | parameters => exact s.feedParameters_depth _ _
  | results => simpa using hresults

/-- A closing brace is counted unless it is hidden. -/
theorem readCode_depth_closing : (s.readCode "\x7d").braces.depth =
    if s.hides "\x7d" then s.braces.depth else s.braces.depth - 1 := by
  have hname : isName "\x7d" = false := by decide
  have habandon : (s.abandon "\x7d").braces.depth = s.braces.depth - 1 := s.abandon_depth "\x7d"
  have hresults := s.results_depth_closing
  have hbegin : (s.beginResults "\x7d").braces.depth =
      if inResultBrackets s.signature then s.braces.depth else s.braces.depth - 1 :=
    { s with phase := .results }.results_depth_closing
  unfold readCode hides
  cases s.phase with
  | outside => exact s.outside_depth _
  | afterFunc => simpa [afterFunc, hname] using habandon
  | afterName => simpa [afterName] using habandon
  | typeParameters => exact s.typeParameters_depth _
  | firstGroup => exact s.feedParameters_depth _ _
  | afterFirstGroup => simpa [afterFirstGroup, hname] using hbegin
  | afterCandidate => simpa [afterCandidate] using hbegin
  | parameters => exact s.feedParameters_depth _ _
  | results => simpa using hresults

/-- The braces that are not hidden are counted. -/
theorem readCode_depth : (s.readCode text).braces.depth =
    if s.hides text then s.braces.depth else bracesAfter s.braces.depth text := by
  by_cases hopen : text = "\x7b"
  · subst hopen
    exact s.readCode_depth_opening
  · by_cases hclose : text = "\x7d"
    · subst hclose
      exact s.readCode_depth_closing
    · rw [s.readCode_depth_of_ne hopen hclose, bracesAfter_of_ne hopen hclose, ite_self]

/-- A pass over Go counts the braces of code that are not hidden. -/
theorem read_depth (table : DecisionTable) (t : Token) : (s.read table t).braces.depth =
    if t.isCode && !s.hides t.text then bracesAfter s.braces.depth t.text else s.braces.depth := by
  unfold read
  split
  · rename_i hnewline
    rw [readNewline_braces, Token.isCode_of_isNewline hnewline]
    rfl
  · cases hcode : t.isCode with
    | false => rfl
    | true =>
      have hread := s.readCode_depth t.text
      have hdecision : (if table.decides t.text then (s.readCode t.text).mapLedger (·.recordDecisions 1)
          else s.readCode t.text).braces.depth = (s.readCode t.text).braces.depth := by
        split <;> rfl
      rw [if_pos rfl, hdecision, hread]
      cases s.hides t.text <;> rfl

end Go

/-! ## TypeScript and JavaScript -/

namespace Script

/-- What is open in a state. -/
def openings (s : Script) : Openings :=
  ⟨s.braces.depth, s.groups.length⟩

/-- Whether a signature hides a token. Type parameters are hidden altogether, and so is what stands in the
brackets of a return type. -/
def hides (s : Script) (text : String) : Bool :=
  match s.phase with
  | .typeParameters _ _ _ => true
  | .returnType _ depth _ => decide (0 < depth) || text == "(" || text == "["
  | _ => false

variable (s : Script)

/-- A name is no bracket. -/
theorem isBracket_of_isName {text : String} (h : isName text = true) : isBracket text = false := by
  rw [← Bool.not_eq_true]
  intro hbracket
  simp only [isBracket, isOpening, isClosing, Bool.or_eq_true, beq_iff_eq] at hbracket
  rcases hbracket with ((rfl | rfl) | rfl) | (rfl | rfl) | rfl
  all_goals exact absurd h (by decide)

theorem openings_ite {c : Prop} [Decidable c] {x y : Script} {o : Openings} (hx : x.openings = o)
    (hy : y.openings = o) : (if c then x else y).openings = o := by
  split
  · exact hx
  · exact hy

/-! ### What leaves the count alone -/

@[simp] theorem forgetName_openings : s.forgetName.openings = s.openings := rfl

@[simp] theorem takeName_openings : s.takeName.openings = s.openings := by
  unfold takeName
  split
  · split <;> rfl
  · rfl

@[simp] theorem declare_openings (text : String) : (s.declare text).openings = s.openings := by
  unfold declare
  split
  · split <;> rfl
  · rfl

@[simp] theorem beginEntry_openings : s.beginEntry.openings = s.openings := by
  unfold beginEntry
  split
  · rfl
  · rename_i g gs hg
    simp [openings, hg]

@[simp] theorem record_openings (count : Nat) : (s.record count).openings = s.openings := by
  unfold record
  split
  · rename_i g gs hg
    split
    · simp [openings, hg]
    · rfl
  · rfl

@[simp] theorem release_openings (g : Group) : (s.release g).openings = s.openings :=
  s.record_openings g.decisions

@[simp] theorem closeExpressions_openings (brackets : Nat) :
    (s.closeExpressions brackets).openings = s.openings := by
  rw [openings, openings, closeExpressions, Braces.closeExpressions, Braces.closeWhile_depth]

@[simp] theorem readColon_openings (closed : Option Group) :
    (s.readColon closed).openings = s.openings := by
  have hbegin := s.beginEntry_openings
  have hname {x : Script} (hx : x.openings = s.openings) : x.takeName.openings = s.openings :=
    x.takeName_openings.trans hx
  unfold readColon
  cases closed with
  | none => exact openings_ite hbegin (openings_ite hbegin (hname hbegin))
  | some g =>
    -- whether or not the group is released, nothing opens or closes
    have hrelease := openings_ite (c := (s.beginEntry.inCase || decide (0 < s.beginEntry.ternaries) ||
      g.isControl) = true) ((s.beginEntry.release_openings g).trans hbegin) hbegin
    exact openings_ite hrelease (openings_ite hrelease (openings_ite (hname hrelease) hrelease))

@[simp] theorem readComma_openings : s.readComma.openings = s.openings := by
  have hclose (gs : List Group) (h : gs.length = s.groups.length) :
      ({ s with groups := gs }.closeExpressions gs.length).openings = s.openings := by
    rw [closeExpressions_openings, openings, openings, h]
  unfold readComma
  cases hg : s.groups with
  | nil => exact openings_ite (hclose [] (by rw [hg])) (hclose [] (by rw [hg]))
  | cons g gs =>
    have hentry := hclose (if g.braceDepth = s.braces.depth then g.endEntry :: gs else g :: gs)
      (by rw [hg]; split <;> rfl)
    exact openings_ite hentry hentry

@[simp] theorem readSemicolon_openings : s.readSemicolon.openings = s.openings :=
  s.closeExpressions_openings s.groups.length

@[simp] theorem settleQuestion_openings (t : Token) :
    (s.settleQuestion t).openings = s.openings := by
  unfold settleQuestion
  refine openings_ite (openings_ite rfl ?_) rfl
  exact record_openings { s with question := false } 1

@[simp] theorem endLine_openings : s.endLine.openings = s.openings := by
  unfold endLine
  exact openings_ite (closeExpressions_openings { s with nameLocked := false } 0) rfl

/-- A line break opens and closes nothing. -/
theorem readNewline_openings (implicit : Bool) : (s.readNewline implicit).openings = s.openings := by
  unfold readNewline
  refine openings_ite rfl ?_
  split
  · rfl
  · rename_i g tokens _
    rw [endLine_openings, release_openings]
    rfl
  · exact s.endLine_openings

theorem countDecision_openings (text : String) : (s.countDecision text).openings = s.openings := by
  unfold countDecision
  exact openings_ite rfl (s.record_openings 1)

@[simp] theorem releaseClosed_openings : s.releaseClosed.openings = s.openings := by
  unfold releaseClosed
  split
  · rename_i g _
    exact s.release_openings g
  · rfl

@[simp] theorem releaseReturnType_openings : s.releaseReturnType.openings = s.openings := by
  unfold releaseReturnType
  split
  · rename_i g depth tokens _
    exact s.release_openings g
  · rfl

/-! ### Brackets -/

/-- A group that opens is one more. -/
theorem pushGroup_openings (g : Group) :
    (s.pushGroup g).openings = ⟨s.braces.depth, s.groups.length + 1⟩ := by
  have hbegin : s.beginEntry.groups.length = s.groups.length :=
    congrArg Openings.groups s.beginEntry_openings
  simp [pushGroup, openings, hbegin]

theorem openParameters_openings (name : String) (functionLine : Int) :
    (s.openParameters name functionLine).openings = s.openings.after "(" :=
  pushGroup_openings _ _

/-- A parenthesis opens one group. -/
theorem openParenthesis_openings : s.openParenthesis.openings = s.openings.after "(" := by
  unfold openParenthesis
  dsimp only
  split
  · exact openings_ite (pushGroup_openings _ _) (pushGroup_openings _ _)
  · exact pushGroup_openings _ _

theorem openSquare_openings : s.openSquare.openings = s.openings.after "[" :=
  pushGroup_openings _ _

/-- A round or square bracket that closes is counted, whichever of the two it is. -/
theorem closeGroup_openings {text : String} (h : text = ")" ∨ text = "]") :
    (s.closeGroup text).openings = s.openings.after text := by
  have hafter : s.openings.after text = ⟨s.braces.depth, s.groups.length - 1⟩ := by
    rcases h with rfl | rfl <;> rfl
  rw [hafter]
  unfold closeGroup
  split
  · rename_i hg
    rw [openings, hg]
    rfl
  · rename_i g gs hg
    have hclose : ({ s with groups := gs }.closeExpressions (gs.length + 1)).openings =
        ⟨s.braces.depth, s.groups.length - 1⟩ := by
      rw [closeExpressions_openings, openings, hg]
      rfl
    exact openings_ite hclose ((release_openings _ _).trans hclose)

/-- A brace is counted, whether it opens a body or a block. -/
theorem openBrace_openings (closed : Option Group) :
    (s.openBrace closed).openings = s.openings.after "\x7b" := by
  have hblock {x : Script} (hx : x.openings = s.openings) :
      { x with braces := x.braces.openBlock }.forgetName.openings = s.openings.after "\x7b" := by
    rw [← hx]
    rfl
  have hbegin := s.beginEntry_openings
  unfold openBrace
  dsimp only
  split
  · rename_i g
    refine openings_ite ?_ (hblock ((release_openings _ g).trans hbegin))
    rw [← hbegin]
    rfl
  · exact hblock hbegin

/-- A closing brace is counted. -/
theorem closeBrace_openings :
    { s with braces := s.braces.closeBrace }.forgetName.openings = s.openings.after "\x7d" := by
  show (⟨s.braces.closeBrace.depth, s.groups.length⟩ : Openings) = _
  rw [s.braces.closeBrace_depth]
  rfl

/-! ### Reading -/

variable (t : Token)

/-- A bracket in ordinary code is counted. -/
theorem readStatement_bracket (closed : Option Group) (hcode : t.isCode = true)
    (h : isBracket t.text = true) :
    (s.readStatement closed t).openings = s.openings.after t.text := by
  simp only [isBracket, isOpening, isClosing, Bool.or_eq_true, beq_iff_eq] at h
  rcases h with ((h | h) | h) | (h | h) | h
  · have hread : s.readStatement closed t = (s.declare "(").openParenthesis := by
      simp only [readStatement, hcode, h]
      rfl
    rw [hread, openParenthesis_openings, declare_openings, h]
  · have hread : s.readStatement closed t = (s.declare "[").openSquare := by
      simp only [readStatement, hcode, h]
      rfl
    rw [hread, openSquare_openings, declare_openings, h]
  · rw [(readStatement_signature s closed hcode).1 h, openBrace_openings, declare_openings, h]
  · have hread : s.readStatement closed t = (s.declare ")").closeGroup ")" := by
      simp only [readStatement, hcode, h]
      rfl
    rw [hread, closeGroup_openings _ (.inl rfl), declare_openings, h]
  · have hread : s.readStatement closed t = (s.declare "]").closeGroup "]" := by
      simp only [readStatement, hcode, h]
      rfl
    rw [hread, closeGroup_openings _ (.inr rfl), declare_openings, h]
  · have hread : s.readStatement closed t =
        { s.declare "\x7d" with braces := (s.declare "\x7d").braces.closeBrace }.forgetName := by
      simp only [readStatement, hcode, h]
      rfl
    rw [hread, closeBrace_openings, declare_openings, h]

/-- Any other token in ordinary code opens and closes nothing. -/
theorem readStatement_other (closed : Option Group) (h : isBracket t.text = false) :
    (s.readStatement closed t).openings = s.openings := by
  have hdeclare := s.declare_openings t.text
  have hbegin := (s.declare t.text).beginEntry_openings.trans hdeclare
  simp only [isBracket, isOpening, isClosing, Bool.or_eq_false_iff, beq_eq_false_iff_ne] at h
  obtain ⟨⟨⟨hround, hsquare⟩, hbrace⟩, ⟨hround', hsquare'⟩, hbrace'⟩ := h
  unfold readStatement
  dsimp only
  rw [if_neg hround, if_neg hsquare, if_neg (not_or.2 ⟨hround', hsquare'⟩), if_neg hbrace,
    if_neg hbrace']
  refine openings_ite s.beginEntry_openings (openings_ite rfl ?_)
  refine openings_ite hbegin (openings_ite hdeclare ?_)
  refine openings_ite ((readColon_openings _ _).trans hdeclare) ?_
  refine openings_ite ((takeName_openings _).trans hbegin) ?_
  refine openings_ite ((readComma_openings _).trans hdeclare) ?_
  refine openings_ite ((readSemicolon_openings _).trans hdeclare) ?_
  exact openings_ite hbegin hbegin

/-- Every bracket in ordinary code is counted. -/
theorem readStatement_openings (closed : Option Group) :
    (s.readStatement closed t).openings = if t.isCode then s.openings.after t.text else s.openings := by
  cases hcode : t.isCode with
  | false =>
    have hread : s.readStatement closed t = { s.beginEntry with declaring := false } := by
      simp [readStatement, hcode]
    rw [hread]
    exact s.beginEntry_openings
  | true =>
    rw [if_pos rfl]
    cases hbracket : isBracket t.text with
    | true => exact s.readStatement_bracket t closed hcode hbracket
    | false =>
      rw [s.readStatement_other t closed hbracket, Openings.after_of_not_isBracket _ hbracket]

/-- Every bracket after the keyword `function` is counted. -/
theorem readFunctionHead_openings (name : String) (functionLine : Int) :
    (s.readFunctionHead name functionLine t).openings =
      if t.isCode then s.openings.after t.text else s.openings := by
  have hordinary : ({ s with phase := .statement }.readStatement none t).openings =
      if t.isCode then s.openings.after t.text else s.openings :=
    readStatement_openings { s with phase := .statement } t none
  unfold readFunctionHead
  cases hcode : t.isCode with
  | false =>
    rw [hcode] at hordinary
    exact hordinary
  | true =>
    rw [hcode] at hordinary
    have hother (h : isBracket t.text = false) : s.openings = s.openings.after t.text :=
      (s.openings.after_of_not_isBracket h).symm
    split
    · contradiction
    · split
      · rename_i h
        exact hother (by rw [h]; decide)
      · split
        · rename_i h
          exact hother (by rw [h]; decide)
        · split
          · rename_i h
            exact hother (isBracket_of_isName (Bool.and_eq_true_iff.1 h).1)
          · split
            · rename_i h
              rw [h]
              exact openParameters_openings _ _ _
            · exact hordinary

/-- Nothing in type parameters is counted. -/
theorem readTypeParameters_openings (name : String) (functionLine : Int) (depth : Nat)
    (text : String) :
    (s.readTypeParameters name functionLine depth text).openings = s.openings := by
  unfold readTypeParameters
  exact openings_ite rfl (openings_ite (openings_ite rfl rfl) rfl)

/-- A bracket of a return type is counted if it ends the type. -/
theorem readReturnType_openings (g : Group) (depth tokens : Nat)
    (hphase : s.phase = .returnType g depth tokens) :
    (s.readReturnType g depth tokens t).openings =
      if t.isCode && !s.hides t.text then s.openings.after t.text else s.openings := by
  have hended (closed : Option Group) :
      ({ s with phase := .statement }.readStatement closed t).openings =
        if t.isCode then s.openings.after t.text else s.openings :=
    readStatement_openings { s with phase := .statement } t closed
  have hreleased : (({ s with phase := .statement }.release g).readStatement none t).openings =
      if t.isCode then s.openings.after t.text else s.openings := by
    rw [readStatement_openings, release_openings]
    rfl
  rw [hides, hphase]
  dsimp only
  unfold readReturnType
  cases hcode : t.isCode with
  | false => simp [openings]
  | true =>
    rw [hcode, if_pos rfl] at hreleased
    simp only [hcode, if_true] at hended
    cases hbracket : isBracket t.text with
    | false =>
      have hother := s.openings.after_of_not_isBracket hbracket
      rw [hother, ite_self]
      refine openings_ite ((hended _).trans hother) (openings_ite rfl ?_)
      exact openings_ite (hreleased.trans hother) (openings_ite rfl (openings_ite rfl rfl))
    | true =>
      cases depth with
      | succ depth =>
        simp only [Nat.add_one_ne_zero, false_and, if_false, Nat.zero_lt_succ, decide_true, Bool.true_or,
          Bool.not_true, Bool.and_false, Bool.false_eq_true]
        exact openings_ite rfl (openings_ite rfl rfl)
      | zero =>
        simp only [isBracket, isOpening, isClosing, Bool.or_eq_true, beq_iff_eq] at hbracket
        rcases hbracket with ((h | h) | h) | (h | h) | h
        all_goals simp only [h, endsType] at hended hreleased ⊢
        · rfl
        · rfl
        · exact hended (some g)
        all_goals exact hreleased

/-- Every bracket after an arrow is counted. -/
theorem readArrowBody_openings (f : Signature) :
    (s.readArrowBody f t).openings = if t.isCode then s.openings.after t.text else s.openings := by
  have hbegin := beginEntry_openings { s with phase := .statement }
  unfold readArrowBody
  dsimp only
  split
  · rename_i h
    rw [if_pos h.1, h.2]
    exact congrArg (·.after "\x7b") hbegin
  · exact readStatement_openings _ t none

/-- The brackets that the phase does not hide are counted. -/
theorem readPhase_openings (closed : Option Group) :
    (s.readPhase closed t).openings =
      if t.isCode && !s.hides t.text then s.openings.after t.text else s.openings := by
  have hcounted {x : Script} (hhides : s.hides t.text = false)
      (h : x.openings = if t.isCode then s.openings.after t.text else s.openings) :
      x.openings = if t.isCode && !s.hides t.text then s.openings.after t.text else s.openings := by
    rw [hhides, Bool.not_false, Bool.and_true]
    exact h
  unfold readPhase
  cases hphase : s.phase with
  | statement => exact hcounted (by rw [hides, hphase]) (s.readStatement_openings t closed)
  | functionHead name functionLine =>
    exact hcounted (by rw [hides, hphase]) (s.readFunctionHead_openings t name functionLine)
  | typeParameters name functionLine depth =>
    have hhides : s.hides t.text = true := by rw [hides, hphase]
    rw [hhides, Bool.not_true, Bool.and_false]
    exact s.readTypeParameters_openings name functionLine depth t.text
  | returnType g depth tokens => exact s.readReturnType_openings t g depth tokens hphase
  | arrowBody f => exact hcounted (by rw [hides, hphase]) (s.readArrowBody_openings t f)

/-- What is hidden depends on the phase only. -/
theorem hides_congr {s s' : Script} (h : s'.phase = s.phase) (text : String) :
    s'.hides text = s.hides text := by
  rw [hides, h, hides]

/-- The brackets that are not hidden are counted. -/
theorem readToken_openings :
    (s.readToken t).openings =
      if t.isCode && !s.hides t.text then s.openings.after t.text else s.openings := by
  have hread {x : Script} (hphase : x.phase = s.phase) (hopen : x.openings = s.openings)
      (closed : Option Group) : (x.readPhase closed t).openings =
        if t.isCode && !s.hides t.text then s.openings.after t.text else s.openings := by
    rw [readPhase_openings, hides_congr hphase, hopen]
  have hopen := s.settleQuestion_openings t
  have hphase : (s.settleQuestion t).phase = s.phase := (settleQuestion_frame s t).1
  unfold readToken
  dsimp only
  generalize s.settleQuestion t = q at hopen hphase
  split
  · exact hread hphase hopen none
  · rename_i g _
    refine openings_ite (hread (x := { q with closedGroup := none }) hphase hopen _) (hread ?_ ?_ _)
    · exact (release_keeps _ g).phase_eq.trans hphase
    · exact (release_openings _ g).trans hopen

/-- A pass over TypeScript or JavaScript counts the brackets of code that are not hidden. -/
theorem read_openings (table : DecisionTable) : (s.read table t).openings =
    if t.isCode && !s.hides t.text then s.openings.after t.text else s.openings := by
  unfold read
  split
  · rename_i hnewline
    rw [readNewline_openings, Token.isCode_of_isNewline hnewline]
    rfl
  · rw [← readToken_openings]
    exact openings_ite (countDecision_openings _ _) rfl

/-- The end of the input looks at what is open. -/
theorem finish_error : s.finish.2 = s.openings.error? := by
  have hopen : (s.releaseClosed.releaseReturnType.closeExpressions 0).openings = s.openings := by
    rw [closeExpressions_openings, releaseReturnType_openings, releaseClosed_openings]
  rw [← hopen, finish]
  generalize s.releaseClosed.releaseReturnType.closeExpressions 0 = q
  unfold Openings.error? openings Braces.openAtEnd?
  cases q.groups with
  | nil => rfl
  | cons g gs => rfl

end Script

end Recognizer

end Cyclomatic
