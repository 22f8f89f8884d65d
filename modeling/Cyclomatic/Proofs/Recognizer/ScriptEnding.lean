import Mathlib
import Cyclomatic.Proofs.Ledger.Outline
import Cyclomatic.Proofs.Recognizer.Lowered
import Cyclomatic.Proofs.Recognizer.Script
import Cyclomatic.Proofs.Token

/-!
# Semicolons and line breaks

Outside all brackets and braces both a semicolon and a line break end the expressions that are open, but they
do not hand on the same decisions before. A semicolon hands on those of the parenthesis that the token before
it closed, and those of a signature with a return type, wherever the type has come to. A line break leaves the
former waiting, and the latter too unless a token of the type has been read (`Script.missed`). Behind an
arrow a semicolon begins one more function, and a line break does nothing (`ScriptPhase.begun`).

What the two leave in the ledger is compared by outlines (`Script.outlines_semicolon`,
`Script.outlines_lineBreak`). They differ after a closing parenthesis, a colon and an arrow only
(`Script.even_run`).
-/

namespace Cyclomatic.Recognizer

open FunctionOutline

/-! ## What waits -/

/-- The decisions of a signature whose return type has no token yet. -/
def ScriptPhase.missed : ScriptPhase → Nat
  | .returnType g 0 0 => g.decisions
  | _ => 0

/-- The decisions of a signature whose return type has begun and stands outside its brackets. -/
def ScriptPhase.owed : ScriptPhase → Nat
  | .returnType g 0 (_ + 1) => g.decisions
  | _ => 0

/-- The function of an arrow without a body. -/
def ScriptPhase.begun : ScriptPhase → List FunctionOutline
  | .arrowBody f => [f.outline]
  | _ => []

namespace Script

variable {s : Script} {t : Token}

/-- The decisions that a semicolon hands on and a line break does not. -/
def missed (s : Script) : Nat :=
  heldBy s.closedGroup + s.phase.missed

/-- The outlines of the functions that are open, with the decisions that both a semicolon and a line break
hand on. -/
def openOutlines (s : Script) : List FunctionOutline :=
  raiseFirst s.phase.owed s.braces.ledger.openOutlines

/-! ## Decisions outside all groups -/

/-- Outside all groups decisions go to the ledger. -/
theorem release_braces (hgroups : s.groups = []) (g : Group) :
    (s.release g).braces = s.braces.record g.decisions := by
  unfold release record
  rw [hgroups]
  rfl

/-- Outside all groups no group opens when decisions are released. -/
theorem release_groups (hgroups : s.groups = []) (g : Group) : (s.release g).groups = [] := by
  unfold release record
  rw [hgroups]
  exact hgroups

/-- Outside all groups decisions go to the innermost open function, if there is one. -/
theorem outlines_release (hgroups : s.groups = []) (g : Group) :
    (s.release g).braces.ledger.closedOutlines = s.braces.ledger.closedOutlines ∧
      (s.release g).braces.ledger.openOutlines =
        raiseFirst g.decisions s.braces.ledger.openOutlines := by
  rw [release_braces hgroups]
  exact ⟨Ledger.closedOutlines_recordDecisions _ _, Ledger.openOutlines_recordDecisions _ _⟩

/-! ## Line breaks -/

/-- Where no function is open, the end of the input has nothing to change. -/
theorem outlines_finish_of_frames_eq_nil (h : s.braces.ledger.frames = []) :
    s.finish.1.braces.ledger.outlines = s.braces.ledger.outlines := by
  obtain ⟨k, hk, _⟩ := (releaseClosed_hands s).trans_counted (releaseReturnType_hands _)
  have hfinish : s.finish.1.braces = (s.braces.record k).closeExpressions 0 := by
    rw [← hk]
    rfl
  rw [hfinish, Braces.outlines_closeExpressions, Braces.record, Ledger.outlines,
    Ledger.closedOutlines_recordDecisions, Ledger.openOutlines_recordDecisions, Ledger.outlines,
    Ledger.openOutlines, h]
  rfl

/-- Behind an arrow nothing waits that the end of the input could hand on. -/
theorem outlines_finish_of_arrowBody (hs : s.Sound) {f : Signature} (hphase : s.phase = .arrowBody f) :
    s.finish.1.braces.ledger.outlines = s.braces.ledger.outlines := by
  have hclosed : s.releaseClosed = s := by
    rcases hs with hs | hs
    · rw [releaseClosed, hs]
    · rw [hphase] at hs
      cases hs
  have htype : s.releaseReturnType = s := by
    rw [releaseReturnType, hphase]
  show (s.releaseClosed.releaseReturnType.braces.closeExpressions 0).ledger.outlines = _
  rw [hclosed, htype, Braces.outlines_closeExpressions]

/-- The end of a line outside everything closes all functions that are open. -/
theorem endLine_closes (hnested : s.braces.WellNested) (hgroups : s.groups = [])
    (hdepth : s.braces.depth = 0) :
    s.endLine.braces.ledger.frames = [] ∧
      s.endLine.braces.ledger.outlines = s.braces.ledger.outlines := by
  have hline : s.endLine.braces = s.braces.closeExpressions 0 := by
    rw [endLine, hgroups]
    rfl
  have hclosed := (Braces.Settles.refl s.braces).closeWhile fun body =>
    body.isExpression && body.braceDepth == s.braces.depth && decide (0 ≤ body.bracketDepth)
  rw [hline]
  constructor
  · exact (hnested.settles hclosed).frames_eq_nil (hnested.closeExpressions_bodies hdepth)
  · exact Braces.outlines_closeExpressions _ _

/-- The decisions released before reach the functions that the end of the line closes. -/
theorem endLine_release_closes (hnested : s.braces.WellNested) (hgroups : s.groups = [])
    (hdepth : s.braces.depth = 0) (g : Group) :
    (s.release g).endLine.braces.ledger.frames = [] ∧
      (s.release g).endLine.braces.ledger.outlines =
        s.braces.ledger.closedOutlines ++ raiseFirst g.decisions s.braces.ledger.openOutlines := by
  have hbraces := release_braces hgroups g
  obtain ⟨hclosed, hopen⟩ := outlines_release hgroups g
  obtain ⟨hframes, houtlines⟩ := endLine_closes (s := s.release g)
    (by rw [hbraces]; exact hnested.record _) (release_groups hgroups g) (by rw [hbraces]; exact hdepth)
  refine ⟨hframes, ?_⟩
  rw [houtlines, Ledger.outlines, hclosed, hopen]

/-- Where a line break only ends the line, it owes nothing. -/
theorem owed_of_endsLineOnly {phase : ScriptPhase} (h : EndsLineOnly phase) : phase.owed = 0 := by
  unfold ScriptPhase.owed
  split
  · exact absurd rfl (h.2 _ _)
  · rfl

/-- A line break outside everything closes all functions that are open, unless it stands behind an arrow. -/
theorem readNewline_closes (hnested : s.braces.WellNested) (hgroups : s.groups = [])
    (hdepth : s.braces.depth = 0) :
    ((∃ f, s.phase = .arrowBody f) ∧ s.readNewline false = s) ∨
      (s.readNewline false).braces.ledger.frames = [] ∧
        (s.readNewline false).braces.ledger.outlines =
          s.braces.ledger.closedOutlines ++ s.openOutlines := by
  by_cases hline : EndsLineOnly s.phase
  · right
    rw [readNewline_of_endsLineOnly hline, openOutlines, owed_of_endsLineOnly hline, raiseFirst_zero]
    exact endLine_closes hnested hgroups hdepth
  · rcases not_and_or.1 hline with harrow | htype
    · obtain ⟨f, hphase⟩ := not_forall_not.1 harrow
      refine .inl ⟨⟨f, hphase⟩, ?_⟩
      rw [readNewline, hphase]
      rfl
    · -- the type has begun, so its signature was none, and the decisions go to the surroundings
      obtain ⟨g, n, hphase⟩ : ∃ g n, s.phase = .returnType g 0 (n + 1) := by
        simpa using htype
      have hended : s.readNewline false = ({ s with phase := .statement }.release g).endLine := by
        rw [readNewline, hphase]
        rfl
      right
      rw [hended, openOutlines, hphase]
      exact endLine_release_closes (s := { s with phase := .statement }) hnested hgroups hdepth g

/-- What a line break outside everything leaves when the input ends behind it. -/
theorem outlines_lineBreak (hs : s.Sound) (hnested : s.braces.WellNested) (hgroups : s.groups = [])
    (hdepth : s.braces.depth = 0) :
    (s.readNewline false).finish.1.braces.ledger.outlines =
      s.braces.ledger.closedOutlines ++ s.openOutlines := by
  rcases readNewline_closes hnested hgroups hdepth with ⟨⟨f, hphase⟩, hsame⟩ | ⟨hframes, houtlines⟩
  · rw [hsame, outlines_finish_of_arrowBody hs hphase, openOutlines, hphase]
    exact congrArg (_ ++ ·) (raiseFirst_zero _).symm
  · rw [outlines_finish_of_frames_eq_nil hframes, houtlines]

/-! ## Semicolons -/

/-- The end of a statement. -/
structure IsSemicolon (t : Token) : Prop where
  isCode : t.isCode = true
  text_eq : t.text = ";"

theorem IsSemicolon.isNewline_eq (ht : IsSemicolon t) : t.isNewline = false := by
  have hkind := ht.isCode
  rw [Token.isCode, beq_iff_eq] at hkind
  rw [Token.isNewline, hkind]
  rfl

/-- A state with these outlines, in which no decision is due at a line break. -/
structure Leaves (s : Script) (row : List FunctionOutline) : Prop where
  owed_eq : s.phase.owed = 0
  outlines_eq : s.braces.ledger.outlines = row

/-- In ordinary code a semicolon leaves the functions with what they have. -/
theorem readStatement_semicolon (ht : IsSemicolon t) (hphase : s.phase = .statement)
    (closed : Option Group) :
    (s.readStatement closed t).Leaves s.braces.ledger.outlines := by
  have hread : s.readStatement closed t = (s.declare ";").readSemicolon := by
    simp only [readStatement, ht.isCode, ht.text_eq]
    rfl
  have hdeclare : (s.declare ";").braces = s.braces ∧ (s.declare ";").groups = s.groups := by
    unfold declare
    split
    · split <;> exact ⟨rfl, rfl⟩
    · exact ⟨rfl, rfl⟩
  rw [hread]
  constructor
  · show (s.declare ";").phase.owed = 0
    rw [(declare_keeps s ";").phase_eq, hphase]
    rfl
  · show ((s.declare ";").braces.closeExpressions (s.declare ";").groups.length).ledger.outlines = _
    rw [Braces.outlines_closeExpressions, hdeclare.1]

/-- A semicolon after `function` is read as ordinary code. -/
theorem readFunctionHead_semicolon (ht : IsSemicolon t) (name : String) (functionLine : Int) :
    (s.readFunctionHead name functionLine t).Leaves s.braces.ledger.outlines := by
  have hread : s.readFunctionHead name functionLine t =
      { s with phase := .statement }.readStatement none t := by
    simp [readFunctionHead, ht.isCode, ht.text_eq, show isName ";" = false by decide]
  rw [hread]
  exact readStatement_semicolon (s := { s with phase := .statement }) ht rfl none

/-- A semicolon does not end type parameters. -/
theorem readTypeParameters_semicolon (ht : IsSemicolon t) {name : String} {functionLine : Int}
    {depth : Nat} (hphase : s.phase = .typeParameters name functionLine depth) :
    (s.readTypeParameters name functionLine depth t.text).Leaves s.braces.ledger.outlines := by
  have hread : s.readTypeParameters name functionLine depth t.text = s := by
    simp [readTypeParameters, ht.text_eq]
  rw [hread]
  exact ⟨by rw [hphase]; rfl, rfl⟩

/-- Outside its brackets a semicolon shows that what looked like a return type was none. -/
theorem readReturnType_semicolon (ht : IsSemicolon t) (hgroups : s.groups = []) (g : Group)
    (tokens : Nat) : (s.readReturnType g 0 tokens t).Leaves
      (s.braces.ledger.closedOutlines ++ raiseFirst g.decisions s.braces.ledger.openOutlines) := by
  have hread : s.readReturnType g 0 tokens t =
      ({ s with phase := .statement }.release g).readStatement none t := by
    simp only [readReturnType, ht.isCode, ht.text_eq]
    rfl
  obtain ⟨hclosed, hopen⟩ := outlines_release (s := { s with phase := .statement }) hgroups g
  have hleaves := readStatement_semicolon (s := { s with phase := .statement }.release g) ht
    (record_phase _ _) none
  rw [Ledger.outlines, hclosed, hopen] at hleaves
  rw [hread]
  exact hleaves

/-- Inside the brackets of a type a semicolon is part of it. -/
theorem readReturnType_semicolon_inside (ht : IsSemicolon t) (g : Group) (depth tokens : Nat) :
    (s.readReturnType g (depth + 1) tokens t).Leaves s.braces.ledger.outlines := by
  have hread : s.readReturnType g (depth + 1) tokens t =
      { s with phase := .returnType g (depth + 1) (tokens + 1) } := by
    simp [readReturnType, ht.text_eq]
  rw [hread]
  exact ⟨rfl, rfl⟩

/-- Behind an arrow a semicolon is read as a body. -/
theorem readArrowBody_semicolon (ht : IsSemicolon t) (f : Signature) :
    (s.readArrowBody f t).Leaves
      (s.braces.ledger.closedOutlines ++ f.outline :: s.braces.ledger.openOutlines) := by
  have hread : s.readArrowBody f t = { s with
      phase := .statement
      braces := s.braces.openExpression f s.groups.length }.readStatement none t := by
    simp [readArrowBody, ht.text_eq]
  rw [hread, ← Braces.outlines_enterFunction]
  exact readStatement_semicolon (s := { s with
    phase := .statement
    braces := s.braces.openExpression f s.groups.length }) ht rfl none

/-- In every phase a semicolon outside all groups hands on the decisions of a signature with a return type,
and begins the function of an arrow. -/
theorem readPhase_semicolon (ht : IsSemicolon t) (hgroups : s.groups = []) (closed : Option Group) :
    (s.readPhase closed t).Leaves (s.braces.ledger.closedOutlines ++ s.phase.begun ++
      raiseFirst s.phase.missed s.openOutlines) := by
  -- where nothing waits, the row is that of the ledger
  have hplain {x : Script} (h : x.Leaves s.braces.ledger.outlines) :
      x.Leaves (s.braces.ledger.closedOutlines ++ [] ++
        raiseFirst 0 (raiseFirst 0 s.braces.ledger.openOutlines)) := by
    rw [raiseFirst_zero, raiseFirst_zero, List.append_nil]
    exact h
  unfold readPhase openOutlines
  cases hphase : s.phase with
  | statement => exact hplain (readStatement_semicolon ht hphase closed)
  | functionHead name functionLine => exact hplain (readFunctionHead_semicolon ht name functionLine)
  | typeParameters name functionLine depth => exact hplain (readTypeParameters_semicolon ht hphase)
  | returnType g depth tokens =>
    cases depth with
    | succ depth => exact hplain (readReturnType_semicolon_inside ht g depth tokens)
    | zero =>
      have hleaves := readReturnType_semicolon ht hgroups g tokens
      -- the decisions are due in either case, and only the line break tells the cases apart
      cases tokens with
      | zero => simpa [ScriptPhase.begun, ScriptPhase.missed, ScriptPhase.owed] using hleaves
      | succ tokens => simpa [ScriptPhase.begun, ScriptPhase.missed, ScriptPhase.owed] using hleaves
  | arrowBody f =>
    have hleaves := readArrowBody_semicolon (s := s) ht f
    simpa [ScriptPhase.begun, ScriptPhase.missed, ScriptPhase.owed] using hleaves

/-- A question mark before a semicolon is an optional marker. -/
theorem settleQuestion_semicolon (ht : IsSemicolon t) :
    s.settleQuestion t = { s with question := false } := by
  unfold settleQuestion
  split
  · rw [ht.isCode, ht.text_eq]
    rfl
  · rename_i hquestion
    rw [← Bool.eq_false_iff.2 hquestion]

/-- A semicolon outside all groups hands on everything that waits outside all groups. -/
theorem readToken_semicolon (ht : IsSemicolon t) (hs : s.Sound) (hgroups : s.groups = []) :
    (s.readToken t).Leaves (s.braces.ledger.closedOutlines ++ s.phase.begun ++
      raiseFirst s.missed s.openOutlines) := by
  unfold readToken
  generalize hx : s.settleQuestion t = x
  rw [settleQuestion_semicolon ht] at hx
  -- the question mark is of no interest, so `x` takes the place of `s`
  have hrow : s.braces.ledger.closedOutlines ++ s.phase.begun ++ raiseFirst s.missed s.openOutlines =
      x.braces.ledger.closedOutlines ++ x.phase.begun ++ raiseFirst x.missed x.openOutlines := by
    rw [← hx]
    rfl
  have hs : x.Sound := by
    rw [← hx]
    exact hs
  have hgroups : x.groups = [] := by
    rw [← hx]
    exact hgroups
  rw [hrow, missed]
  dsimp only
  cases hclosed : x.closedGroup with
  | none =>
    rw [heldBy_none, Nat.zero_add]
    exact readPhase_semicolon ht hgroups none
  | some g =>
    have hphase : x.phase = .statement := hs.resolve_left (by simp [hclosed])
    have hkeeps : keepsSignature t = false := by
      rw [keepsSignature, ht.isCode, ht.text_eq]
      rfl
    obtain ⟨hclosed, hopen⟩ := outlines_release (s := { x with closedGroup := none }) hgroups g
    have hreleased : ({ x with closedGroup := none }.release g).phase = .statement :=
      (record_phase _ _).trans hphase
    have hleaves := readPhase_semicolon (s := { x with closedGroup := none }.release g) ht
      (release_groups (s := { x with closedGroup := none }) hgroups g)
      (some { g with decisions := 0 })
    rw [openOutlines, hreleased, hclosed, hopen] at hleaves
    have hheld : x.braces.ledger.closedOutlines ++ x.phase.begun ++
        raiseFirst (heldBy (some g) + x.phase.missed) x.openOutlines =
          x.braces.ledger.closedOutlines ++ [] ++
            raiseFirst 0 (raiseFirst 0 (raiseFirst g.decisions x.braces.ledger.openOutlines)) := by
      rw [openOutlines, hphase]
      simp [ScriptPhase.begun, ScriptPhase.missed, ScriptPhase.owed]
    rw [hheld, hkeeps]
    exact hleaves

/-- A semicolon outside all groups leaves the functions with all decisions that waited, and behind an arrow
with one function more. -/
theorem read_semicolon {table : DecisionTable} (htable : table.decides ";" = false)
    (ht : IsSemicolon t) (hs : s.Sound) (hgroups : s.groups = []) :
    (s.read table t).Leaves (s.braces.ledger.closedOutlines ++ s.phase.begun ++
      raiseFirst s.missed s.openOutlines) := by
  have hleaves := readToken_semicolon ht hs hgroups
  unfold read
  rw [ht.isNewline_eq, ht.text_eq, htable, Bool.and_false]
  exact ⟨hleaves.owed_eq, hleaves.outlines_eq⟩

/-! ## The last token -/

/-- The tokens behind which a semicolon and a line break differ. -/
def unevenTexts : List String :=
  [")", ":", "=>"]

/-- A state in which a semicolon and a line break hand on the same: neither a group nor a signature with a
return type waits for the next token, and no arrow does. -/
structure Even (s : Script) : Prop where
  closedGroup_eq : s.closedGroup = none
  no_signature : ∀ g, s.phase ≠ .returnType g 0 0
  no_arrow : ∀ f, s.phase ≠ .arrowBody f

/-- In an even state a semicolon hands on no more than a line break. -/
theorem Even.missed_eq (h : s.Even) : s.missed = 0 := by
  rw [missed, h.closedGroup_eq, heldBy_none, Nat.zero_add]
  unfold ScriptPhase.missed
  split
  · exact absurd ‹_› (h.no_signature _)
  · rfl

/-- In an even state a semicolon begins no function. -/
theorem Even.begun_eq (h : s.Even) : s.phase.begun = [] := by
  unfold ScriptPhase.begun
  split
  · exact absurd ‹_› (h.no_arrow _)
  · rfl

/-- Ordinary code in which no group has just closed is even. -/
theorem Ready.even (h : s.Ready) : s.Even := by
  refine ⟨h.2, ?_, ?_⟩
  · intro g hphase
    rw [h.1] at hphase
    cases hphase
  · intro f hphase
    rw [h.1] at hphase
    cases hphase

theorem even_ite {c : Prop} [Decidable c] {s s' : Script} (h : c → s.Even) (h' : s'.Even) :
    (if c then s else s').Even := by
  split
  · exact h ‹_›
  · exact h'

/-- The signatures that a phase keeps, and the group that has just closed, decide. -/
theorem Even.congr {s s' : Script} (h : s.Even) (hclosed : s'.closedGroup = s.closedGroup)
    (hphase : s'.phase = s.phase) : s'.Even := by
  refine ⟨hclosed.trans h.closedGroup_eq, ?_, ?_⟩
  · rw [hphase]
    exact h.no_signature
  · rw [hphase]
    exact h.no_arrow

/-- Only a parenthesis waits when it has closed. -/
theorem Ready.closeGroup (hs : s.Ready) {text : String} (htext : text ≠ ")") :
    (s.closeGroup text).Ready := by
  unfold Script.closeGroup
  split
  · exact hs
  · rename_i g gs _
    dsimp only
    rw [if_neg fun h => htext h.1]
    have hpopped : ({ s with groups := gs }.closeExpressions (gs.length + 1)).Ready := ⟨hs.1, hs.2⟩
    exact hpopped.keeps (release_keeps _ _)

/-- Ordinary code remains even but for a few tokens. -/
theorem readStatement_even (hs : s.Ready) (closed : Option Group) (ht : t.text ∉ unevenTexts) :
    (s.readStatement closed t).Even := by
  obtain ⟨hparen, hcolon, harrow⟩ : t.text ≠ ")" ∧ t.text ≠ ":" ∧ t.text ≠ "=>" := by
    simpa [unevenTexts] using ht
  have hready := hs.keeps (declare_keeps s t.text)
  have hbegin := hready.keeps (beginEntry_keeps _)
  have hkept {x : Script} (h : Keeps (s.declare t.text) x) : x.Even := (hready.keeps h).even
  -- in the order in which the kinds of tokens are tried
  refine even_ite (fun _ => ((hs.keeps (beginEntry_keeps s)).even).congr rfl rfl) ?_
  refine even_ite (fun _ => ⟨hs.2, nofun, nofun⟩) ?_
  refine even_ite (fun _ => hbegin.even.congr rfl rfl) ?_
  refine even_ite (fun _ => hkept (openParenthesis_keeps _)) ?_
  refine even_ite (fun _ => hkept (openSquare_keeps _)) ?_
  refine even_ite (fun _ => (hready.closeGroup hparen).even) ?_
  refine even_ite (fun _ => hkept (openBrace_keeps _ closed)) ?_
  refine even_ite (fun _ => hready.even.congr rfl rfl) ?_
  refine even_ite (fun h => absurd h harrow) ?_
  refine even_ite (fun h => absurd h hcolon) ?_
  refine even_ite (fun _ => (hbegin.keeps (takeName_keeps _)).even) ?_
  refine even_ite (fun _ => hkept (readComma_keeps _)) ?_
  refine even_ite (fun _ => hkept (readSemicolon_keeps _)) ?_
  exact even_ite (fun _ => hbegin.even.congr rfl rfl) hbegin.even

theorem readFunctionHead_even (hs : s.closedGroup = none) {name : String} {functionLine : Int}
    (hphase : s.phase = .functionHead name functionLine) (ht : t.text ∉ unevenTexts) :
    (s.readFunctionHead name functionLine t).Even := by
  have hended : Ready { s with phase := .statement } := ⟨rfl, hs⟩
  have hcleared : Ready { s with phase := .statement, declaring := false } := ⟨rfl, hs⟩
  have hsame : s.Even := by
    refine ⟨hs, ?_, ?_⟩ <;>
    · rw [hphase]
      nofun
  refine even_ite (fun _ => readStatement_even hended none ht) (even_ite (fun _ => hsame) ?_)
  refine even_ite (fun _ => ⟨hs, nofun, nofun⟩) (even_ite (fun _ => ⟨hs, nofun, nofun⟩) ?_)
  refine even_ite (fun _ => ?_) (readStatement_even hended none ht)
  exact (hcleared.keeps (openParameters_keeps _ name functionLine)).even

theorem readTypeParameters_even (hs : s.closedGroup = none) {name : String} {functionLine : Int}
    {depth : Nat} (hphase : s.phase = .typeParameters name functionLine depth) :
    (s.readTypeParameters name functionLine depth t.text).Even := by
  have hsame : s.Even := by
    refine ⟨hs, ?_, ?_⟩ <;>
    · rw [hphase]
      nofun
  refine even_ite (fun _ => ⟨hs, nofun, nofun⟩) (even_ite (fun _ => ?_) hsame)
  exact even_ite (fun _ => ⟨hs, nofun, nofun⟩) ⟨hs, nofun, nofun⟩

/-- A return type that has begun does not wait for its first token. -/
theorem readReturnType_even (hs : s.closedGroup = none) (g : Group) (depth tokens : Nat)
    (ht : t.text ∉ unevenTexts) : (s.readReturnType g depth tokens t).Even := by
  have hended : Ready { s with phase := .statement } := ⟨rfl, hs⟩
  have harrow : t.text ≠ "=>" := fun h => ht (by simp [unevenTexts, h])
  have hon (d : Nat) : Even { s with phase := .returnType g d (tokens + 1) } :=
    ⟨hs, nofun, nofun⟩
  refine even_ite (fun _ => readStatement_even hended (some g) ht) ?_
  refine even_ite (fun h => absurd h.2.2 harrow) ?_
  refine even_ite (fun _ => readStatement_even (hended.keeps (release_keeps _ g)) none ht) ?_
  exact even_ite (fun _ => hon _) (even_ite (fun _ => hon _) (hon _))

theorem readArrowBody_even (hs : s.closedGroup = none) (f : Signature) (ht : t.text ∉ unevenTexts) :
    (s.readArrowBody f t).Even := by
  have hended : Ready { s with phase := .statement } := ⟨rfl, hs⟩
  have hopened : Ready { s with
      phase := .statement
      braces := s.braces.openExpression f s.groups.length } := ⟨rfl, hs⟩
  refine even_ite (fun _ => ?_) (readStatement_even hopened none ht)
  exact (hended.keeps (beginEntry_keeps _)).even.congr rfl rfl

/-- A token ends what waits, unless it is one of the few behind which something waits. -/
theorem readPhase_even (hs : s.closedGroup = none) (closed : Option Group)
    (ht : t.text ∉ unevenTexts) : (s.readPhase closed t).Even := by
  unfold readPhase
  cases hphase : s.phase with
  | statement => exact readStatement_even ⟨hphase, hs⟩ closed ht
  | functionHead name functionLine => exact readFunctionHead_even hs hphase ht
  | typeParameters name functionLine depth => exact readTypeParameters_even hs hphase
  | returnType g depth tokens => exact readReturnType_even hs g depth tokens ht
  | arrowBody f => exact readArrowBody_even hs f ht

/-- A token leaves an even state unless it is one of the few. -/
theorem readToken_even (ht : t.text ∉ unevenTexts) : (s.readToken t).Even := by
  unfold readToken
  dsimp only
  cases hclosed : (s.settleQuestion t).closedGroup with
  | none => exact readPhase_even hclosed none ht
  | some g =>
    refine even_ite (fun _ => readPhase_even rfl (some g) ht) ?_
    exact readPhase_even (release_keeps { s.settleQuestion t with closedGroup := none } g).closedGroup_eq
      _ ht

/-- Any token but these few leaves an even state. -/
theorem read_even (table : DecisionTable) (hn : t.isNewline = false) (ht : t.text ∉ unevenTexts) :
    (s.read table t).Even := by
  have htoken := readToken_even (s := s) ht
  unfold read
  rw [hn, if_neg Bool.false_ne_true]
  dsimp only
  split
  · have hcount : ((s.readToken t).countDecision t.text).closedGroup = (s.readToken t).closedGroup ∧
        ((s.readToken t).countDecision t.text).phase = (s.readToken t).phase := by
      unfold countDecision
      split
      · exact ⟨rfl, rfl⟩
      · have hkeeps := record_keeps (s.readToken t) 1
        exact ⟨hkeeps.closedGroup_eq, hkeeps.phase_eq⟩
    exact htoken.congr hcount.1 hcount.2
  · exact htoken.congr rfl rfl

/-- An even state remains so at a line break. -/
theorem readNewline_even (hs : s.Even) (implicit : Bool) : (s.readNewline implicit).Even := by
  refine even_ite (fun _ => hs) ?_
  split
  · exact hs
  · rename_i g tokens _
    have hended : Ready { s with phase := .statement } := ⟨rfl, hs.closedGroup_eq⟩
    exact ((hended.keeps (release_keeps _ g)).keeps (endLine_keeps _)).even
  · exact hs.congr (endLine_keeps s).closedGroup_eq (endLine_keeps s).phase_eq

end Script

end Cyclomatic.Recognizer
