import Mathlib
import Cyclomatic.Proofs.Correspondence
import Cyclomatic.Recognizer.Script

/-!
# Corresponding passes over TypeScript and JavaScript

The groups, the signature that a phase keeps and the ledger know lines, but no step of the pass depends on
them. So the states of two passes over the same tokens agree but for their lines and ledgers
(`Script.Corresponds`), and they keep doing so, whatever is read (`Script.Corresponds.read`).
-/

namespace Cyclomatic.Recognizer

variable {K : Correspondence}

/-! ## States -/

/-- The group with its line where it comes to lie. -/
def Group.onLine (line : Int → Int) (g : Group) : Group :=
  { g with startLine := line g.startLine }

/-- The phase with its lines where they come to lie. -/
def ScriptPhase.onLine (line : Int → Int) : ScriptPhase → ScriptPhase
  | statement => statement
  | functionHead name first => functionHead name (line first)
  | typeParameters name first depth => typeParameters name (line first) depth
  | returnType g depth tokens => returnType (g.onLine line) depth tokens
  | arrowBody f => arrowBody (f.onLine line)

namespace Script

/-- The state with its lines where they come to lie, and with other braces. -/
def onLines (line : Int → Int) (s : Script) (braces : Braces) : Script :=
  { s with
    phase := s.phase.onLine line
    groups := s.groups.map (·.onLine line)
    closedGroup := s.closedGroup.map (·.onLine line)
    braces }

/-- The state `s'` is that of the second pass. -/
def Corresponds (K : Correspondence) (s s' : Script) : Prop :=
  ∃ b, Braces.Corresponds K s.braces b ∧ s' = s.onLines K.line b

variable {s s' : Script}

/-- Corresponding states have corresponding braces. -/
theorem Corresponds.braces (h : Corresponds K s s') : Braces.Corresponds K s.braces s'.braces := by
  obtain ⟨b, hb, rfl⟩ := h
  exact hb

/-- The second pass is on the line where that of the first comes to lie. -/
theorem Corresponds.line_eq (h : Corresponds K s s') : s'.line = K.line s.line :=
  K.line_eq h.braces.ledger

/-- Braces are read alike. -/
theorem Corresponds.withBraces (h : Corresponds K s s') {b b' : Braces} (hb : Braces.Corresponds K b b') :
    Corresponds K { s with braces := b } { s' with braces := b' } := by
  obtain ⟨_, _, rfl⟩ := h
  exact ⟨b', hb, rfl⟩

/-- The same groups are open, but for their lines. -/
theorem Corresponds.groups_eq (h : Corresponds K s s') : s'.groups = s.groups.map (·.onLine K.line) := by
  obtain ⟨b, hb, rfl⟩ := h
  rfl

theorem Corresponds.previous_eq (h : Corresponds K s s') : s'.previous = s.previous := by
  obtain ⟨b, hb, rfl⟩ := h
  rfl

theorem Corresponds.inCase_eq (h : Corresponds K s s') : s'.inCase = s.inCase := by
  obtain ⟨b, hb, rfl⟩ := h
  rfl

theorem Corresponds.ternaries_eq (h : Corresponds K s s') : s'.ternaries = s.ternaries := by
  obtain ⟨b, hb, rfl⟩ := h
  rfl

/-- The same group has just closed, but for its line. -/
theorem Corresponds.closedGroup_eq (h : Corresponds K s s') :
    s'.closedGroup = s.closedGroup.map (·.onLine K.line) := by
  obtain ⟨b, hb, rfl⟩ := h
  rfl

/-- Both passes are in the same phase, but for the lines it keeps. -/
theorem Corresponds.phase_eq (h : Corresponds K s s') : s'.phase = s.phase.onLine K.line := by
  obtain ⟨b, hb, rfl⟩ := h
  rfl

/-- States remain corresponding when both take the same group for the closed one. -/
theorem Corresponds.withClosedGroup (h : Corresponds K s s') (closedGroup : Option Group) :
    Corresponds K { s with closedGroup }
      { s' with closedGroup := closedGroup.map (·.onLine K.line) } := by
  obtain ⟨b, hb, rfl⟩ := h
  exact ⟨b, hb, rfl⟩

/-- States remain corresponding when both take the same groups for the open ones. -/
theorem Corresponds.withGroups (h : Corresponds K s s') (gs : List Group) :
    Corresponds K { s with groups := gs } { s' with groups := gs.map (·.onLine K.line) } := by
  obtain ⟨b, hb, rfl⟩ := h
  exact ⟨b, hb, rfl⟩

/-- States remain corresponding when both enter the same phase. -/
theorem Corresponds.withPhase (h : Corresponds K s s') (phase : ScriptPhase) :
    Corresponds K { s with phase } { s' with phase := phase.onLine K.line } := by
  obtain ⟨b, hb, rfl⟩ := h
  exact ⟨b, hb, rfl⟩

/-- A change of the ledgers that keeps them together keeps the states corresponding. -/
theorem Corresponds.mapLedger (h : Corresponds K s s') (f f' : Ledger → Ledger)
    (hf : K.ledgers (f s.braces.ledger) (f' s'.braces.ledger)) :
    Corresponds K (s.mapLedger f) (s'.mapLedger f') :=
  h.withBraces ⟨h.braces.depth_eq, h.braces.bodies_eq, hf⟩

/-! ## Registers -/

/-- What allows a name is seen alike: the innermost group and the depth of braces. -/
theorem Corresponds.canName_eq (h : Corresponds K s s') : s'.canName = s.canName := by
  obtain ⟨b, hb, rfl⟩ := h
  unfold canName onLines
  dsimp only
  rw [hb.depth_eq]
  cases s.groups <;> rfl

/-- Both passes are inside the expression of an arrow, or neither is. -/
theorem Corresponds.inExpression_eq (h : Corresponds K s s') : s'.inExpression = s.inExpression := by
  obtain ⟨b, hb, rfl⟩ := h
  unfold inExpression onLines
  dsimp only
  rw [hb.depth_eq, hb.bodies_eq, List.length_map]

/-- The name of an assignment is forgotten alike. -/
theorem Corresponds.forgetName (h : Corresponds K s s') : Corresponds K s.forgetName s'.forgetName := by
  obtain ⟨b, hb, rfl⟩ := h
  exact ⟨b, hb, rfl⟩

/-- The name of an assignment is taken alike: whether one is allowed does not depend on lines. -/
theorem Corresponds.takeName (h : Corresponds K s s') : Corresponds K s.takeName s'.takeName := by
  have hcan := h.canName_eq
  obtain ⟨b, hb, rfl⟩ := h
  unfold Script.takeName
  rw [show (s.onLines K.line b).previous = s.previous from rfl]
  cases s.previous with
  | none => exact ⟨b, hb, rfl⟩
  | some name =>
    dsimp only
    rw [hcan]
    exact rel_ite ⟨b, hb, rfl⟩ ⟨b, hb, rfl⟩

/-- An entry of the innermost list begins alike. -/
theorem Corresponds.beginEntry (h : Corresponds K s s') : Corresponds K s.beginEntry s'.beginEntry := by
  obtain ⟨b, hb, rfl⟩ := h
  obtain ⟨_, groups, _, _, _, _, _, _, _, _, _⟩ := s
  cases groups <;> exact ⟨b, hb, rfl⟩

/-- A word that begins a declaration is noted alike. -/
theorem Corresponds.declare (h : Corresponds K s s') (text : String) :
    Corresponds K (s.declare text) (s'.declare text) := by
  obtain ⟨b, hb, rfl⟩ := h
  exact rel_ite (rel_ite ⟨b, hb, rfl⟩ ⟨b, hb, rfl⟩) ⟨b, hb, rfl⟩

/-! ## Counting -/

/-- Decisions are recorded alike: in both passes they go to the innermost group, or in both to the ledger. -/
theorem Corresponds.record (h : Corresponds K s s') (count : Nat) :
    Corresponds K (s.record count) (s'.record count) := by
  have hledger := h.mapLedger (·.recordDecisions count) (·.recordDecisions count)
    (K.recordDecisions h.braces.ledger count)
  have hexpression := h.inExpression_eq
  obtain ⟨b, hb, rfl⟩ := h
  unfold Script.record
  rw [hexpression, show (s.onLines K.line b).groups = s.groups.map (·.onLine K.line) from rfl]
  cases s.groups with
  | nil => exact hledger
  | cons g gs =>
    simp only [List.map_cons]
    rw [show (s.onLines K.line b).braces.depth = s.braces.depth from hb.depth_eq,
      show (g.onLine K.line).braceDepth = g.braceDepth from rfl]
    exact rel_ite ⟨b, hb, rfl⟩ hledger

/-- The decisions of a closed group are released alike. -/
theorem Corresponds.release (h : Corresponds K s s') (g : Group) :
    Corresponds K (s.release g) (s'.release (g.onLine K.line)) :=
  h.record g.decisions

/-- Arrows whose expressions have ended close alike. -/
theorem Corresponds.closeExpressions (h : Corresponds K s s') (brackets : Nat) :
    Corresponds K (s.closeExpressions brackets) (s'.closeExpressions brackets) :=
  h.withBraces (h.braces.closeExpressions brackets)

/-! ## Brackets -/

/-- A group opens alike, on the line where its own comes to lie. -/
theorem Corresponds.pushGroup (h : Corresponds K s s') (g : Group) :
    Corresponds K (s.pushGroup g) (s'.pushGroup (g.onLine K.line)) := by
  obtain ⟨b, hb, heq⟩ := h.beginEntry
  unfold Script.pushGroup
  rw [heq]
  exact ⟨b, hb, rfl⟩

/-- The parameters of a function open alike; the function keeps the line of its head. -/
theorem Corresponds.openParameters (h : Corresponds K s s') (name : String) (functionLine : Int) :
    Corresponds K (s.openParameters name functionLine)
      (s'.openParameters name (K.line functionLine)) := by
  obtain ⟨b, hb, rfl⟩ := h
  have hname : Corresponds K { s with assignedName := "" } { s.onLines K.line b with assignedName := "" } :=
    ⟨b, hb, rfl⟩
  have hpush := hname.pushGroup
    { opener := if name.isEmpty then s.assignedName else name
      isCallable := true
      startLine := functionLine
      braceDepth := s.braces.depth }
  rw [Script.openParameters, Script.openParameters]
  rw [show (s.onLines K.line b).braces.depth = s.braces.depth from hb.depth_eq]
  exact hpush

/-- A parenthesis opens alike, whatever stands before it: nothing, a keyword or a name that may be called. -/
theorem Corresponds.openParenthesis (h : Corresponds K s s') :
    Corresponds K s.openParenthesis s'.openParenthesis := by
  unfold Script.openParenthesis
  dsimp only
  rw [h.line_eq, h.braces.depth_eq, h.previous_eq]
  cases s.previous with
  | none => exact h.pushGroup { startLine := s.line, braceDepth := s.braces.depth }
  | some name =>
    refine rel_ite ?_ ?_
    · exact h.forgetName.pushGroup
        { startLine := s.line, braceDepth := s.braces.depth, opener := name, isCallable := true }
    · exact h.pushGroup
        { startLine := s.line
          braceDepth := s.braces.depth
          isControl := controlKeywords.contains name }

/-- A square bracket opens alike. -/
theorem Corresponds.openSquare (h : Corresponds K s s') : Corresponds K s.openSquare s'.openSquare := by
  unfold Script.openSquare
  rw [h.line_eq, h.braces.depth_eq]
  exact h.pushGroup { startLine := s.line, braceDepth := s.braces.depth, isParenthesis := false }

/-- The innermost group closes alike, and what it leaves to the next token is the same group. -/
theorem Corresponds.closeGroup (h : Corresponds K s s') (text : String) :
    Corresponds K (s.closeGroup text) (s'.closeGroup text) := by
  unfold Script.closeGroup
  rw [h.groups_eq]
  cases s.groups with
  | nil => exact h
  | cons g gs =>
    have hclosed := (h.withGroups gs).closeExpressions (gs.length + 1)
    simp only [List.map_cons, List.length_map]
    refine rel_ite ?_ (hclosed.release g.endEntry)
    obtain ⟨b, hb, heq⟩ := hclosed
    rw [heq]
    exact ⟨b, hb, rfl⟩

/-! ## Functions -/

/-- A brace opens alike, as the body of a function after the group of its parameters and as a block otherwise.
Functions must be allowed to begin on any line, since the one that opens may have begun anywhere. -/
theorem Corresponds.openBrace [K.Unrestricted] (h : Corresponds K s s') (closed : Option Group) :
    Corresponds K (s.openBrace closed) (s'.openBrace (closed.map (·.onLine K.line))) := by
  have hbegin := h.beginEntry
  cases closed with
  | none => exact (hbegin.withBraces hbegin.braces.openBlock).forgetName
  | some g =>
    have hrelease := hbegin.release g
    have hopen := hbegin.braces.openBody (f := ⟨g.opener, g.count, g.startLine, g.decisions⟩)
      (Correspondence.Unrestricted.begins _)
    exact rel_ite (hbegin.withBraces hopen).forgetName
      (hrelease.withBraces hrelease.braces.openBlock).forgetName

/-- An arrow starts alike: after a group its parameters are those of the group, without one the function
begins on the line of the arrow. -/
theorem Corresponds.startArrow (h : Corresponds K s s') (closed : Option Group) :
    Corresponds K (s.startArrow closed) (s'.startArrow (closed.map (·.onLine K.line))) := by
  have hline := h.line_eq
  obtain ⟨b, hb, rfl⟩ := h
  cases closed with
  | some g => exact ⟨b, hb, rfl⟩
  | none =>
    refine ⟨b, hb, ?_⟩
    unfold Script.startArrow
    simp only [Option.map_none]
    rw [hline]
    rfl

/-! ## Punctuation -/

/-- A colon is read alike. Whether it ends a label, answers a question or begins the type of a result is
decided by registers that no line enters. -/
theorem Corresponds.readColon (h : Corresponds K s s') (closed : Option Group) :
    Corresponds K (s.readColon closed) (s'.readColon (closed.map (·.onLine K.line))) := by
  -- what the colon means when nothing waits on a group
  have hplain {x x' : Script} (h : Corresponds K x x') {y y' : Script} (hy : Corresponds K y y') :
      Corresponds K
        (if x.inCase then { x with inCase := false }
          else if 0 < x.ternaries then { x with ternaries := x.ternaries - 1 } else y)
        (if x'.inCase then { x' with inCase := false }
          else if 0 < x'.ternaries then { x' with ternaries := x'.ternaries - 1 } else y') := by
    obtain ⟨b, hb, rfl⟩ := h
    exact rel_ite ⟨b, hb, rfl⟩ (rel_ite ⟨b, hb, rfl⟩ hy)
  have hbegin := h.beginEntry
  cases closed with
  | none => exact hplain hbegin hbegin.takeName
  | some g =>
    have hrelease := hbegin.release g
    unfold Script.readColon
    simp only [Option.map_some]
    rw [hbegin.inCase_eq, hbegin.ternaries_eq, show (g.onLine K.line).isControl = g.isControl from rfl]
    have hwaits : Corresponds K
        (if s.beginEntry.inCase || decide (0 < s.beginEntry.ternaries) || g.isControl then
          s.beginEntry.release g else s.beginEntry)
        (if s.beginEntry.inCase || decide (0 < s.beginEntry.ternaries) || g.isControl then
          s'.beginEntry.release (g.onLine K.line) else s'.beginEntry) :=
      rel_ite hrelease hbegin
    refine hplain hwaits (rel_ite hwaits.takeName ?_)
    exact hwaits.withPhase (.returnType g 0 0)

/-- A comma is read alike: it counts in the innermost group of the same braces and ends the same arrows. -/
theorem Corresponds.readComma (h : Corresponds K s s') : Corresponds K s.readComma s'.readComma := by
  have hclose {groups groups' : List Group} (hgroups : groups' = groups.map (·.onLine K.line)) :
      Corresponds K
        (if ({ s with groups }.closeExpressions groups.length).canName then
            ({ s with groups }.closeExpressions groups.length).forgetName
          else { s with groups }.closeExpressions groups.length)
        (if ({ s' with groups := groups' }.closeExpressions groups'.length).canName then
            ({ s' with groups := groups' }.closeExpressions groups'.length).forgetName
          else { s' with groups := groups' }.closeExpressions groups'.length) := by
    have hclosed := (h.withGroups groups).closeExpressions groups.length
    rw [hgroups, List.length_map, hclosed.canName_eq]
    exact rel_ite hclosed.forgetName hclosed
  refine hclose ?_
  rw [h.groups_eq, h.braces.depth_eq]
  cases s.groups with
  | nil => rfl
  | cons g gs =>
    simp only [List.map_cons]
    rw [show (g.onLine K.line).braceDepth = g.braceDepth from rfl]
    split <;> rfl

/-- A semicolon is read alike. -/
theorem Corresponds.readSemicolon (h : Corresponds K s s') :
    Corresponds K s.readSemicolon s'.readSemicolon := by
  have hclosed := h.closeExpressions s.groups.length
  unfold Script.readSemicolon
  rw [h.groups_eq, List.length_map]
  obtain ⟨b, hb, heq⟩ := hclosed
  rw [heq]
  exact ⟨b, hb, rfl⟩

/-! ## Reading -/

/-- States remain corresponding when both note the same about declarations. -/
theorem Corresponds.withDeclaring (h : Corresponds K s s') (declaring : Bool) :
    Corresponds K { s with declaring } { s' with declaring } := by
  obtain ⟨b, hb, rfl⟩ := h
  exact ⟨b, hb, rfl⟩

/-- States remain corresponding when both note the same about labels. -/
theorem Corresponds.withInCase (h : Corresponds K s s') (inCase : Bool) :
    Corresponds K { s with inCase } { s' with inCase } := by
  obtain ⟨b, hb, rfl⟩ := h
  exact ⟨b, hb, rfl⟩

/-- A token of a statement is read alike, one branch of the reading at a time. -/
theorem Corresponds.readStatement [K.Unrestricted] (h : Corresponds K s s') (closed : Option Group)
    (t : Token) :
    Corresponds K (s.readStatement closed t) (s'.readStatement (closed.map (·.onLine K.line)) t) := by
  have hd := h.declare t.text
  unfold Script.readStatement
  dsimp only
  refine rel_ite (h.beginEntry.withDeclaring false) (rel_ite ?_ ?_)
  · rw [h.line_eq]
    exact h.withPhase (.functionHead "" s.line)
  · refine rel_ite (hd.beginEntry.withDeclaring true) ?_
    refine rel_ite hd.openParenthesis (rel_ite hd.openSquare (rel_ite (hd.closeGroup t.text) ?_))
    refine rel_ite (hd.openBrace closed) (rel_ite (hd.withBraces hd.braces.closeBrace).forgetName ?_)
    refine rel_ite (hd.startArrow closed) (rel_ite (hd.readColon closed) ?_)
    refine rel_ite hd.beginEntry.takeName (rel_ite hd.readComma (rel_ite hd.readSemicolon ?_))
    exact rel_ite (hd.beginEntry.withInCase true) hd.beginEntry

/-- A token after the word that begins a function is read alike. -/
theorem Corresponds.readFunctionHead [K.Unrestricted] (h : Corresponds K s s') (name : String)
    (functionLine : Int) (t : Token) :
    Corresponds K (s.readFunctionHead name functionLine t)
      (s'.readFunctionHead name (K.line functionLine) t) := by
  have hstatement := (h.withPhase .statement).readStatement none t
  unfold Script.readFunctionHead
  refine rel_ite hstatement (rel_ite h (rel_ite (h.withPhase (.typeParameters name functionLine 1)) ?_))
  refine rel_ite (h.withPhase (.functionHead t.text functionLine)) (rel_ite ?_ hstatement)
  exact ((h.withPhase .statement).withDeclaring false).openParameters name functionLine

/-- A token of type parameters is read alike. -/
theorem Corresponds.readTypeParameters (h : Corresponds K s s') (name : String) (functionLine : Int)
    (depth : Nat) (text : String) :
    Corresponds K (s.readTypeParameters name functionLine depth text)
      (s'.readTypeParameters name (K.line functionLine) depth text) :=
  rel_ite (h.withPhase (.typeParameters name functionLine (depth + 1)))
    (rel_ite (rel_ite (h.withPhase (.functionHead name functionLine))
      (h.withPhase (.typeParameters name functionLine (depth - 1)))) h)

/-- A token of the type of a result is read alike, the brace or arrow that ends the type included. -/
theorem Corresponds.readReturnType [K.Unrestricted] (h : Corresponds K s s') (g : Group) (depth tokens : Nat)
    (t : Token) :
    Corresponds K (s.readReturnType g depth tokens t)
      (s'.readReturnType (g.onLine K.line) depth tokens t) := by
  have hended := h.withPhase .statement
  unfold Script.readReturnType
  dsimp only
  refine rel_ite (hended.readStatement (some g) t) (rel_ite (hended.startArrow (some g)) ?_)
  refine rel_ite ((hended.release g).readStatement none t) ?_
  refine rel_ite (h.withPhase (.returnType g (depth + 1) (tokens + 1))) (rel_ite ?_ ?_)
  · exact h.withPhase (.returnType g (depth - 1) (tokens + 1))
  · exact h.withPhase (.returnType g depth (tokens + 1))

/-- The token after an arrow is read alike: it opens a body in braces, or an expression. -/
theorem Corresponds.readArrowBody [K.Unrestricted] (h : Corresponds K s s') (f : Signature) (t : Token) :
    Corresponds K (s.readArrowBody f t) (s'.readArrowBody (f.onLine K.line) t) := by
  have hstatement := h.withPhase .statement
  have hbegin := hstatement.beginEntry
  have hexpression := hstatement.withBraces (hstatement.braces.openExpression
    (Correspondence.Unrestricted.begins f.startLine) s.groups.length)
  have hlength : s'.groups.length = s.groups.length := by rw [h.groups_eq, List.length_map]
  unfold Script.readArrowBody
  dsimp only
  rw [hlength]
  exact rel_ite (hbegin.withBraces (hbegin.braces.openBody (Correspondence.Unrestricted.begins _)))
    (hexpression.readStatement none t)

/-- A question mark that waits for the next token is settled alike. -/
theorem Corresponds.settleQuestion (h : Corresponds K s s') (t : Token) :
    Corresponds K (s.settleQuestion t) (s'.settleQuestion t) := by
  have hclear : Corresponds K { s with question := false } { s' with question := false } := by
    obtain ⟨b, hb, rfl⟩ := h
    exact ⟨b, hb, rfl⟩
  have hquestion : s'.question = s.question := by
    obtain ⟨b, hb, rfl⟩ := h
    rfl
  unfold Script.settleQuestion
  rw [hquestion]
  refine rel_ite (rel_ite hclear ?_) h
  obtain ⟨b, hb, heq⟩ := hclear.record 1
  rw [heq]
  exact ⟨b, hb, rfl⟩

/-- A token is read alike in every phase. -/
theorem Corresponds.readPhase [K.Unrestricted] (h : Corresponds K s s') (closed : Option Group) (t : Token) :
    Corresponds K (s.readPhase closed t) (s'.readPhase (closed.map (·.onLine K.line)) t) := by
  unfold Script.readPhase
  rw [h.phase_eq]
  cases s.phase with
  | statement => exact h.readStatement closed t
  | functionHead name functionLine => exact h.readFunctionHead name functionLine t
  | typeParameters name functionLine depth =>
    exact h.readTypeParameters name functionLine depth t.text
  | returnType g depth tokens => exact h.readReturnType g depth tokens t
  | arrowBody f => exact h.readArrowBody f t

/-- A token is read alike, once a closed group has passed its decisions on or has waited for the token. -/
theorem Corresponds.readToken [K.Unrestricted] (h : Corresponds K s s') (t : Token) :
    Corresponds K (s.readToken t) (s'.readToken t) := by
  have hsettled := h.settleQuestion t
  unfold Script.readToken
  dsimp only
  rw [hsettled.closedGroup_eq]
  cases (s.settleQuestion t).closedGroup with
  | none => exact hsettled.readPhase none t
  | some g =>
    have hopen := hsettled.withClosedGroup none
    refine rel_ite (hopen.readPhase (some g) t) ?_
    exact (hopen.release g).readPhase (some { g with decisions := 0 }) t

/-- The end of a line is read alike. -/
theorem Corresponds.endLine (h : Corresponds K s s') : Corresponds K s.endLine s'.endLine := by
  have hunlocked : Corresponds K { s with nameLocked := false } { s' with nameLocked := false } := by
    obtain ⟨b, hb, rfl⟩ := h
    exact ⟨b, hb, rfl⟩
  have hempty : s'.groups.isEmpty = s.groups.isEmpty := by rw [h.groups_eq, List.isEmpty_map]
  unfold Script.endLine
  rw [hempty]
  exact rel_ite (hunlocked.closeExpressions 0) h

/-- A newline is read alike: the phase, which is the same but for its lines, says what it ends. -/
theorem Corresponds.readNewline (h : Corresponds K s s') (implicit : Bool) :
    Corresponds K (s.readNewline implicit) (s'.readNewline implicit) := by
  have hended := h.withPhase .statement
  unfold Script.readNewline
  refine rel_ite h ?_
  rw [h.phase_eq]
  cases s.phase with
  | arrowBody f => exact h
  | returnType g depth tokens =>
    cases depth with
    | succ depth => exact h.endLine
    | zero =>
      cases tokens with
      | zero => exact h.endLine
      | succ tokens => exact (hended.release g).endLine
  | statement => exact h.endLine
  | functionHead name functionLine => exact h.endLine
  | typeParameters name functionLine depth => exact h.endLine

/-- A decision is counted alike. -/
theorem Corresponds.countDecision (h : Corresponds K s s') (text : String) :
    Corresponds K (s.countDecision text) (s'.countDecision text) := by
  have hrecord := h.record 1
  refine rel_ite ?_ hrecord
  obtain ⟨b, hb, rfl⟩ := h
  exact ⟨b, hb, rfl⟩

/-- The step of the correspondence: any token is read alike. -/
theorem Corresponds.read [K.Unrestricted] (h : Corresponds K s s') (table : DecisionTable) (t : Token) :
    Corresponds K (s.read table t) (s'.read table t) := by
  have hread := h.readToken t
  refine rel_ite (h.readNewline t.implicit) ?_
  have hcounted : Corresponds K
      (if t.isCode && table.decides t.text then (s.readToken t).countDecision t.text
        else s.readToken t)
      (if t.isCode && table.decides t.text then (s'.readToken t).countDecision t.text
        else s'.readToken t) :=
    rel_ite (hread.countDecision t.text) hread
  obtain ⟨b, hb, heq⟩ := hcounted
  dsimp only
  rw [heq]
  exact ⟨b, hb, rfl⟩

/-! ## The end -/

/-- At the end a closed group passes its decisions on alike. -/
theorem Corresponds.releaseClosed (h : Corresponds K s s') :
    Corresponds K s.releaseClosed s'.releaseClosed := by
  unfold Script.releaseClosed
  rw [h.closedGroup_eq]
  cases s.closedGroup with
  | none => exact h
  | some g => exact (h.release g).withClosedGroup none

/-- At the end the type of a result passes its decisions on alike. -/
theorem Corresponds.releaseReturnType (h : Corresponds K s s') :
    Corresponds K s.releaseReturnType s'.releaseReturnType := by
  unfold Script.releaseReturnType
  rw [h.phase_eq]
  cases s.phase with
  | returnType g depth tokens =>
    exact (h.release g).withPhase (.returnType { g with decisions := 0 } depth tokens)
  | statement => exact h
  | functionHead name functionLine => exact h
  | typeParameters name functionLine depth => exact h
  | arrowBody f => exact h

/-- Both passes end with the same refusal or none, and in corresponding states. -/
theorem Corresponds.finish (h : Corresponds K s s') :
    s'.finish.2 = s.finish.2 ∧ Corresponds K s.finish.1 s'.finish.1 := by
  have hend := h.releaseClosed.releaseReturnType.closeExpressions 0
  refine ⟨?_, hend⟩
  unfold Script.finish Braces.openAtEnd?
  dsimp only
  rw [hend.groups_eq, List.isEmpty_map, List.length_map, hend.braces.depth_eq]

end Script

end Cyclomatic.Recognizer
