import Mathlib
import Cyclomatic.Proofs.Correspondence
import Cyclomatic.Proofs.Ledger.Moved
import Cyclomatic.Recognizer.Go
import Cyclomatic.Recognizer.Indent

/-!
# Go and Python on other lines

Passes over the same tokens on different lines correspond (`Relocation.correspondence`), so their braces agree
but for their ledgers (`Braces.Moved`). The same holds of the states of a pass over Go tokens; only what is left
of the last signature is of no account outside signatures (`Go.Moved`). The states of a pass over Python tokens
differ in the lines that they keep, and each register of a header counts only in the phases that read it
(`Indent.Moved`).
-/

namespace Cyclomatic

variable {C : Relocation}

/-! ## Braces -/

/-- The ledgers of passes on different lines go together. -/
def Relocation.correspondence (C : Relocation) : Correspondence where
  line := C.move
  begins := C.begins
  ledgers := Ledger.Moved C
  line_eq := Ledger.Moved.line_eq
  openFunction h _ hstart name params := h.openFunction hstart name params
  recordDecisions h count := h.recordDecisions count
  closeFunction h := h.closeFunction none

instance [C.Unrestricted] : C.correspondence.Unrestricted :=
  ⟨Relocation.Unrestricted.begins⟩

/-- The signature with its line where it comes to lie. -/
def Signature.moved (move : Int ↪o Int) (f : Signature) : Signature :=
  { f with startLine := move f.startLine }

namespace Braces

/-- The braces `b'` are those of the other pass. -/
structure Moved (C : Relocation) (b b' : Braces) : Prop where
  depth_eq : b'.depth = b.depth
  bodies_eq : b'.bodies = b.bodies
  ledger : Ledger.Moved C b.ledger b'.ledger

variable {b b' : Braces}

/-- Braces differ in their lines only when they correspond by the relocation. -/
theorem moved_iff_corresponds : Moved C b b' ↔ Corresponds C.correspondence b b' :=
  ⟨fun h => ⟨h.depth_eq, h.bodies_eq, h.ledger⟩, fun h => ⟨h.depth_eq, h.bodies_eq, h.ledger⟩⟩

/-- A block opens alike on other lines. -/
theorem Moved.openBlock (h : Moved C b b') : Moved C b.openBlock b'.openBlock :=
  moved_iff_corresponds.2 (moved_iff_corresponds.1 h).openBlock

/-- A body opens alike on other lines if functions may begin where it does. -/
theorem Moved.openBody (h : Moved C b b') {f : Signature} (hf : C.begins f.startLine) :
    Moved C (b.openBody f) (b'.openBody (f.moved C.move)) :=
  moved_iff_corresponds.2 ((moved_iff_corresponds.1 h).openBody hf)

/-- A closing brace is read alike on other lines. -/
theorem Moved.closeBrace (h : Moved C b b') : Moved C b.closeBrace b'.closeBrace :=
  moved_iff_corresponds.2 (moved_iff_corresponds.1 h).closeBrace

/-- As many braces are open at the end of both passes. -/
theorem Moved.openAtEnd?_eq (h : Moved C b b') : b'.openAtEnd? = b.openAtEnd? := by
  rw [Braces.openAtEnd?, Braces.openAtEnd?, h.depth_eq]

end Braces

namespace Recognizer

/-! ## Go -/

/-- The signature with its line where it comes to lie. -/
def GoSignature.moved (move : Int ↪o Int) (g : GoSignature) : GoSignature :=
  { g with startLine := move g.startLine }

namespace Go

/-- The state `s'` is that of the other pass. Outside signatures what is left of the last one is of no
account. -/
structure Moved (C : Relocation) (s s' : Go) : Prop where
  phase_eq : s'.phase = s.phase
  signature : s.phase ≠ .outside →
    s'.signature = s.signature.moved C.move ∧ C.begins s.signature.startLine
  braces : Braces.Moved C s.braces s'.braces

variable {s s' : Go} {text : String}

/-- Inside a signature the states are known in full. -/
theorem Moved.eq (h : Moved C s s') (hphase : s.phase ≠ .outside) :
    s' = ⟨s.phase, s.signature.moved C.move, s'.braces⟩ := by
  rw [← h.phase_eq, ← (h.signature hphase).1]

/-- A change of the ledgers that keeps them moved keeps the states so. -/
theorem Moved.mapLedger (h : Moved C s s') (f f' : Ledger → Ledger)
    (hf : Ledger.Moved C (f s.braces.ledger) (f' s'.braces.ledger)) :
    Moved C (s.mapLedger f) (s'.mapLedger f') :=
  ⟨h.phase_eq, h.signature, h.braces.depth_eq, h.braces.bodies_eq, hf⟩

/-- Outside signatures only the braces matter. -/
theorem moved_reset (hb : Braces.Moved C s.braces s'.braces) : Moved C s.reset s'.reset :=
  ⟨rfl, fun h => absurd rfl h, hb⟩

/-- A token outside signatures is read alike. A signature that begins does so on the current line, where
functions may begin. -/
theorem Moved.outside (h : Moved C s s') : Moved C (s.outside text) (s'.outside text) := by
  unfold Go.outside
  refine rel_ite ⟨rfl, fun _ => ⟨?_, h.braces.ledger.begins⟩, h.braces⟩
    (rel_ite ⟨h.phase_eq, h.signature, h.braces.openBlock⟩
      (rel_ite ⟨h.phase_eq, h.signature, h.braces.closeBrace⟩ h))
  show ({ startLine := s'.braces.ledger.line } : GoSignature) =
    { startLine := C.move s.braces.ledger.line }
  rw [h.braces.ledger.line_eq]

/-- A signature that turns out to be none is left alike, and its last token read outside. -/
theorem moved_abandon (hb : Braces.Moved C s.braces s'.braces) (text : String) :
    Moved C (s.abandon text) (s'.abandon text) :=
  (moved_reset hb).outside

section Signature

variable {phase : GoPhase} {g : GoSignature} {b b' : Braces}

/-- Inside a signature that begins where functions may begin. -/
theorem moved_inside (phase : GoPhase) (hg : C.begins g.startLine) (hb : Braces.Moved C b b') :
    Moved C ⟨phase, g, b⟩ ⟨phase, g.moved C.move, b'⟩ :=
  ⟨rfl, fun _ => ⟨rfl, hg⟩, hb⟩

variable (hg : C.begins g.startLine) (hb : Braces.Moved C b b')

include hg hb

/-- The body of a signature opens alike. -/
theorem moved_openBody (phase : GoPhase) :
    Moved C (openBody ⟨phase, g, b⟩) (openBody ⟨phase, g.moved C.move, b'⟩) :=
  ⟨rfl, fun h => absurd rfl h,
    hb.openBody (f := ⟨g.name, g.parameterCount, g.startLine, 0⟩) hg⟩

/-- A token of a group of parameters is read alike. -/
theorem moved_feedParameters (text : String) (next : GoPhase) :
    Moved C (feedParameters ⟨phase, g, b⟩ text next)
      (feedParameters ⟨phase, g.moved C.move, b'⟩ text next) :=
  rel_ite (moved_inside _ hg hb) (moved_inside _ hg hb)

/-- The token after the word that begins a signature is read alike. -/
theorem moved_afterFunc :
    Moved C (afterFunc ⟨phase, g, b⟩ text) (afterFunc ⟨phase, g.moved C.move, b'⟩ text) :=
  rel_ite (moved_inside _ hg hb) (rel_ite (moved_inside _ hg hb)
    (rel_ite (moved_openBody hg hb _) (moved_abandon hb text)))

/-- The token after the name is read alike. -/
theorem moved_afterName :
    Moved C (afterName ⟨phase, g, b⟩ text) (afterName ⟨phase, g.moved C.move, b'⟩ text) :=
  rel_ite (moved_inside _ hg hb) (rel_ite (moved_inside _ hg hb) (moved_abandon hb text))

/-- A token of type parameters is read alike. -/
theorem moved_typeParameters :
    Moved C (typeParameters ⟨phase, g, b⟩ text)
      (typeParameters ⟨phase, g.moved C.move, b'⟩ text) :=
  rel_ite (moved_inside _ hg hb) (rel_ite (moved_inside _ hg hb) (moved_inside _ hg hb))

/-- A token of the results is read alike, inside their brackets and outside. -/
theorem moved_results (phase : GoPhase) (text : String) :
    Moved C (results ⟨phase, g, b⟩ text) (results ⟨phase, g.moved C.move, b'⟩ text) := by
  have hsame (g : GoSignature) (hg : C.begins g.startLine) :
      Moved C ⟨phase, g, b⟩ ⟨phase, g.moved C.move, b'⟩ :=
    moved_inside phase hg hb
  unfold results
  dsimp only [GoSignature.moved]
  refine rel_ite (rel_ite (hsame _ hg) (rel_ite (hsame _ hg) (hsame g hg)))
    (rel_ite (hsame _ hg) (rel_ite ?_ ?_))
  · exact rel_ite (hsame _ hg) (rel_ite (moved_openBody hg hb phase) (hsame g hg))
  · exact rel_ite (hsame _ hg)
      (rel_ite (hsame _ hg) (rel_ite (moved_abandon hb text) (hsame g hg)))

/-- The token after the first group is read alike: a body, a name or a result. -/
theorem moved_afterFirstGroup :
    Moved C (afterFirstGroup ⟨phase, g, b⟩ text)
      (afterFirstGroup ⟨phase, g.moved C.move, b'⟩ text) :=
  rel_ite (moved_openBody hg hb _)
    (rel_ite (moved_inside _ hg hb) (moved_results hg hb .results text))

/-- The token after a word that may be the name of a method is read alike. -/
theorem moved_afterCandidate :
    Moved C (afterCandidate ⟨phase, g, b⟩ text)
      (afterCandidate ⟨phase, g.moved C.move, b'⟩ text) :=
  rel_ite (moved_inside _ hg hb)
    (rel_ite (moved_openBody hg hb _) (moved_results hg hb .results text))

end Signature

/-- Any code token is read alike, in each phase by the lemma on that phase. -/
theorem Moved.readCode (h : Moved C s s') (text : String) :
    Moved C (s.readCode text) (s'.readCode text) := by
  by_cases hphase : s.phase = .outside
  · rw [Go.readCode, Go.readCode, h.phase_eq, hphase]
    exact h.outside
  · have hg := (h.signature hphase).2
    rw [h.eq hphase]
    obtain ⟨phase, g, b⟩ := s
    unfold Go.readCode
    cases phase with
    | outside => exact absurd rfl hphase
    | afterFunc => exact moved_afterFunc hg h.braces
    | afterName => exact moved_afterName hg h.braces
    | typeParameters => exact moved_typeParameters hg h.braces
    | firstGroup => exact moved_feedParameters hg h.braces text .afterFirstGroup
    | afterFirstGroup => exact moved_afterFirstGroup hg h.braces
    | afterCandidate => exact moved_afterCandidate hg h.braces
    | parameters => exact moved_feedParameters hg h.braces text .results
    | results => exact moved_results hg h.braces .results text

/-- A newline ends the signature in both passes or in neither. -/
theorem Moved.endsAtNewline_eq (h : Moved C s s') : s'.endsAtNewline = s.endsAtNewline := by
  by_cases hphase : s.phase = .outside
  · rw [endsAtNewline, endsAtNewline, h.phase_eq, hphase]
  · rw [h.eq hphase]
    rfl

/-- A newline is read alike. -/
theorem Moved.readNewline (h : Moved C s s') (implicit : Bool) :
    Moved C (s.readNewline implicit) (s'.readNewline implicit) := by
  rw [Go.readNewline, Go.readNewline, h.endsAtNewline_eq]
  exact rel_ite (moved_reset h.braces) h

/-- Any token of Go is read alike on other lines. -/
theorem Moved.read (h : Moved C s s') (table : DecisionTable) (t : Token) :
    Moved C (s.read table t) (s'.read table t) := by
  refine rel_ite (h.readNewline _) (rel_ite ?_ h)
  have hread := h.readCode t.text
  refine rel_ite (hread.mapLedger _ _ ?_) hread
  exact hread.braces.ledger.recordDecisions 1

/-- On other lines a pass over Go ends with the same refusal or none. -/
theorem Moved.finish (h : Moved C s s') :
    s'.finish.2 = s.finish.2 ∧ Moved C s.finish.1 s'.finish.1 :=
  ⟨h.braces.openAtEnd?_eq, h⟩

end Go

/-! ## Python -/

namespace Indent

/-- The state `s'` is that of the other pass. The registers of a header are of account from the phase that
sets them to the one that reads them last. -/
structure Moved (C : Relocation) (s s' : Indent) : Prop where
  phase_eq : s'.phase = s.phase
  bracketDepth_eq : s'.bracketDepth = s.bracketDepth
  atLineStart_eq : s'.atLineStart = s.atLineStart
  firstOnLine_eq : s'.firstOnLine = s.firstOnLine
  lineIndent_eq : s'.lineIndent = s.lineIndent
  lastCodeLine_eq : s'.lastCodeLine = C.move s.lastCodeLine
  indents_eq : s'.indents = s.indents
  headerDecisions_eq : s'.headerDecisions = s.headerDecisions
  header : s.phase ≠ .outside → s'.functionName = s.functionName ∧
    s'.functionLine = C.move s.functionLine ∧ s'.functionIndent = s.functionIndent
  begins : s.phase ≠ .outside → C.begins s.functionLine
  typeParameterDepth_eq : s.phase = .typeParameters → s'.typeParameterDepth = s.typeParameterDepth
  parameters_eq : s.phase = .parameters ∨ s.phase = .returnType → s'.parameters = s.parameters
  ledger : Ledger.Moved C s.ledger s'.ledger

variable {s s' : Indent}

/-- A change of the ledgers that keeps them moved keeps the states so. -/
theorem Moved.mapLedger (h : Moved C s s') (f f' : Ledger → Ledger)
    (hf : Ledger.Moved C (f s.ledger) (f' s'.ledger)) :
    Moved C (s.mapLedger f) (s'.mapLedger f') :=
  { h with ledger := hf }

/-- The innermost function closes alike, on the last code line of either pass. -/
theorem Moved.closeInnermost (h : Moved C s s') : Moved C s.closeInnermost s'.closeInnermost where
  __ := h
  indents_eq := congrArg List.tail h.indents_eq
  ledger := by
    have hclose := h.ledger.closeFunction (some s.lastCodeLine)
    rwa [Option.map_some, ← h.lastCodeLine_eq] at hclose

/-- Functions that close in a row close alike. -/
theorem Moved.foldl_closeInnermost (h : Moved C s s') (indents : List Int) :
    Moved C (indents.foldl (fun s _ => s.closeInnermost) s)
      (indents.foldl (fun s _ => s.closeInnermost) s') := by
  induction indents generalizing s s' with
  | nil => exact h
  | cons indent indents ih => exact ih h.closeInnermost

/-- A column closes the same functions in both passes, since both have the same indents. -/
theorem Moved.dedent (h : Moved C s s') (column : Int) :
    Moved C (s.dedent column) (s'.dedent column) := by
  rw [Indent.dedent, Indent.dedent, h.indents_eq]
  exact h.foldl_closeInnermost _

/-- A logical line begins alike. -/
theorem Moved.beginLine (h : Moved C s s') (column : Int) :
    Moved C (s.beginLine column) (s'.beginLine column) := by
  have hbegun : Moved C
      { s with firstOnLine := true, atLineStart := false, lineIndent := column }
      { s' with firstOnLine := true, atLineStart := false, lineIndent := column } :=
    { h with firstOnLine_eq := rfl, atLineStart_eq := rfl, lineIndent_eq := rfl }
  unfold Indent.beginLine
  rw [h.atLineStart_eq]
  exact rel_ite (hbegun.dedent column) { h with atLineStart_eq := rfl, firstOnLine_eq := rfl }

/-- Brackets are followed alike. -/
theorem Moved.followBrackets (h : Moved C s s') (text : String) :
    Moved C (s.followBrackets text) (s'.followBrackets text) :=
  rel_ite { h with bracketDepth_eq := congrArg (· + 1) h.bracketDepth_eq }
    (rel_ite { h with bracketDepth_eq := congrArg (· - 1) h.bracketDepth_eq } h)

/-- Closing functions does not move the ledger. -/
theorem beginLine_line (s : Indent) (column : Int) :
    (s.beginLine column).ledger.line = s.ledger.line := by
  have hfold (indents : List Int) (s : Indent) :
      (indents.foldl (fun s _ => s.closeInnermost) s).ledger.line = s.ledger.line := by
    induction indents generalizing s with
    | nil => rfl
    | cons indent indents ih =>
      exact (ih s.closeInnermost).trans (Ledger.closeFunction_line _ _)
  unfold Indent.beginLine
  split
  · exact hfold _ _
  · rfl

/-- A token, once the functions that its line ends have closed. -/
theorem Moved.advance_of_beginLine {t : Token}
    (h : Moved C
      { s.beginLine t.column with
        lastCodeLine := (s.beginLine t.column).ledger.line + lineBreaks t.text }
      { s'.beginLine t.column with
        lastCodeLine := (s'.beginLine t.column).ledger.line + lineBreaks t.text }) :
    Moved C (s.advance t) (s'.advance t) :=
  rel_ite (h.followBrackets t.text) h

/-- Lines and brackets are followed alike up to a token whose lines lie together. -/
theorem Moved.advance (h : Moved C s s') {t : Token}
    (ht : Together C.move s.ledger.line (lineBreaks t.text)) :
    Moved C (s.advance t) (s'.advance t) := by
  have hbegun := h.beginLine t.column
  refine Moved.advance_of_beginLine { hbegun with lastCodeLine_eq := ?_ }
  rw [← s.beginLine_line t.column] at ht
  dsimp only
  rw [ht _ le_rfl, ← hbegun.ledger.line_eq]

/-- The decisions of a header are released alike. -/
theorem Moved.releaseHeader (h : Moved C s s') : Moved C s.releaseHeader s'.releaseHeader := by
  refine { h with headerDecisions_eq := rfl, ledger := ?_ }
  show Ledger.Moved C (s.ledger.recordDecisions s.headerDecisions)
    (s'.ledger.recordDecisions s'.headerDecisions)
  rw [h.headerDecisions_eq]
  exact h.ledger.recordDecisions s.headerDecisions

/-- The colon after a header opens the same function in both passes. -/
theorem Moved.openBody (h : Moved C s s') (hphase : s.phase = .returnType) :
    Moved C s.openBody s'.openBody := by
  have hinside : s.phase ≠ .outside := by rw [hphase]; exact IndentPhase.noConfusion
  obtain ⟨hname, hline, hindent⟩ := h.header hinside
  refine Moved.releaseHeader
    { h with
      phase_eq := rfl
      indents_eq := congrArg₂ List.cons hindent h.indents_eq
      header := fun h => absurd rfl h
      begins := fun h => absurd rfl h
      typeParameterDepth_eq := fun h => by cases h
      parameters_eq := fun h => by rcases h with h | h <;> cases h
      ledger := ?_ }
  dsimp only
  rw [hname, hline, h.parameters_eq (.inr hphase)]
  exact h.ledger.openFunction (h.begins hinside) s.functionName s.parameters.count

/-- A header begins alike, on the current line. -/
theorem Moved.beginHeader (h : Moved C s s') : Moved C s.beginHeader s'.beginHeader :=
  { h with
    phase_eq := rfl
    headerDecisions_eq := rfl
    header := fun _ => ⟨rfl, h.ledger.line_eq, h.lineIndent_eq⟩
    begins := fun _ => h.ledger.begins
    typeParameterDepth_eq := fun h => by cases h
    parameters_eq := fun h => by rcases h with h | h <;> cases h }

/-- A state outside headers. -/
theorem Moved.leave (h : Moved C s s') :
    Moved C { s with phase := .outside } { s' with phase := .outside } :=
  { h with
    phase_eq := rfl
    header := fun h => absurd rfl h
    begins := fun h => absurd rfl h
    typeParameterDepth_eq := fun h => by cases h
    parameters_eq := fun h => by rcases h with h | h <;> cases h }

/-- The token before the parameters is read alike. -/
theorem Moved.beforeParameters (h : Moved C s s') (hphase : s.phase = .beforeParameters)
    (text : String) : Moved C (s.beforeParameters text) (s'.beforeParameters text) := by
  have hinside : s.phase ≠ .outside := by rw [hphase]; exact IndentPhase.noConfusion
  refine rel_ite ?_ (rel_ite ?_ h.leave)
  · exact
      { h with
        phase_eq := rfl
        header := fun _ => h.header hinside
        begins := fun _ => h.begins hinside
        typeParameterDepth_eq := fun _ => rfl
        parameters_eq := fun h => by rcases h with h | h <;> cases h }
  · exact
      { h with
        phase_eq := rfl
        header := fun _ => h.header hinside
        begins := fun _ => h.begins hinside
        typeParameterDepth_eq := fun h => by cases h
        parameters_eq := fun _ => rfl }

/-- A token of type parameters is read alike. -/
theorem Moved.inTypeParameters (h : Moved C s s') (hphase : s.phase = .typeParameters)
    (text : String) : Moved C (s.inTypeParameters text) (s'.inTypeParameters text) := by
  have hinside : s.phase ≠ .outside := by rw [hphase]; exact IndentPhase.noConfusion
  have hdepth := h.typeParameterDepth_eq hphase
  refine rel_ite { h with typeParameterDepth_eq := fun _ => congrArg (· + 1) hdepth }
    (rel_ite ?_ h)
  exact
    { h with
      phase_eq := by dsimp only; rw [hdepth]
      header := fun _ => h.header hinside
      begins := fun _ => h.begins hinside
      typeParameterDepth_eq := fun _ => congrArg (· - 1) hdepth
      parameters_eq := fun h => by
        dsimp only at h
        split at h <;> rcases h with h | h <;> cases h }

/-- A token of the parameters is read alike. -/
theorem Moved.inParameters (h : Moved C s s') (hphase : s.phase = .parameters) (text : String) :
    Moved C (s.inParameters text) (s'.inParameters text) := by
  have hinside : s.phase ≠ .outside := by rw [hphase]; exact IndentPhase.noConfusion
  have hparameters := h.parameters_eq (.inl hphase)
  unfold Indent.inParameters
  rw [hparameters]
  exact
    { h with
      phase_eq := rfl
      header := fun _ => h.header hinside
      begins := fun _ => h.begins hinside
      typeParameterDepth_eq := fun h => by
        dsimp only at h
        split at h <;> cases h
      parameters_eq := fun _ => rfl }

/-- A token is read alike in every phase of a header. -/
theorem Moved.readPhase (h : Moved C s s') (t : Token) :
    Moved C (s.readPhase t) (s'.readPhase t) := by
  unfold Indent.readPhase
  rw [h.phase_eq]
  cases hphase : s.phase with
  | outside => exact rel_ite h.beginHeader h
  | name =>
    have hinside : s.phase ≠ .outside := by rw [hphase]; exact IndentPhase.noConfusion
    refine rel_ite ?_ h.leave
    exact
      { h with
        phase_eq := rfl
        header := fun _ => ⟨rfl, (h.header hinside).2⟩
        begins := fun _ => h.begins hinside
        typeParameterDepth_eq := fun h => by cases h
        parameters_eq := fun h => by rcases h with h | h <;> cases h }
  | beforeParameters => exact h.beforeParameters hphase t.text
  | typeParameters => exact h.inTypeParameters hphase t.text
  | parameters => exact h.inParameters hphase t.text
  | returnType =>
    dsimp only
    rw [h.bracketDepth_eq]
    exact rel_ite (h.openBody hphase) h

/-- A newline is read alike: an implicit one, and one inside brackets, ends nothing. -/
theorem Moved.readNewline (h : Moved C s s') (implicit : Bool) :
    Moved C (s.readNewline implicit) (s'.readNewline implicit) := by
  unfold Indent.readNewline
  rw [h.bracketDepth_eq, h.phase_eq]
  refine rel_ite h (rel_ite ?_ (Moved.releaseHeader ?_))
  · exact { h with phase_eq := rfl, bracketDepth_eq := rfl, atLineStart_eq := rfl }
  · exact { h.leave with bracketDepth_eq := rfl, atLineStart_eq := rfl }

/-- A decision is counted alike, for the header inside one and for the innermost function elsewhere. -/
theorem Moved.countDecision (h : Moved C s s') (text : String) :
    Moved C (s.countDecision text) (s'.countDecision text) := by
  unfold Indent.countDecision
  rw [h.firstOnLine_eq, h.phase_eq, h.headerDecisions_eq]
  refine rel_ite h (rel_ite ?_ ?_)
  · exact { h with phase_eq := rfl, firstOnLine_eq := rfl, headerDecisions_eq := rfl }
  · exact
      { h with
        phase_eq := rfl
        firstOnLine_eq := rfl
        headerDecisions_eq := rfl
        ledger := h.ledger.recordDecisions 1 }

/-- A token that is no line break, once lines and brackets are followed up to it. -/
theorem Moved.read_of_advance {t : Token} (h : Moved C (s.advance t) (s'.advance t))
    (table : DecisionTable) (ht : t.isNewline = false) :
    Moved C (s.read table t) (s'.read table t) := by
  have hread := h.readPhase t
  have hnot : ¬ t.isNewline = true := by rw [ht]; exact Bool.false_ne_true
  rw [Indent.read, Indent.read, if_neg hnot, if_neg hnot]
  exact rel_ite (hread.countDecision t.text) hread

/-- Any token of Python is read alike if its lines lie together. -/
theorem Moved.read (h : Moved C s s') (table : DecisionTable) {t : Token}
    (ht : t.isNewline = false → Together C.move s.ledger.line (lineBreaks t.text)) :
    Moved C (s.read table t) (s'.read table t) := by
  cases hn : t.isNewline with
  | true =>
    rw [Indent.read, Indent.read, if_pos hn, if_pos hn]
    exact h.readNewline t.implicit
  | false => exact (h.advance (ht hn)).read_of_advance table hn

/-- A token is refused in both passes or in neither. -/
theorem Moved.refuses_eq (h : Moved C s s') (t : Token) : s'.refuses t = s.refuses t := by
  rw [Indent.refuses, Indent.refuses, h.phase_eq]

/-- On other lines a pass over Python ends with the same refusal or none. -/
theorem Moved.finish (h : Moved C s s') :
    s'.finish.2 = s.finish.2 ∧ Moved C s.finish.1 s'.finish.1 := by
  have hrelease := h.releaseHeader
  have hclosed := hrelease.foldl_closeInnermost s.releaseHeader.indents
  unfold Indent.finish
  dsimp only
  rw [hrelease.bracketDepth_eq, hrelease.indents_eq]
  split
  · exact ⟨rfl, hrelease⟩
  · exact ⟨rfl, hclosed⟩

end Indent

end Recognizer

end Cyclomatic
