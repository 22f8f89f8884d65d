import Mathlib
import Cyclomatic.Proofs.Recognizer.Refusal

/-!
# The order of columns

A pass over Python compares columns and does nothing else with them. So when all tokens are put in other
columns, in the same order, the pass finds the same functions or fails with the same error
(`Analysis.functionsOf_inColumns`). The states of the two passes differ in the columns that they hold
(`Indent.SameOrder`). Most operations neither look at these nor change them (`Indent.Blind`); the others are
the start of a logical line, the start of a header, and the opening of a function.
-/

namespace Cyclomatic

/-- The token in the column where it comes to lie. -/
def Token.inColumn (place : Int → Int) (t : Token) : Token :=
  { t with column := place t.column }

namespace Recognizer

variable {place : Int → Int} {columns : Set Int}

/-- The first columns of a list that are not left of one are those where they come to lie. -/
theorem takeWhile_inColumns (hplace : StrictMonoOn place columns) {indents : List Int}
    (hindents : ∀ indent ∈ indents, indent ∈ columns) {column : Int} (hcolumn : column ∈ columns) :
    (indents.map place).takeWhile (place column ≤ ·) = (indents.takeWhile (column ≤ ·)).map place := by
  induction indents with
  | nil => rfl
  | cons indent indents ih =>
    obtain ⟨hindent, hindents⟩ := List.forall_mem_cons.1 hindents
    rw [List.map_cons, List.takeWhile_cons, List.takeWhile_cons, ih hindents]
    simp only [hplace.le_iff_le hcolumn hindent]
    split <;> rfl

namespace Indent

/-! ## Operations that do not see columns -/

/-- The state with other columns. -/
def withColumns (s : Indent) (line header : Int) (indents : List Int) : Indent :=
  { s with lineIndent := line, functionIndent := header, indents }

/-- An operation that neither looks at columns nor changes them, and does not lead away from the start of a
line. -/
structure Blind (op : Indent → Indent) : Prop where
  withColumns (s : Indent) (line header : Int) (indents : List Int) :
    op (s.withColumns line header indents) = (op s).withColumns line header indents
  atLineStart (s : Indent) : (op s).atLineStart = false → s.atLineStart = false

theorem blind_id : Blind fun s => s :=
  ⟨fun _ _ _ _ => rfl, fun _ => id⟩

/-- Of two such operations, one where a condition holds that does not see columns, and the other elsewhere. -/
theorem Blind.ite {condition : Indent → Prop} [DecidablePred condition] {op op' : Indent → Indent}
    (hop : Blind op) (hop' : Blind op')
    (hcondition : ∀ s line header indents, condition (s.withColumns line header indents) ↔ condition s) :
    Blind fun s => if condition s then op s else op' s := by
  constructor
  · intro s line header indents
    simp only [hop.withColumns, hop'.withColumns, hcondition]
    split <;> rfl
  · intro s hs
    split at hs
    · exact hop.atLineStart s hs
    · exact hop'.atLineStart s hs

/-- A ledger has no columns. -/
theorem blind_mapLedger (f : Ledger → Ledger) : Blind (·.mapLedger f) :=
  ⟨fun _ _ _ _ => rfl, fun _ => id⟩

theorem blind_touch (breaks : Nat) : Blind fun s => { s with lastCodeLine := s.ledger.line + breaks } :=
  ⟨fun _ _ _ _ => rfl, fun _ => id⟩

theorem blind_followBrackets (text : String) : Blind (·.followBrackets text) :=
  .ite ⟨fun _ _ _ _ => rfl, fun _ => id⟩
    (.ite ⟨fun _ _ _ _ => rfl, fun _ => id⟩ blind_id fun _ _ _ _ => Iff.rfl) fun _ _ _ _ => Iff.rfl

theorem blind_releaseHeader : Blind releaseHeader :=
  ⟨fun _ _ _ _ => rfl, fun _ => id⟩

theorem blind_readName (t : Token) : Blind fun s =>
    if t.isCode ∧ isName t.text then { s with functionName := t.text, phase := .beforeParameters }
    else { s with phase := .outside } :=
  .ite ⟨fun _ _ _ _ => rfl, fun _ => id⟩ ⟨fun _ _ _ _ => rfl, fun _ => id⟩ fun _ _ _ _ => Iff.rfl

theorem blind_beforeParameters (text : String) : Blind (·.beforeParameters text) :=
  .ite ⟨fun _ _ _ _ => rfl, fun _ => id⟩
    (.ite ⟨fun _ _ _ _ => rfl, fun _ => id⟩ ⟨fun _ _ _ _ => rfl, fun _ => id⟩ fun _ _ _ _ => Iff.rfl)
    fun _ _ _ _ => Iff.rfl

theorem blind_inTypeParameters (text : String) : Blind (·.inTypeParameters text) :=
  .ite ⟨fun _ _ _ _ => rfl, fun _ => id⟩
    (.ite ⟨fun _ _ _ _ => rfl, fun _ => id⟩ blind_id fun _ _ _ _ => Iff.rfl) fun _ _ _ _ => Iff.rfl

theorem blind_inParameters (text : String) : Blind (·.inParameters text) :=
  ⟨fun _ _ _ _ => rfl, fun _ => id⟩

/-- A line break sees no column: the logical line that it begins has none yet. -/
theorem blind_readNewline (implicit : Bool) : Blind (·.readNewline implicit) :=
  .ite blind_id
    (.ite ⟨fun _ _ _ _ => rfl, fun _ h => by cases h⟩ ⟨fun _ _ _ _ => rfl, fun _ h => by cases h⟩
      fun _ _ _ _ => Iff.rfl)
    fun _ _ _ _ => Iff.rfl

theorem blind_countDecision (text : String) : Blind (·.countDecision text) :=
  .ite blind_id
    (.ite ⟨fun _ _ _ _ => rfl, fun _ => id⟩ ⟨fun _ _ _ _ => rfl, fun _ => id⟩ fun _ _ _ _ => Iff.rfl)
    fun _ _ _ _ => Iff.rfl

theorem phase_followBrackets (s : Indent) (text : String) : (s.followBrackets text).phase = s.phase := by
  unfold followBrackets
  split
  · rfl
  · split <;> rfl

theorem phase_countDecision (s : Indent) (text : String) : (s.countDecision text).phase = s.phase := by
  unfold countDecision
  split
  · rfl
  · split <;> rfl

/-! ## States of the two passes -/

/-- A state of the pass over the tokens in other columns. The column of the line counts while a line is being
read, and that of the header in a header. -/
inductive SameOrder (place : Int → Int) (columns : Set Int) (s : Indent) : Indent → Prop
  | intro (line header : Int) (hindents : ∀ indent ∈ s.indents, indent ∈ columns)
      (hline : s.atLineStart = false → s.lineIndent ∈ columns ∧ line = place s.lineIndent)
      (hheader : s.phase ≠ .outside → s.functionIndent ∈ columns ∧ header = place s.functionIndent) :
      SameOrder place columns s (s.withColumns line header (s.indents.map place))

variable {s s' : Indent}

/-- No header begins at a line break. -/
theorem phase_readNewline (implicit : Bool) (hs : s.phase = .outside) :
    (s.readNewline implicit).phase = .outside := by
  unfold readNewline
  rw [if_pos hs]
  split
  · exact hs
  · exact hs

/-- What an operation does that does not see columns is the same in both passes, unless it begins a header. -/
theorem SameOrder.of_blind (h : SameOrder place columns s s') {op : Indent → Indent} (hop : Blind op)
    (hphase : (op s).phase ≠ .outside → s.phase ≠ .outside) :
    SameOrder place columns (op s) (op s') := by
  obtain ⟨line, header, hindents, hline, hheader⟩ := h
  -- a state given its own columns is itself, so the operation keeps them
  have hkeeps : op s = (op s).withColumns s.lineIndent s.functionIndent s.indents :=
    hop.withColumns s _ _ _
  have hsame : (op s).indents = s.indents := by
    rw [hkeeps]
    rfl
  rw [hop.withColumns, ← hsame]
  refine .intro line header ?_ (fun hs => ?_) (fun hs => ?_)
  · rw [hsame]
    exact hindents
  · rw [hkeeps]
    exact hline (hop.atLineStart s hs)
  · rw [hkeeps]
    exact hheader (hphase hs)

/-! ## Logical lines -/

/-- The innermost function closes in both passes. -/
theorem SameOrder.closeInnermost (h : SameOrder place columns s s') :
    SameOrder place columns s.closeInnermost s'.closeInnermost := by
  obtain ⟨line, header, hindents, hline, hheader⟩ := h
  have hclosed : SameOrder place columns s.closeInnermost
      (s.closeInnermost.withColumns line header (s.indents.tail.map place)) :=
    .intro line header (fun indent hindent => hindents indent (List.mem_of_mem_tail hindent)) hline hheader
  rw [List.map_tail] at hclosed
  exact hclosed

/-- Functions that close in a row close in both passes. -/
theorem SameOrder.foldl_closeInnermost (h : SameOrder place columns s s') (closing : List Int) :
    SameOrder place columns (closing.foldl (fun s _ => s.closeInnermost) s)
      ((closing.map place).foldl (fun s _ => s.closeInnermost) s') := by
  induction closing generalizing s s' with
  | nil => exact h
  | cons indent closing ih => exact ih h.closeInnermost

/-- The first token of a logical line closes the same functions. -/
theorem SameOrder.beginLine (hplace : StrictMonoOn place columns) (h : SameOrder place columns s s')
    {column : Int} (hcolumn : column ∈ columns) :
    SameOrder place columns (s.beginLine column) (s'.beginLine (place column)) := by
  obtain ⟨line, header, hindents, hline, hheader⟩ := h
  unfold Indent.beginLine
  dsimp only [withColumns]
  refine rel_ite ?_ (.intro line header hindents hline hheader)
  unfold dedent
  dsimp only
  -- the functions to close are those of the same indentations, which lie elsewhere
  rw [takeWhile_inColumns hplace hindents hcolumn]
  refine SameOrder.foldl_closeInnermost ?_ _
  exact .intro (place column) header hindents (fun _ => ⟨hcolumn, rfl⟩) hheader

/-- After that the line has begun. -/
theorem atLineStart_beginLine (s : Indent) (column : Int) : (s.beginLine column).atLineStart = false := by
  have hfold (closing : List Int) (s : Indent) :
      (closing.foldl (fun s _ => s.closeInnermost) s).atLineStart = s.atLineStart := by
    induction closing generalizing s with
    | nil => rfl
    | cons indent closing ih => exact ih s.closeInnermost
  unfold Indent.beginLine
  cases hs : s.atLineStart with
  | true => exact hfold _ _
  | false => rfl

variable {t : Token}

/-- Lines and brackets are followed alike up to a token, wherever its column comes to lie. -/
theorem SameOrder.advance (hplace : StrictMonoOn place columns) (h : SameOrder place columns s s')
    (ht : t.column ∈ columns) : SameOrder place columns (s.advance t) (s'.advance (t.inColumn place)) := by
  have hbegun := (h.beginLine hplace ht).of_blind (blind_touch (lineBreaks t.text)) id
  refine rel_ite (hbegun.of_blind (blind_followBrackets t.text) ?_) hbegun
  rw [phase_followBrackets]
  exact id

theorem atLineStart_advance (s : Indent) (t : Token) : (s.advance t).atLineStart = false := by
  have hbegun := s.atLineStart_beginLine t.column
  unfold Indent.advance followBrackets
  split
  · split
    · exact hbegun
    · split
      · exact hbegun
      · exact hbegun
  · exact hbegun

/-! ## Headers -/

/-- A header stands in the column of its line. -/
theorem SameOrder.beginHeader (h : SameOrder place columns s s') (hs : s.atLineStart = false) :
    SameOrder place columns s.beginHeader s'.beginHeader := by
  obtain ⟨line, header, hindents, hline, _⟩ := h
  exact .intro line line hindents hline fun _ => hline hs

/-- The function that opens is closed by the column of its header. -/
theorem SameOrder.openBody (h : SameOrder place columns s s') (hphase : s.phase ≠ .outside) :
    SameOrder place columns s.openBody s'.openBody := by
  obtain ⟨line, header, hindents, hline, hheader⟩ := h
  obtain ⟨hmem, rfl⟩ := hheader hphase
  exact .intro line _ (List.forall_mem_cons.2 ⟨hmem, hindents⟩) hline fun hs => absurd rfl hs

/-- A token is read alike in every phase of a header. -/
theorem SameOrder.readPhase (h : SameOrder place columns s s') (hs : s.atLineStart = false) (t : Token) :
    SameOrder place columns (s.readPhase t) (s'.readPhase (t.inColumn place)) := by
  have hbegin := h.beginHeader hs
  have hopen := h.openBody
  have hname := h.of_blind (blind_readName t)
  have hbefore := h.of_blind (blind_beforeParameters t.text)
  have htypes := h.of_blind (blind_inTypeParameters t.text)
  have hparameters := h.of_blind (blind_inParameters t.text)
  have hphase : s'.phase = s.phase := by
    obtain ⟨_, _, _, _, _⟩ := h
    rfl
  have hdepth : s'.bracketDepth = s.bracketDepth := by
    obtain ⟨_, _, _, _, _⟩ := h
    rfl
  unfold Indent.readPhase
  rw [hphase]
  cases hs : s.phase with
  | outside => exact rel_ite hbegin h
  | name => exact hname fun _ => by rw [hs]; exact IndentPhase.noConfusion
  | beforeParameters => exact hbefore fun _ => by rw [hs]; exact IndentPhase.noConfusion
  | typeParameters => exact htypes fun _ => by rw [hs]; exact IndentPhase.noConfusion
  | parameters => exact hparameters fun _ => by rw [hs]; exact IndentPhase.noConfusion
  | returnType =>
    dsimp only
    rw [hdepth]
    exact rel_ite (hopen (by rw [hs]; exact IndentPhase.noConfusion)) h

/-! ## Passes -/

/-- The states of the two passes correspond after a token. -/
theorem SameOrder.read (hplace : StrictMonoOn place columns) (h : SameOrder place columns s s')
    (table : DecisionTable) (ht : t.column ∈ columns) :
    SameOrder place columns (s.read table t) (s'.read table (t.inColumn place)) := by
  have hread := (h.advance hplace ht).readPhase (s.atLineStart_advance t) t
  refine rel_ite (h.of_blind (blind_readNewline t.implicit) ?_) (rel_ite ?_ hread)
  · exact mt (phase_readNewline t.implicit)
  · refine hread.of_blind (blind_countDecision t.text) ?_
    rw [phase_countDecision]
    exact id

/-- A token is refused in both passes or in neither. -/
theorem SameOrder.refuses_eq (h : SameOrder place columns s s') (t : Token) :
    s'.refuses (t.inColumn place) = s.refuses t := by
  obtain ⟨_, _, _, _, _⟩ := h
  rfl

/-- Both passes have the same ledger. -/
theorem SameOrder.ledger_eq (h : SameOrder place columns s s') : s'.ledger = s.ledger := by
  obtain ⟨_, _, _, _, _⟩ := h
  rfl

/-- The two passes end alike. -/
theorem SameOrder.finish (h : SameOrder place columns s s') :
    s'.finish.2 = s.finish.2 ∧ SameOrder place columns s.finish.1 s'.finish.1 := by
  have hreleased := h.of_blind blind_releaseHeader id
  have hclosed := hreleased.foldl_closeInnermost s.indents
  obtain ⟨_, _, _, _, _⟩ := h
  exact rel_ite
    (R := fun (x x' : Indent × Option ScopeError) => x'.2 = x.2 ∧ SameOrder place columns x.1 x'.1)
    ⟨rfl, hreleased⟩ ⟨rfl, hclosed⟩

end Indent

/-- The two passes take in a token. -/
theorem Indent.SameOrder.feed (hplace : StrictMonoOn place columns) {s s' : Indent}
    (h : SameOrder place columns s s') (table : DecisionTable) {t : Token} (ht : t.column ∈ columns) :
    ∃ u u', (indent s).feed table t = indent u ∧ (indent s').feed table (t.inColumn place) = indent u' ∧
      SameOrder place columns u u' := by
  have hnewline : (t.inColumn place).isNewline = t.isNewline := rfl
  have hspan : (t.inColumn place).lineSpan = t.lineSpan := rfl
  unfold Recognizer.feed absorb
  rw [hnewline, hspan]
  split
  · exact ⟨_, _, rfl, rfl, (h.of_blind (blind_mapLedger Ledger.nextLine) id).read hplace table ht⟩
  · have hread := (h.of_blind (blind_mapLedger (·.announce t.lineSpan)) id).read hplace table ht
    exact ⟨_, _, rfl, rfl, hread.of_blind (blind_mapLedger (·.credit)) id⟩

/-- The two passes measure the same from here on. -/
theorem Indent.SameOrder.functionsAfter (hplace : StrictMonoOn place columns) {s s' : Indent}
    (h : SameOrder place columns s s') (table : DecisionTable) {ts : List Token}
    (hts : ∀ t ∈ ts, t.column ∈ columns) :
    (indent s').functionsAfter table (ts.map (·.inColumn place)) = (indent s).functionsAfter table ts := by
  induction ts generalizing s s' with
  | nil =>
    obtain ⟨herror, hfinish⟩ := h.finish
    have hledger := hfinish.ledger_eq
    show (indent s').conclude = (indent s).conclude
    cases hs : s.finish.2 with
    | some e =>
      rw [conclude_of_error (r := indent s) hs, conclude_of_error (r := indent s') (herror.trans hs)]
    | none =>
      rw [conclude_of_finish (r := indent s) hs, conclude_of_finish (r := indent s') (herror.trans hs)]
      show Except.ok s'.finish.1.ledger.closeAll.functions = _
      rw [hledger]
      rfl
  | cons t ts ih =>
    obtain ⟨ht, hts⟩ := List.forall_mem_cons.1 hts
    obtain ⟨u, u', hu, hu', hnext⟩ := h.feed hplace table ht
    have hrefuses : (indent s').refuses (t.inColumn place) = (indent s).refuses t := by
      show (!t.isNewline && s'.refuses (t.inColumn place)) = (!t.isNewline && s.refuses t)
      rw [h.refuses_eq]
    rw [List.map_cons, functionsAfter_cons, functionsAfter_cons, hrefuses, hu, hu', ih hnext hts]

end Recognizer

namespace Analysis

open Recognizer

/-- Only the order of columns matters to Python: when the tokens of a stream are put in other columns, in the
same order, the pass over them finds the same functions, or fails with the same error. -/
theorem functionsOf_inColumns {place : Int → Int} {ts : List Token}
    (hplace : StrictMonoOn place {column | ∃ t ∈ ts, t.column = column}) :
    functionsOf .python (ts.map (·.inColumn place)) = functionsOf .python ts := by
  have hstart : Indent.SameOrder place {column | ∃ t ∈ ts, t.column = column} (Indent.start 1)
      (Indent.start 1) :=
    .intro 0 0 (fun _ h => by cases h) (fun h => by cases h) fun h => absurd rfl h
  exact hstart.functionsAfter hplace _ fun t ht => ⟨t, ht, rfl⟩

/-- The tokens of a function in another one, which goes on after it. -/
def nestedFunctions : List Token :=
  sourceTokens .python "def f():\n  def g(a):\n    a\n  if x: y\nz"

/-- Columns eight times as wide, and all one further right, change neither function. -/
theorem functionsOf_inColumns_nestedFunctions :
    StrictMonoOn (fun column : Int => 8 * column + 1) {column | ∃ t ∈ nestedFunctions, t.column = column} ∧
      functionsOf .python (nestedFunctions.map (·.inColumn fun column => 8 * column + 1)) =
        .ok [⟨"g", 2, 3, 1, 2, 1, 2, 1⟩, ⟨"f", 1, 4, 2, 3, 0, 10, 0⟩] := by
  have hplace : StrictMonoOn (fun column : Int => 8 * column + 1)
      {column | ∃ t ∈ nestedFunctions, t.column = column} := by
    intro column _ column' _ hlt
    show 8 * column + 1 < 8 * column' + 1
    omega
  refine ⟨hplace, ?_⟩
  rw [functionsOf_inColumns hplace]
  decide +kernel

end Analysis

end Cyclomatic
