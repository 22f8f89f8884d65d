import Mathlib
import Cyclomatic.Proofs.CodeLines
import Cyclomatic.Proofs.Forest
import Cyclomatic.Proofs.Indentation

/-!
# The nesting of functions

Functions are reported as they close, and so in post-order: those inside a function before the function
itself. The list is that of a forest in which the nodes have the depths that are reported
(`Analysis.functions_form_forest`). In Go and Python the lines of a function lie among those of the function
around it.

While a pass goes on, each open function has the forest of what has closed right inside it, one deeper than
itself, and there is one such forest outside all functions (`Growing`). A function that opens has nothing
inside it yet, and a function that closes becomes a root over its forest in the forest of the next one.

For the lines it matters where headers begin. Between the first token of a header and its body no function
opens or closes, so a function begins no earlier than the functions around it (`Recognizer.Rising`).
-/

namespace Cyclomatic

open Recognizer

/-! ## Open functions -/

/-- What the nesting of an open function is about: where it begins, and how many functions are around it. -/
structure Standing where
  startLine : Int
  depth : Nat

/-- The standing of an open function. -/
def Frame.standing (f : Frame) : Standing :=
  ⟨f.startLine, f.nestingDepth⟩

/-- The standings of the open functions, innermost first. -/
def Ledger.standings (l : Ledger) : List Standing :=
  l.frames.map (·.standing)

@[simp] theorem Ledger.length_standings (l : Ledger) : l.standings.length = l.depth := by
  rw [standings, List.length_map, depth]

namespace Recognizer

/-- The line where the last header begins, in a grammar where nothing opens or closes inside a header. -/
def headerLine? : Recognizer → Option Int
  | go s => some s.signature.startLine
  | script _ => none
  | indent s => some s.functionLine

theorem isSome_headerLine?_run (table : DecisionTable) (r : Recognizer) (ts : List Token) :
    (r.run table ts).headerLine?.isSome = r.headerLine?.isSome := by
  induction ts generalizing r with
  | nil => rfl
  | cons t ts ih =>
    rw [run_cons, ih]
    unfold feed
    cases r <;> split <;> rfl

/-! ## What opens -/

/-- A move opens the body of the signature that has been read, or no function at all. -/
theorem Go.Move.starts {first next : Int} {b c : Braces} (h : Go.Move first b next c) :
    c.ledger.functions.length + c.ledger.depth = b.ledger.functions.length + b.ledger.depth ∨
      c.ledger.frames.map (·.startLine) =
        min first b.ledger.line :: b.ledger.frames.map (·.startLine) := by
  cases h with
  | stay => exact .inl rfl
  | openBlock => exact .inl rfl
  | closeBrace => exact .inl (Braces.ledger_closeBrace b).length_functions_add_depth
  | openBody => exact .inr (Ledger.map_frames_recordDecisions _ _ (·.startLine) fun _ _ => rfl)

/-- A token opens the function whose signature has been read, or none. -/
theorem Go.read_starts (table : DecisionTable) (s : Go) {t : Token} (ht : t.isNewline = false) :
    (s.read table t).braces.ledger.functions.length + (s.read table t).braces.ledger.depth =
        s.braces.ledger.functions.length + s.braces.ledger.depth ∨
      (s.read table t).braces.ledger.frames.map (·.startLine) =
        min s.signature.startLine s.braces.ledger.line ::
          s.braces.ledger.frames.map (·.startLine) := by
  rw [read, if_neg (by simp [ht])]
  split
  · have hmove := Move.starts (readCode_moves s t.text)
    dsimp only
    split
    · rw [mapLedger, Ledger.recordDecisions_functions, Ledger.recordDecisions_depth,
        Ledger.map_frames_recordDecisions _ _ (·.startLine) fun _ _ => rfl]
      exact hmove
    · exact hmove
  · exact .inl rfl

variable {r : Recognizer} {t : Token}

/-- The first lines of the open functions after a token that opens one. -/
theorem starts_of_opens (table : DecisionTable) (hr : r.Sound) (hagrees : r.ScopesAgree)
    (ht : t.isNewline = false) (hopens : r.opens table t = true)
    (htotal : (r.feed table t).ledger.functions.length + (r.feed table t).ledger.depth =
      r.ledger.functions.length + r.ledger.depth + 1) :
    ∀ first ∈ r.headerLine?, (r.feed table t).ledger.frames.map (·.startLine) =
      min first r.ledger.line :: r.ledger.frames.map (·.startLine) := by
  intro first hfirst
  have hstarts (l : Ledger) : (l.credit).frames.map (·.startLine) = l.frames.map (·.startLine) :=
    Ledger.map_frames_credit l _ (·.startLine) fun _ _ _ => rfl
  rw [feed_of_not_isNewline _ _ ht, absorb, ledger_mapLedger] at htotal ⊢
  rw [Ledger.credit_functions, Ledger.credit_depth] at htotal
  rw [hstarts]
  cases r with
  | go s =>
    obtain rfl := Option.some.inj hfirst
    rcases Go.read_starts table (s.mapLedger (·.announce t.lineSpan)) ht with hsame | hopened
    · exact absurd (hsame.symm.trans htotal) (Nat.lt_succ_self _).ne
    · exact hopened
  | script s => cases hfirst
  | indent s =>
    obtain rfl := Option.some.inj hfirst
    rw [(Indent.feed_counts table hr hagrees ht).2] at hopens
    exact Indent.read_starts table (s.mapLedger (·.announce t.lineSpan))
      (Sound.announce (r := .indent s) hr _) ht hopens

/-- What a token does to the open functions: it opens one at most, which begins with its header, and closes
some from the innermost outwards. -/
theorem feed_standings (table : DecisionTable) (hr : r.Sound) (hagrees : r.ScopesAgree)
    (hidle : r.ledger.pending = .idle) (hline : t.isNewline = false → r.ledger.line = t.line) :
    ∃ closing opened, (r.feed table t).ledger.functions =
        r.ledger.functions ++ Ledger.measures closing ∧
      closing.map (·.1.standing) ++ (r.feed table t).ledger.standings =
        opened ++ r.ledger.standings ∧
      (opened = [] ∨ ∃ start, opened = [⟨start, r.ledger.depth⟩] ∧
        ∀ first ∈ r.headerLine?, start = min first r.ledger.line) := by
  cases ht : t.isNewline with
  | true =>
    obtain ⟨closing, _, hfunctions, _, hrow, _⟩ := feed_newline_frames table hidle ht
    have hstandings := congrArg (List.map Frame.standing) hrow
    rw [List.map_append, List.map_map, List.map_map, List.map_map] at hstandings
    exact ⟨closing, [], hfunctions, hstandings, .inl rfl⟩
  | false =>
    obtain ⟨closing, opened, _, hfunctions, hopened, _, hrow, _⟩ :=
      feed_frames table hr ht (hline ht)
    have hstandings := congrArg (List.map Frame.standing) hrow
    rw [map_modify_of_forall (f := (·.credit t.line (lineBreaks t.text))) (g := Frame.standing)
      (fun _ => rfl), List.map_append, List.map_append, List.map_map,
      List.map_map, List.map_map] at hstandings
    refine ⟨closing, opened.map Frame.standing, hfunctions, hstandings, ?_⟩
    rcases hopened with ⟨rfl, _⟩ | ⟨⟨name, params, start, rfl⟩, hopens, _⟩
    · exact .inl rfl
    · refine .inr ⟨_, rfl, fun first hfirst => ?_⟩
      -- one function more is open or closed, and where headers matter it is open
      have hlength := congrArg List.length hstandings
      simp only [List.length_append, List.length_map] at hlength
      have hstarts := starts_of_opens table hr hagrees ht hopens (by
        rw [hfunctions, List.length_append, Ledger.measures, List.length_map, Ledger.depth,
          Ledger.depth]
        simp only [List.length_singleton] at hlength
        omega) first hfirst
      have hdepth := congrArg List.length hstarts
      simp only [List.length_map, List.length_cons] at hdepth
      obtain rfl : closing = [] := by
        rw [← List.length_eq_zero_iff]
        simp only [List.length_singleton] at hlength
        omega
      have hfirsts := congrArg (List.map Standing.startLine) hstandings
      rw [List.map_nil, List.nil_append, List.map_map, List.map_append, List.map_map] at hfirsts
      exact (List.cons.inj (hfirsts.symm.trans hstarts)).1

/-! ## Headers -/

theorem Indent.readPhase_functionLine (s : Indent) (t : Token) :
    (s.readPhase t).functionLine = s.functionLine ∨
      (s.readPhase t).functionLine = s.ledger.line := by
  unfold readPhase
  cases s.phase with
  | outside =>
    dsimp only
    split
    · exact .inr rfl
    · exact .inl rfl
  | name =>
    dsimp only
    split <;> exact .inl rfl
  | beforeParameters =>
    dsimp only [beforeParameters]
    split
    · exact .inl rfl
    · split <;> exact .inl rfl
  | typeParameters =>
    dsimp only [inTypeParameters]
    split
    · exact .inl rfl
    · split <;> exact .inl rfl
  | parameters => exact .inl rfl
  | returnType =>
    dsimp only
    split <;> exact .inl rfl

/-- A token of Python begins a header on the present line, or none. -/
theorem Indent.read_functionLine (table : DecisionTable) (s : Indent) (hs : s.Sound)
    (ht : t.isNewline = false) : (s.read table t).functionLine = s.functionLine ∨
      (s.read table t).functionLine = s.ledger.line := by
  have hphase := readPhase_functionLine (s.advance t) t
  rw [(advance_aligns s t hs).functionLine_eq, (advance_advances s t hs).settles.line_eq] at hphase
  rw [read, if_neg (by simp [ht])]
  dsimp only
  split
  · rw [(countDecision_heads (s.readToken t) t.text).2.2.1]
    exact hphase
  · exact hphase

/-- A token of Go begins a signature on the present line, or none. -/
theorem Go.read_startLine (table : DecisionTable) (s : Go) (ht : t.isNewline = false) :
    (s.read table t).signature.startLine = s.signature.startLine ∨
      (s.read table t).signature.startLine = s.braces.ledger.line := by
  rw [read, if_neg (by simp [ht])]
  split
  · have hmove : (s.readCode t.text).signature.startLine = s.signature.startLine ∨
        (s.readCode t.text).signature.startLine = s.braces.ledger.line := by
      have hmoves := readCode_moves s t.text
      rw [Moves] at hmoves
      generalize (s.readCode t.text).signature.startLine = next at hmoves
      generalize (s.readCode t.text).braces = b at hmoves
      cases hmoves with
      | stay h => exact h
      | openBlock h => exact h
      | closeBrace h => exact h
      | openBody => exact .inr rfl
    dsimp only
    split <;> exact hmove
  · exact .inl rfl

/-- The last header stays the same, or one has begun on the present line or the next. -/
theorem headerLine?_feed (table : DecisionTable) (hr : r.Sound) (t : Token) :
    ∀ next ∈ (r.feed table t).headerLine?, ∃ first ∈ r.headerLine?,
      next = first ∨ r.ledger.line ≤ next := by
  intro next hnext
  cases ht : t.isNewline with
  | true =>
    rw [feed_of_isNewline _ _ ht] at hnext
    cases r with
    | go s =>
      obtain rfl := Option.some.inj hnext
      refine ⟨_, rfl, ?_⟩
      rw [Go.read, if_pos ht, Go.readNewline]
      split
      · exact .inr (Int.le_add_one le_rfl)
      · exact .inl rfl
    | script s => cases hnext
    | indent s =>
      obtain rfl := Option.some.inj hnext
      refine ⟨_, rfl, .inl ?_⟩
      rw [Indent.read, if_pos ht, Indent.readNewline]
      split
      · rfl
      · split <;> rfl
  | false =>
    rw [feed_of_not_isNewline _ _ ht] at hnext
    cases r with
    | go s =>
      obtain rfl := Option.some.inj hnext
      exact ⟨_, rfl, (Go.read_startLine table (s.mapLedger (·.announce t.lineSpan)) ht).imp_right ge_of_eq⟩
    | script s => cases hnext
    | indent s =>
      obtain rfl := Option.some.inj hnext
      exact ⟨_, rfl, (Indent.read_functionLine table (s.mapLedger (·.announce t.lineSpan))
        (Sound.announce (r := .indent s) hr _) ht).imp_right ge_of_eq⟩

/-- Where headers matter, functions begin no earlier than the functions around them, and no later than the
last header. -/
def Rising (r : Recognizer) : Prop :=
  ∀ first ∈ r.headerLine?,
    r.ledger.standings.Pairwise (fun inner outer => outer.startLine ≤ inner.startLine) ∧
      ∀ f ∈ r.ledger.standings, f.startLine ≤ first

/-- Functions that a token opens begin no earlier than those that were open. -/
theorem Rising.cons (h : r.Rising) (hstarted : r.ledger.Started) {first start : Int}
    (hfirst : first ∈ r.headerLine?) (hstart : start = min first r.ledger.line) :
    ∀ f ∈ r.ledger.standings, f.startLine ≤ start := by
  intro f hf
  rw [hstart]
  refine le_min ((h first hfirst).2 f hf) ?_
  obtain ⟨g, hg, rfl⟩ := List.mem_map.1 hf
  exact hstarted g hg

theorem Rising.feed (h : r.Rising) (table : DecisionTable) (hr : r.Sound) (hagrees : r.ScopesAgree)
    (hstarted : r.ledger.Started) (hidle : r.ledger.pending = .idle)
    (hline : t.isNewline = false → r.ledger.line = t.line) : (r.feed table t).Rising := by
  intro next hnext
  obtain ⟨first, hfirst, hheader⟩ := headerLine?_feed table hr t next hnext
  obtain ⟨hsorted, hbounded⟩ := h first hfirst
  obtain ⟨closing, opened, _, hrow, hopened⟩ := feed_standings table hr hagrees hidle hline
  have hreached : ∀ f ∈ r.ledger.standings, f.startLine ≤ r.ledger.line := by
    intro f hf
    obtain ⟨g, hg, rfl⟩ := List.mem_map.1 hf
    exact hstarted g hg
  -- what is left open is the end of a row that is in order
  have hall : (opened ++ r.ledger.standings).Pairwise
        (fun inner outer => outer.startLine ≤ inner.startLine) ∧
      ∀ f ∈ opened ++ r.ledger.standings, f.startLine ≤ first ∧ f.startLine ≤ r.ledger.line := by
    rcases hopened with rfl | ⟨start, rfl, hstart⟩
    · exact ⟨hsorted, fun f hf => ⟨hbounded f hf, hreached f hf⟩⟩
    · have hstart := hstart first hfirst
      refine ⟨List.pairwise_cons.2 ⟨h.cons hstarted hfirst hstart, hsorted⟩, fun f hf => ?_⟩
      rcases List.mem_cons.1 hf with rfl | hf
      · rw [hstart]
        exact ⟨min_le_left _ _, min_le_right _ _⟩
      · exact ⟨hbounded f hf, hreached f hf⟩
  rw [← hrow, List.pairwise_append] at hall
  refine ⟨hall.1.2.1, fun f hf => ?_⟩
  obtain ⟨hle, hle'⟩ := hall.2 f (List.mem_append_right _ hf)
  rcases hheader with rfl | hnext
  · exact hle
  · exact hle'.trans hnext

end Recognizer

/-! ## Forests that grow -/

/-- The nesting depth of a function in a list. -/
def depthOf (f : FunctionMeasure × Nat) : Int :=
  f.1.nestingDepth

/-- Whether the functions of a forest begin where those around them allow it. -/
def StartsNest (nests : Int → Int → Prop) (F : Forest (FunctionMeasure × Nat)) : Prop :=
  ∀ parent child, F.IsParent parent child → nests parent.1.startLine child.1.startLine

/-- Open functions, innermost first, and the functions that have closed, in closing order: inside each open
function there is a forest of functions that have closed, and one outside all of them. -/
inductive Growing (nests : Int → Int → Prop) :
    List Standing → List (FunctionMeasure × Nat) → Prop
  | outside (F : Forest (FunctionMeasure × Nat)) (hdepths : F.HasDepths depthOf 0)
      (hnest : StartsNest nests F) : Growing nests [] F.postorder
  | inside {row : List Standing} {nodes : List (FunctionMeasure × Nat)} (h : Growing nests row nodes)
      (f : Standing) (hdepth : f.depth = row.length)
      (hstart : ∀ g ∈ row.head?, nests g.startLine f.startLine)
      (F : Forest (FunctionMeasure × Nat)) (hdepths : F.HasDepths depthOf (f.depth + 1))
      (hnest : StartsNest nests F) (hroots : ∀ x ∈ F.roots, nests f.startLine x.1.startLine) :
      Growing nests (f :: row) (nodes ++ F.postorder)

namespace Growing

variable {nests : Int → Int → Prop} {row : List Standing} {nodes : List (FunctionMeasure × Nat)}
  {f : Standing}

/-- A function that opens has nothing inside it. -/
theorem opens (h : Growing nests row nodes) (hdepth : f.depth = row.length)
    (hstart : ∀ g ∈ row.head?, nests g.startLine f.startLine) : Growing nests (f :: row) nodes := by
  have hgrown := h.inside f hdepth hstart .empty trivial (fun _ _ h => h.elim) (by simp [Forest.roots])
  rwa [Forest.postorder, List.append_nil] at hgrown

/-- A forest with one tree more. -/
theorem startsNest_snoc {before inside : Forest (FunctionMeasure × Nat)} {x : FunctionMeasure × Nat}
    (hbefore : StartsNest nests before) (hinside : StartsNest nests inside)
    (hroots : ∀ y ∈ inside.roots, nests x.1.startLine y.1.startLine) :
    StartsNest nests (before.snoc inside x) := by
  rintro parent child (h | h | ⟨rfl, h⟩)
  · exact hbefore parent child h
  · exact hinside parent child h
  · exact hroots child h

/-- A function that closes is the root of what has closed inside it. -/
theorem close (h : Growing nests (f :: row) nodes) {x : FunctionMeasure × Nat}
    (hstart : x.1.startLine = f.startLine) (hdepth : x.1.nestingDepth = f.depth) :
    Growing nests row (nodes ++ [x]) := by
  cases h with
  | inside h f hlength hnests inside hinside hnest hroots =>
    rw [← hstart] at hroots
    cases h with
    | outside before hbefore hnest' =>
      rw [List.append_assoc]
      refine .outside (before.snoc inside x) ⟨hbefore, ?_, ?_⟩ (startsNest_snoc hnest' hnest hroots)
      · rwa [hlength] at hinside
      · rw [depthOf, hdepth, hlength]
        rfl
    | inside h g hlength' hnests' before hbefore hnest' hroots' =>
      rw [List.append_assoc, List.append_assoc]
      rw [List.length_cons, ← hlength'] at hlength
      refine .inside h g hlength' hnests' (before.snoc inside x) ⟨hbefore, ?_, ?_⟩
        (startsNest_snoc hnest' hnest hroots) ?_
      · rw [hlength] at hinside
        exact_mod_cast hinside
      · rw [depthOf, hdepth, hlength]
        rfl
      · intro y hy
        rcases List.mem_append.1 hy with hy | hy
        · exact hroots' y hy
        · rw [List.mem_singleton.1 hy, hstart]
          exact hnests g rfl

/-- Functions close one after the other. -/
theorem closes {closing : List (Frame × Int)} {fs : List FunctionMeasure}
    (h : Growing nests (closing.map (·.1.standing) ++ row) fs.zipIdx) :
    Growing nests row (fs ++ Ledger.measures closing).zipIdx := by
  induction closing generalizing fs with
  | nil => simpa [Ledger.measures] using h
  | cons c closing ih =>
    have hclosed := h.close (x := (c.1.measure c.2, fs.length)) rfl rfl
    rw [show fs.zipIdx ++ [(c.1.measure c.2, fs.length)] = (fs ++ [c.1.measure c.2]).zipIdx by
      rw [List.zipIdx_append]; simp] at hclosed
    have hrest := ih hclosed
    rwa [List.append_assoc] at hrest

/-- Outside all functions there is one forest. -/
theorem exists_forest (h : Growing nests [] nodes) :
    ∃ F : Forest (FunctionMeasure × Nat), F.postorder = nodes ∧ F.HasDepths depthOf 0 ∧
      StartsNest nests F := by
  cases h with
  | outside F hdepths hnest => exact ⟨F, rfl, hdepths, hnest⟩

end Growing

namespace Analysis

variable {language : Language} {source : String} {before after : List Token} {t : Token}

/-! ## The pass over a text -/

/-- How the first lines of functions that are nested in a text of a language are related. -/
def StartsInOrder (language : Language) (outer inner : Int) : Prop :=
  (start language).headerLine?.isSome = true → outer ≤ inner

/-- What is open and what has closed at each point of a pass forms a forest that grows. -/
theorem growing_before (h : sourceTokens language source = before ++ after) :
    (passBefore language before).Rising ∧
      Growing (StartsInOrder language) (passBefore language before).ledger.standings
        (passBefore language before).ledger.functions.zipIdx := by
  refine forall_beginning (P := fun before => (passBefore language before).Rising ∧
    Growing (StartsInOrder language) (passBefore language before).ledger.standings
      (passBefore language before).ledger.functions.zipIdx) ?_ ?_ h
  · rw [passBefore, run_nil, Rising, ledger_start]
    exact ⟨fun _ _ => ⟨.nil, by simp [Ledger.standings]⟩, .outside .empty trivial fun _ _ h => h.elim⟩
  · rintro before t after hsplit ⟨hrising, hgrowing⟩
    have hsound := passBefore_sound language before
    have hagrees : (passBefore language before).ScopesAgree :=
      scopesAgree_run _ (scopesAgree_start language 1) (sound_start language 1) before
    have hstarted := passBefore_started language before
    have hidle := passBefore_idle language before
    have hline := (ledger_line_before language hsplit).2
    have hheader := isSome_headerLine?_run (.of language) (start language) before
    rw [passBefore, run_append, run_cons, run_nil]
    rw [passBefore] at hrising hgrowing hsound hagrees hstarted hidle
    refine ⟨hrising.feed _ hsound hagrees hstarted hidle hline, ?_⟩
    obtain ⟨closing, opened, hfunctions, hrow, hopened⟩ :=
      feed_standings (.of language) hsound hagrees hidle hline
    rw [hfunctions]
    apply Growing.closes
    rw [hrow]
    rcases hopened with rfl | ⟨first, rfl, hfirst⟩
    · exact hgrowing
    · refine hgrowing.opens (Ledger.length_standings _).symm ?_
      intro g hg hheaders
      rw [← hheader, Option.isSome_iff_exists] at hheaders
      obtain ⟨line, hline⟩ := hheaders
      exact hrising.cons hstarted hline (hfirst line hline) g (List.mem_of_mem_head? hg)

/-- The line on which functions end does not move back at a token, and functions that the token closes end
on it or on the next. -/
theorem endingLine_step (h : sourceTokens language source = before ++ t :: after) :
    (passBefore language before).endingLine ≤ (passBefore language (before ++ [t])).endingLine ∧
      ∀ f ∈ (passBefore language before).closedBy (.of language) t,
        (passBefore language before).endingLine ≤ f.endLine ∧
          f.endLine ≤ (passBefore language (before ++ [t])).endingLine := by
  have hsplit : sourceTokens language source = (before ++ [t]) ++ after := by simpa using h
  by_cases hpython : language = .python
  · subst hpython
    have hle : lastTouched before ≤ lastTouched (before ++ [t]) := by
      rw [lastTouched_concat]
      cases ht : t.isNewline with
      | true => exact le_rfl
      | false =>
        have := lastTouched_le_line h ht
        simp only [Bool.false_eq_true, if_false, Token.lastLine]
        omega
    rw [endingLine_python h, endingLine_python hsplit]
    refine ⟨hle, fun f hf => ?_⟩
    rw [endLine_of_python h hf]
    exact ⟨le_rfl, hle⟩
  · have hnext := endingLine_nextLine (passBefore language before)
    rw [endingLine_of_ne_python hpython, endingLine_of_ne_python hpython] at *
    rw [List.countP_append, List.countP_singleton]
    refine ⟨by omega, fun f hf => ?_⟩
    have hend := endLine_of_mem_closedBy hf
    cases ht : t.isNewline with
    | true =>
      rw [ht, if_pos rfl] at hend
      simp only [if_true]
      omega
    | false =>
      rw [ht, if_neg (by simp), endingLine_of_ne_python hpython] at hend
      omega

/-- Functions end in the order in which they close. -/
theorem endLines_before (h : sourceTokens language source = before ++ after) :
    (passBefore language before).ledger.functions.Pairwise (fun f g => f.endLine ≤ g.endLine) ∧
      ∀ f ∈ (passBefore language before).ledger.functions,
        f.endLine ≤ (passBefore language before).endingLine := by
  refine forall_beginning (P := fun before =>
    (passBefore language before).ledger.functions.Pairwise (fun f g => f.endLine ≤ g.endLine) ∧
      ∀ f ∈ (passBefore language before).ledger.functions,
        f.endLine ≤ (passBefore language before).endingLine) ?_ ?_ h
  · rw [passBefore, run_nil, ledger_start]
    exact ⟨.nil, by simp [Ledger.functions]⟩
  · rintro before t after hsplit ⟨hsorted, hbounded⟩
    obtain ⟨hstep, hclosed⟩ := endingLine_step hsplit
    have hfunctions : (passBefore language (before ++ [t])).ledger.functions =
        (passBefore language before).ledger.functions ++
          (passBefore language before).closedBy (.of language) t := by
      obtain ⟨more, hmore⟩ := functions_isPrefix_run (.of language) (passBefore_sound language before) [t]
      rw [passBefore, run_append, ← hmore]
      exact congrArg _ (closedBy_eq _ hmore.symm).symm
    rw [hfunctions]
    refine ⟨List.pairwise_append.2 ⟨hsorted, ?_, ?_⟩, ?_⟩
    · refine List.pairwise_of_forall_mem_list fun f hf g hg => ?_
      exact ((endLine_of_mem_closedBy hf).trans (endLine_of_mem_closedBy hg).symm).le
    · exact fun f hf g hg => (hbounded f hf).trans (hclosed g hg).1
    · intro f hf
      rcases List.mem_append.1 hf with hf | hf
      · exact (hbounded f hf).trans hstep
      · exact (hclosed f hf).2

/-! ## The end of the text -/

/-- At the end of a pass that ends well there is one forest, of all functions that have closed. -/
theorem growing_finish (hsucc : (recognize language source).2 = none) :
    Growing (StartsInOrder language) [] (recognize language source).1.ledger.functions.zipIdx := by
  obtain ⟨_, hgrowing⟩ := growing_before (List.append_nil (sourceTokens language source)).symm
  have hframes := recognize_frames_eq_nil hsucc
  obtain ⟨_, _, hsettles, _⟩ :=
    finish_settles (passBefore_sound language (sourceTokens language source)) hsucc
  obtain ⟨closing, hfunctions, hrow, _⟩ :=
    hsettles.idle_row (passBefore_idle language (sourceTokens language source))
  rw [recognize] at hframes ⊢
  rw [passBefore] at *
  rw [hframes, List.map_nil, List.append_nil] at hrow
  rw [hfunctions]
  apply Growing.closes
  have hstandings := congrArg (List.map Frame.standing) hrow
  rw [List.map_map, List.map_map] at hstandings
  rw [List.append_nil, show closing.map (·.1.standing) = _ from hstandings]
  exact hgrowing

/-- The functions of a text end in the order in which they are reported. -/
theorem endLines_finish (hsucc : (recognize language source).2 = none) :
    (recognize language source).1.ledger.functions.Pairwise fun f g => f.endLine ≤ g.endLine := by
  obtain ⟨hsorted, hbounded⟩ :=
    endLines_before (List.append_nil (sourceTokens language source)).symm
  obtain ⟨closing, hfunctions, hclosing⟩ := finish_endsOn
    (passBefore_sound language (sourceTokens language source))
    (passBefore_started language (sourceTokens language source)) hsucc
  rw [recognize, hfunctions]
  refine List.pairwise_append.2 ⟨hsorted, ?_, ?_⟩
  · refine List.pairwise_of_forall_mem_list fun f hf g hg => ?_
    exact ((hclosing f hf).trans (hclosing g hg).symm).le
  · intro f hf g hg
    rw [hclosing g hg]
    exact hbounded f hf

/-- No function ends before it begins. -/
theorem startLine_le_endLine (hsucc : (recognize language source).2 = none) :
    ∀ f ∈ (recognize language source).1.ledger.functions, f.startLine ≤ f.endLine := by
  obtain ⟨_, hcovers⟩ := recognize_covers hsucc
  refine ((List.forall₂_and_left _ _).1 (hcovers.imp fun f e hfe => ⟨?_, hfe⟩)).1
  obtain ⟨l, hl⟩ := hfe.nonempty
  have hwithin := (hfe.within l hl).2
  exact hwithin.1.trans hwithin.2

/-- A text that is measured function by function: its functions are reported in post-order. The last of
them is outside all others, the depth falls by one at most from a function to the next, and there is a
forest with the functions as its nodes at their depths, in which the parent of a function that is inside
others is the next later function that is less deep by one. In Go and Python the lines of a function lie
among those of its parent. -/
theorem functions_form_forest {filename : String} {a : Analysis}
    (h : byFunction language filename source = .ok a) :
    (∀ f ∈ a.functions.getLast?, f.nestingDepth = 0) ∧
    a.functions.IsChain (fun f g => f.nestingDepth - 1 ≤ g.nestingDepth) ∧
    ∃ F : Forest (FunctionMeasure × Nat),
      F.postorder = a.functions.zipIdx ∧ F.HasDepths (·.1.nestingDepth) 0 ∧
      (∀ before f after, a.functions.zipIdx = before ++ f :: after → 0 < f.1.nestingDepth →
        ∃ parent, after.find? (fun g => g.1.nestingDepth == f.1.nestingDepth - 1) = some parent ∧
          ∀ g, F.IsParent g f ↔ g = parent) ∧
      (language = .go ∨ language = .python → ∀ parent f, F.IsParent parent f →
        parent.1.startLine ≤ f.1.startLine ∧ f.1.startLine ≤ f.1.endLine ∧
          f.1.endLine ≤ parent.1.endLine) := by
  have hreports := byFunction_reports h
  obtain ⟨F, hpostorder, hdepths, hnest⟩ := (growing_finish hreports.succeeds).exists_forest
  have hends := endLines_finish hreports.succeeds
  have hextents := startLine_le_endLine hreports.succeeds
  rw [← hreports.functions_eq] at hpostorder hends hextents
  have hfst : F.postorder.map (·.1) = a.functions := by
    rw [hpostorder, List.zipIdx_map_fst]
  refine ⟨?_, ?_, F, hpostorder, hdepths, ?_, ?_⟩
  · intro f hf
    rw [← hfst, List.getLast?_map] at hf
    obtain ⟨x, hx, rfl⟩ := Option.mem_map.1 hf
    exact Forest.depth_getLast? hdepths x hx
  · rw [← hfst, List.isChain_map]
    exact Forest.isChain_postorder hdepths
  · intro before f after hsplit hf
    have hnodup : F.postorder.Nodup := by
      rw [hpostorder]
      exact (List.nodup_zipIdx_map_snd _).of_map
    exact Forest.isParent_iff hdepths hnodup (hpostorder.trans hsplit) hf
  · intro hlanguage parent f hparent
    have hheaders : (start language).headerLine?.isSome = true := by
      rcases hlanguage with rfl | rfl <;> rfl
    obtain ⟨xs, ys, zs, hlist, _⟩ := Forest.split_of_isParent hdepths hparent
    rw [hlist] at hfst
    rw [← hfst] at hends hextents
    refine ⟨hnest parent f hparent hheaders, hextents f.1 (by simp), ?_⟩
    -- a function is listed before its parent, and ends no later
    rw [List.map_append, List.map_cons, List.pairwise_append, List.pairwise_cons] at hends
    exact hends.2.1.1 parent.1 (by simp)

/-- A Go function with a function literal in it, and another function. -/
def deferred : String :=
  "func f() \x7b\n\tdefer func() \x7b g() \x7d()\n\x7d\nfunc h() \x7b\x7d"

/-- The functions of that text, with their places in the report. -/
def deferredFunctions : List (FunctionMeasure × Nat) :=
  [(⟨"(anonymous)", 2, 2, 1, 1, 0, 5, 1⟩, 0), (⟨"f", 1, 3, 1, 3, 0, 8, 0⟩, 1),
    (⟨"h", 4, 4, 1, 1, 0, 2, 0⟩, 2)]

/-- The measures of that text. -/
def deferredMeasured : Analysis where
  totalCcn := 3
  nloc := 4
  tokenCount := 23
  decisionPoints := 0
  functions := deferredFunctions.map (·.1)
  language := some .go
  filename := ""

/-- The literal is the child of the function around it, and the other function stands beside them. -/
theorem functions_form_forest_deferred :
    byFunction .go "" deferred = .ok deferredMeasured ∧
      ∃ F : Forest (FunctionMeasure × Nat), F.postorder = deferredFunctions ∧
        F.IsParent (⟨"f", 1, 3, 1, 3, 0, 8, 0⟩, 1) (⟨"(anonymous)", 2, 2, 1, 1, 0, 5, 1⟩, 0) ∧
        (1 : Int) ≤ 2 ∧ (2 : Int) ≤ 3 := by
  have hmeasured : byFunction .go "" deferred = .ok deferredMeasured := by
    decide +kernel
  obtain ⟨_, _, F, hpostorder, _, hparent, hcontained⟩ := functions_form_forest hmeasured
  obtain ⟨parent, hnext, hiff⟩ := hparent [] _ _ rfl (by decide)
  obtain rfl := Option.some.inj (hnext.symm.trans rfl)
  have hchild := (hiff _).2 rfl
  exact ⟨hmeasured, F, hpostorder, hchild, (hcontained (.inl rfl) _ _ hchild).1,
    (hcontained (.inl rfl) _ _ hchild).2.2⟩

end Analysis

end Cyclomatic
