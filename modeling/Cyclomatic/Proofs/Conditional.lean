import Mathlib
import Cyclomatic.Analysis
import Cyclomatic.Proofs.Brackets
import Cyclomatic.Proofs.Recognizer.Colon

/-!
# The colon of a conditional

After `front ? middle :` the colon should be the middle of the conditional. It is ordinary code unless the
conditional has been forgotten: by a semicolon in the middle, wherever that stands, or because the middle
begins with a token that makes the question mark an optional marker (`Script.colon_of_conditional`). Then a
parenthesis before the colon is taken for the parameters of a function with a return type
(`Analysis.conditional_forgotten`).
-/

namespace Cyclomatic

namespace Recognizer

namespace Script

variable {s : Script} {t : Token}

/-- A colon begins a return type only after a parenthesis, and only if nothing waits for it. -/
theorem readColon_phase (hs : s.phase = .statement) (closed : Option Group) :
    (s.readColon closed).phase = .statement ∨
      (∃ g, closed = some g ∧ (s.readColon closed).phase = .returnType g 0 0) ∧ s.ternaries = 0 ∧
        s.inCase = false := by
  have hbegin : s.beginEntry.phase = .statement := (beginEntry_keeps s).phase_eq.trans hs
  obtain ⟨hternaries, hcase⟩ := Prod.mk.inj (colons_beginEntry s)
  unfold readColon
  dsimp only
  cases closed with
  | none =>
    dsimp only
    split
    · exact .inl hbegin
    · split
      · exact .inl hbegin
      · exact .inl ((takeName_keeps _).phase_eq.trans hbegin)
  | some g =>
    dsimp only
    -- whether or not the group is released, the registers are those of before
    generalize hx : (if (s.beginEntry.inCase || decide (0 < s.beginEntry.ternaries) || g.isControl) = true then
      s.beginEntry.release g else s.beginEntry) = x
    have hkept : x.phase = .statement ∧ x.ternaries = s.ternaries ∧ x.inCase = s.inCase := by
      rw [← hx]
      split
      · obtain ⟨hternaries', hcase'⟩ := Prod.mk.inj (colons_release s.beginEntry g)
        exact ⟨(release_keeps _ g).phase_eq.trans hbegin, hternaries'.trans hternaries, hcase'.trans hcase⟩
      · exact ⟨hbegin, hternaries, hcase⟩
    obtain ⟨hphase, hternaries, hcase⟩ := hkept
    split
    · exact .inl hphase
    · rename_i hno
      split
      · exact .inl hphase
      · rename_i hnone
        split
        · exact .inl ((takeName_keeps x).phase_eq.trans hphase)
        · exact .inr ⟨⟨g, rfl, rfl⟩, by omega, by simpa [hcase] using hno⟩

theorem readStatement_colon (ht : t.IsText ":") (closed : Option Group) :
    s.readStatement closed t = (s.declare ":").readColon closed :=
  (readStatement_signature s closed ht.1).2.2 ht.2

/-- In a phase that reads no return type a colon is ordinary code, or one of the tokens of type parameters, or
it begins a return type. -/
theorem readPhase_colon (hreturn : ¬s.InReturnType) (ht : t.IsText ":") (closed : Option Group) :
    (s.readPhase closed t).phase = .statement ∨
      (s.InTypeParameters ∧ (s.readPhase closed t).phase = s.phase) ∨
      (∃ g, closed = some g ∧ (s.readPhase closed t).phase = .returnType g 0 0) ∧ s.ternaries = 0 ∧
        s.inCase = false := by
  have hstatement (x : Script) (hx : x.phase = .statement) : (x.readStatement none t).phase = .statement := by
    rw [readStatement_colon ht]
    refine (readColon_phase ((declare_keeps x _).phase_eq.trans hx) none).resolve_right ?_
    rintro ⟨⟨g, hnone, _⟩, _⟩
    cases hnone
  unfold readPhase
  cases hp : s.phase with
  | statement =>
    have hread := readColon_phase ((declare_keeps s ":").phase_eq.trans hp) closed
    obtain ⟨hternaries, hcase⟩ := Prod.mk.inj (colons_declare s ":")
    rw [hternaries, hcase] at hread
    dsimp only
    rw [readStatement_colon ht]
    exact hread.imp_right .inr
  | functionHead name functionLine =>
    left
    dsimp only
    rw [readFunctionHead, ht.1, ht.2, if_neg (by decide), if_neg (by decide), if_neg (by decide),
      if_neg (by simp [show isName ":" = false by decide]), if_neg (by decide)]
    exact hstatement _ rfl
  | typeParameters name functionLine depth =>
    refine .inr (.inl ⟨⟨name, functionLine, depth, hp⟩, ?_⟩)
    dsimp only
    rw [readTypeParameters, ht.2, if_neg (by decide), if_neg (by decide), hp]
  | returnType g depth tokens => exact absurd ⟨g, depth, tokens, hp⟩ hreturn
  | arrowBody f =>
    left
    dsimp only
    rw [readArrowBody, ht.2, if_neg (by simp)]
    exact hstatement _ rfl

/-- A colon begins a return type only after a parenthesis that the token before it closed. -/
theorem readToken_colon (hreturn : ¬s.InReturnType) (ht : t.IsText ":") :
    (s.readToken t).phase = .statement ∨ (s.InTypeParameters ∧ (s.readToken t).phase = s.phase) ∨
      (∃ g, (s.readToken t).phase = .returnType g 0 0) ∧ s.closedGroup ≠ none ∧ s.ternaries = 0 ∧
        s.inCase = false := by
  obtain ⟨hsettled, hgroup, -⟩ := settleQuestion_frame s t
  obtain ⟨hternaries, hcase⟩ := Prod.mk.inj (colons_settleQuestion s t)
  have hmarks : (t.isCode && marksOptional t.text) = true := by
    rw [ht.1, ht.2]
    decide
  rw [hmarks, Bool.not_true, Bool.and_false, Bool.toNat_false, Nat.add_zero] at hternaries
  have hreturn' : ¬(s.settleQuestion t).InReturnType := by rwa [inReturnType_congr hsettled]
  have htypes := (inTypeParameters_congr hsettled).1
  unfold readToken
  dsimp only
  cases hclosed : (s.settleQuestion t).closedGroup with
  | none =>
    rcases readPhase_colon hreturn' ht none with h | ⟨hin, h⟩ | ⟨⟨g, hnone, -⟩, -⟩
    · exact .inl h
    · exact .inr (.inl ⟨htypes hin, h.trans hsettled⟩)
    · cases hnone
  | some g =>
    dsimp only
    rw [if_pos ((keepsSignature_iff t).2 ⟨ht.1, .inr (.inr ht.2)⟩)]
    rcases readPhase_colon (s := { s.settleQuestion t with closedGroup := none }) hreturn' ht (some g) with
      h | ⟨hin, h⟩ | ⟨⟨g', -, h⟩, hzero, hno⟩
    · exact .inl h
    · exact .inr (.inl ⟨htypes hin, h.trans hsettled⟩)
    · refine .inr (.inr ⟨⟨g', h⟩, ?_, hternaries.symm.trans hzero, hcase.symm.trans hno⟩)
      rw [← hgroup, hclosed]
      exact Option.some_ne_none g

/-- Counting a token as a decision does not change the phase. -/
theorem read_phase (table : DecisionTable) (hn : t.isNewline = false) :
    (s.read table t).phase = (s.readToken t).phase := by
  unfold read
  rw [if_neg (by simp [hn])]
  dsimp only
  split
  · unfold countDecision
    split
    · rfl
    · exact (record_keeps _ 1).phase_eq
  · rfl

theorem feed_colon (table : DecisionTable) (hreturn : ¬s.InReturnType) (ht : t.IsText ":") :
    ∃ s', (script s).feed table t = script s' ∧
      (s'.phase = .statement ∨ (s.InTypeParameters ∧ s'.phase = s.phase) ∨
        (∃ g, s'.phase = .returnType g 0 0) ∧ s.closedGroup ≠ none ∧ s.ternaries = 0) := by
  have hn := Token.isNewline_of_isCode ht.1
  refine ⟨_, feed_script_token hn, ?_⟩
  have hread := readToken_colon (s := s.mapLedger (·.announce t.lineSpan)) hreturn ht
  rw [← read_phase table hn] at hread
  rcases hread with h | ⟨hin, h⟩ | ⟨htype, hclosed, hzero, -⟩
  · exact .inl h
  · exact .inr (.inl ⟨hin, h⟩)
  · exact .inr (.inr ⟨htype, hclosed, hzero⟩)

/-- The tokens between the question mark and the colon. A conditional goes on waiting for its colon unless the
first of them makes the question mark an optional marker or one of them is a semicolon. -/
theorem run_middle (table : DecisionTable) {ts : List Token} (hts : Plain ts)
    (hreturn : ¬s.InReturnType) (hcase : s.inCase = false) (hquestion : s.question = true)
    (hclosed : s.closedGroup = none) :
    ∃ s', (script s).run table ts = script s' ∧ ¬s'.InReturnType ∧
      (s'.InTypeParameters → s.InTypeParameters ∨ ∃ t ∈ ts, t.text = "<") ∧
      (s'.closedGroup ≠ none → (∃ t ∈ ts.getLast?, t.text = ")") ∧
        (s'.ternaries = 0 → (∃ t ∈ ts, t.text = ";") ∨
          ∃ t ∈ ts.head?, marksOptional t.text = true)) := by
  cases ts with
  | nil => exact ⟨s, rfl, hreturn, .inl, fun h => absurd hclosed h⟩
  | cons t ts =>
    obtain ⟨hcode, hmark, hcolon, hcase'⟩ := hts t List.mem_cons_self
    obtain ⟨x, hfeed, hpasses, hx⟩ :=
      feed_passes table (Token.isNewline_of_isCode hcode) hreturn hcolon hcase'
    rw [beq_false_of_ne hmark, Bool.and_false] at hx
    obtain ⟨hternaries, hsame⟩ := Prod.mk.inj (colons_settleQuestion s t)
    obtain ⟨s', hrun, hreturn', -, -, hkept, htypes, hlast⟩ :=
      run_plain table (fun u hu => hts u (List.mem_cons_of_mem _ hu)) hpasses.not_inReturnType
        (hpasses.inCase_eq (hsame.trans hcase)) hx
    refine ⟨s', by rw [run_cons, hfeed, hrun], hreturn', fun hin => ?_,
      fun hgroup => ⟨?_, fun hzero => ?_⟩⟩
    · rcases htypes hin with hin | ⟨u, hu, hangle⟩
      · refine (hpasses.typeParameters hin).imp ?_ fun hangle => ⟨t, List.mem_cons_self, hangle⟩
        exact (inTypeParameters_congr (settleQuestion_frame s t).1).1
      · exact .inr ⟨u, List.mem_cons_of_mem _ hu, hangle⟩
    · rcases hlast with hnone | ⟨rfl, hsame⟩ | ⟨u, hu, hparen⟩
      · exact absurd hnone hgroup
      · rw [hsame] at hgroup
        exact ⟨t, rfl, hpasses.closedGroup_eq.resolve_left hgroup⟩
      · exact ⟨u, List.mem_getLast?_cons hu, hparen⟩
    · by_contra hno
      rw [not_or] at hno
      obtain ⟨hsemicolon, hmarks⟩ := hno
      -- the first token settles that the question mark waits for a colon
      have hone : (s.settleQuestion t).ternaries = s.ternaries + 1 := by
        have hmark : marksOptional t.text = false := Bool.eq_false_iff.2 fun h => hmarks ⟨t, rfl, h⟩
        rw [hternaries, hquestion, hmark, Bool.and_false]
        rfl
      have hfirst := hpasses.ternaries_eq.resolve_right fun h => hsemicolon ⟨t, List.mem_cons_self, h⟩
      have hrest := hkept.resolve_right fun ⟨u, hu, h⟩ => hsemicolon ⟨u, List.mem_cons_of_mem _ hu, h⟩
      omega

end Script

open Script

/-- After `front ? middle :` the colon has been read as ordinary code, unless type parameters are still open. It
begins a return type only after a parenthesis, and only if a semicolon stands in the middle or the middle
begins with a token that makes the question mark an optional marker. -/
theorem colon_of_conditional {language : Language} (h : IsScript language) (line : Int)
    {front middle : List Token} {question colon : Token} (hfront : Plain front) (hmiddle : Plain middle)
    (hquestion : question.IsText "?") (hcolon : colon.IsText ":") :
    ∃ s, (Recognizer.start language line).run (.of language) (front ++ question :: (middle ++ [colon])) =
        script s ∧
      (s.phase = .statement ∨
        (s.InTypeParameters ∧ ∃ t ∈ front ++ middle, t.text = "<") ∨
        (∃ g, s.phase = .returnType g 0 0) ∧ (∃ t ∈ middle.getLast?, t.text = ")") ∧
          ((∃ t ∈ middle, t.text = ";") ∨ ∃ t ∈ middle.head?, marksOptional t.text = true)) := by
  have hstart : Recognizer.start language line = script (Script.start line) := by
    rcases h with rfl | rfl <;> rfl
  have hdecides : (DecisionTable.of language).decides "?" = true := by
    rcases h with rfl | rfl <;> decide
  obtain ⟨x, hx, hreturn, hcase, -, -, htypes, -⟩ :=
    run_plain (.of language) (s := Script.start line) hfront (not_inReturnType_of_statement rfl) rfl rfl
  obtain ⟨y, hy, hpasses, hwaits⟩ :=
    feed_passes (.of language) (Token.isNewline_of_isCode hquestion.1) hreturn
      (by rw [hquestion.2]; decide) (by rw [hquestion.2]; decide)
  rw [hquestion.1, hquestion.2, hdecides] at hwaits
  have hcase' : (x.settleQuestion question).inCase = false :=
    (Prod.mk.inj (colons_settleQuestion x question)).2.trans hcase
  obtain ⟨z, hz, hreturn', htypes', hclosed⟩ := run_middle (.of language) hmiddle hpasses.not_inReturnType
    (hpasses.inCase_eq hcase') hwaits (hpasses.closedGroup_eq.resolve_right (by rw [hquestion.2]; decide))
  obtain ⟨s, hs, hphase⟩ := feed_colon (.of language) hreturn' hcolon
  refine ⟨s, ?_, ?_⟩
  · rw [hstart, run_append, hx, run_cons, hy, run_append, hz, run_cons, run_nil, hs]
  · rcases hphase with hphase | ⟨hin, hphase⟩ | ⟨hphase, hgroup, hzero⟩
    · exact .inl hphase
    · refine .inr (.inl ⟨(inTypeParameters_congr hphase).2 hin, ?_⟩)
      -- the question mark opens no type parameters, so these are those of the front
      have hangle : question.text ≠ "<" := by
        rw [hquestion.2]
        decide
      rcases htypes' hin with hin | ⟨t, ht, htext⟩
      · have hin := (hpasses.typeParameters hin).resolve_right hangle
        rw [inTypeParameters_congr (settleQuestion_frame x question).1] at hin
        obtain ⟨t, ht, htext⟩ := (htypes hin).resolve_left (not_inTypeParameters_of_statement rfl)
        exact ⟨t, List.mem_append_left _ ht, htext⟩
      · exact ⟨t, List.mem_append_right _ ht, htext⟩
    · exact .inr (.inr ⟨hphase, (hclosed hgroup).1, (hclosed hgroup).2 hzero⟩)

/-- The tokens of `v = c`. -/
def assignmentFront : List Token :=
  codeTokens ["v", "=", "c"]

theorem plain_assignmentFront : Plain assignmentFront := by
  unfold Plain assignmentFront
  decide

/-- A call in the middle of a conditional, as in `v = c ? f(a, b) : d`. -/
theorem colon_of_conditional_call :
    (IsScript .typescript ∧ Plain assignmentFront ∧ Plain (codeTokens ["f", "(", "a", ",", "b", ")"])) ∧
    ∃ s, (Recognizer.start .typescript 1).run (.of .typescript)
        (assignmentFront ++ { kind := .code, text := "?" } ::
          (codeTokens ["f", "(", "a", ",", "b", ")"] ++ [{ kind := .code, text := ":" }])) = script s ∧
      s.phase = .statement := by
  have hmiddle : Plain (codeTokens ["f", "(", "a", ",", "b", ")"]) := by
    unfold Plain
    decide
  have hquestion : Token.IsText { kind := .code, text := "?" } "?" := by decide
  have hcolon : Token.IsText { kind := .code, text := ":" } ":" := by decide
  refine ⟨⟨.inl rfl, plain_assignmentFront, hmiddle⟩, ?_⟩
  obtain ⟨s, hs, hphase | ⟨-, hangle⟩ | ⟨-, -, hforgotten⟩⟩ := colon_of_conditional (.inl rfl) 1
    plain_assignmentFront hmiddle hquestion hcolon
  · exact ⟨s, hs, hphase⟩
  · exact absurd hangle (by decide)
  · exact absurd hforgotten (by decide)

/-- Whether a return type is being read. -/
def readsReturnType : Recognizer → Bool
  | script s =>
    match s.phase with
    | .returnType _ _ _ => true
    | _ => false
  | _ => false

end Recognizer

namespace Analysis

open Recognizer Recognizer.Script

/-- The tokens of `f(() => { x; })`. -/
def callbackMiddle : List Token :=
  codeTokens ["f", "(", "(", ")", "=>", "\x7b", "x", ";", "\x7d", ")"]

/-- A callback with a semicolon makes the recognizer forget the conditional around it, and what follows the
colon is taken for the body of a function with the callback for its parameters. -/
theorem conditional_forgotten :
    (Plain assignmentFront ∧ Plain callbackMiddle ∧ WellNested callbackMiddle) ∧
    ((Recognizer.start .typescript 1).run (.of .typescript)
      (assignmentFront ++ { kind := .code, text := "?" } ::
        (callbackMiddle ++ [{ kind := .code, text := ":" }]))).readsReturnType = true ∧
    (ofSource .typescript "" "v = c ? f(() => \x7b x; \x7d) : \x7b y \x7d;").1.functions.map
      (fun f => (f.name, f.parameterCount)) = [(Ledger.anonymous, 0), ("f", 1)] := by
  refine ⟨⟨plain_assignmentFront, ?_, by decide⟩, ?_, ?_⟩
  · unfold Plain callbackMiddle
    decide
  · decide +kernel
  · decide +kernel

end Analysis

end Cyclomatic
