import Mathlib
import Cyclomatic.Proofs.CodeLines
import Cyclomatic.Proofs.Lexicon.BlankLine
import Cyclomatic.Proofs.Recognizer.Lowered
import Cyclomatic.Proofs.Recognizer.PassMoved

/-!
# Blank lines

A line break that is put in right after a newline token changes nothing but line numbers
(`Analysis.blank_line_invariance`). The passes over the two texts are compared token by token. Up to the
newline token they are one pass, and their states do not change if the lines after that token are moved
down. The second line break moves only the ledger, so that from there on the states differ in exactly
these lines (`lowering`), and every token after it keeps that.
-/

namespace Cyclomatic

namespace Recognizer

variable {last : Int} {r r' : Recognizer} {t u : Token}

/-- A fresh recognizer has no lines after its own. -/
theorem lowered_start (language : Language) {line : Int} (hline : line ≤ last) (hlast : 0 ≤ last) :
    Moved (lowering last) (start language line) (start language line) := by
  have hledger := Ledger.lowered_start hline
  have hscript : Script.Moved (lowering last) (Script.start line) (Script.start line) :=
    ⟨_, ⟨rfl, rfl, hledger⟩, rfl⟩
  cases language with
  | go => exact .go ⟨rfl, fun h => absurd rfl h, rfl, rfl, hledger⟩
  | typescript => exact .script hscript
  | javascript => exact .script hscript
  | python =>
    exact .indent
      { phase_eq := rfl
        bracketDepth_eq := rfl
        atLineStart_eq := rfl
        firstOnLine_eq := rfl
        lineIndent_eq := rfl
        lastCodeLine_eq := (lowered_of_le hlast).symm
        indents_eq := rfl
        headerDecisions_eq := rfl
        header := fun h => absurd rfl h
        begins := fun h => absurd rfl h
        typeParameterDepth_eq := fun h => by cases h
        parameters_eq := fun h => by rcases h with h | h <;> cases h
        ledger := hledger }

/-- A token is read alike wherever it stands. -/
theorem feed_down (table : DecisionTable) (r : Recognizer) (t : Token) :
    r.feed table t.down = r.feed table t := by
  cases r <;> rfl

theorem run_down (table : DecisionTable) (r : Recognizer) (ts : List Token) :
    r.run table (ts.map (·.down)) = r.run table ts := by
  induction ts generalizing r with
  | nil => rfl
  | cons t ts ih => rw [List.map_cons, run_cons, run_cons, feed_down, ih]

/-! ## The second line break -/

/-- A token that ends a line is read as a line break, in Go as in the other languages below. -/
theorem read_go_endsLine {table : DecisionTable} {s : Go} (ht : t.EndsLine) :
    (Recognizer.go s).read table t = .go (s.readNewline false) := by
  rw [Recognizer.read, Go.read, if_pos ht.isNewline, ht.explicit]

theorem read_script_endsLine {table : DecisionTable} {s : Script} (ht : t.EndsLine) :
    (Recognizer.script s).read table t = .script (s.readNewline false) := by
  rw [Recognizer.read, Script.read, if_pos ht.isNewline, ht.explicit]

theorem read_indent_endsLine {table : DecisionTable} {s : Indent} (ht : t.EndsLine) :
    (Recognizer.indent s).read table t = .indent (s.readNewline false) := by
  rw [Recognizer.read, Indent.read, if_pos ht.isNewline, ht.explicit]

/-- A second line break moves the ledger and does nothing else. -/
theorem read_read_endsLine (table : DecisionTable) (r : Recognizer) (f : Ledger → Ledger)
    (ht : t.EndsLine) (hu : u.EndsLine) :
    ((r.read table t).mapLedger f).read table u = (r.read table t).mapLedger f := by
  cases r with
  | go s =>
    rw [read_go_endsLine ht, Recognizer.mapLedger, read_go_endsLine hu, Go.readNewline_readNewline]
  | script s =>
    rw [read_script_endsLine ht, Recognizer.mapLedger, read_script_endsLine hu,
      Script.readNewline_readNewline]
  | indent s =>
    rw [read_indent_endsLine ht, Recognizer.mapLedger, read_indent_endsLine hu,
      Indent.readNewline_readNewline]

/-- The token that ends the line is read alike before and behind the inserted line. -/
theorem Moved.nextLine_read (h : Moved (lowering last) r (r.mapLedger Ledger.nextLine))
    (table : DecisionTable) (ht : t.EndsLine) :
    Moved (lowering last) (r.read table t) ((r.read table t).mapLedger Ledger.nextLine) := by
  cases r with
  | go s =>
    cases h with
    | go h =>
      rw [read_go_endsLine ht]
      exact .go h.nextLine_readNewline
  | script s =>
    cases h with
    | script h =>
      rw [read_script_endsLine ht]
      exact .script h.nextLine_readNewline
  | indent s =>
    cases h with
    | indent h =>
      rw [read_indent_endsLine ht]
      exact .indent h.nextLine_readNewline

/-- Where the texts part: one line break at the end of `last` and two of them. -/
theorem Moved.feed_blankLine (h : Moved (lowering last) r r) (table : DecisionTable)
    (hline : r.ledger.line = last) (ht : t.EndsLine) (hu : u.EndsLine) :
    Moved (lowering last) (r.feed table t) ((r.feed table t).feed table u) := by
  have hparted : Moved (lowering last) (r.mapLedger Ledger.nextLine)
      ((r.mapLedger Ledger.nextLine).mapLedger Ledger.nextLine) := by
    have hdouble : (r.mapLedger Ledger.nextLine).mapLedger Ledger.nextLine =
        r.mapLedger (·.nextLine.nextLine) := by
      cases r <;> rfl
    rw [hdouble]
    exact h.mapLedger _ _ (h.ledger.nextLine_nextLine hline)
  rw [feed_of_isNewline table _ hu.isNewline, feed_of_isNewline table r ht.isNewline,
    read_read_endsLine table _ _ ht hu]
  exact hparted.nextLine_read table ht

end Recognizer

/-! ## Passes -/

namespace Analysis

open Recognizer

/-- The text `source'` is the text `source` with the line break `u` put in after the newline token `t`;
`before` and `after` are the significant tokens around it. -/
structure BlankLine (language : Language) (source source' : String) (before : List Token) (t u : Token)
    (after : List Token) : Prop where
  tokens_eq : sourceTokens language source = before ++ t :: after
  tokens_eq' : sourceTokens language source' = before ++ t :: u :: after.map (·.down)
  first : t.EndsLine
  second : u.EndsLine

variable {language : Language} {source source' : String} {before after : List Token} {t u : Token}

/-- Where a line break is put into a text. -/
theorem blankLine_of_tokens (h : (Lexicon.of language).tokens source = before ++ t :: after)
    (ht : t.isNewline = true) :
    BlankLine language source (spelled (before ++ [t]) ++ "\n" ++ spelled after)
      (significantTokens before) t ⟨.newline, "\n", t.line + 1, 0, false⟩ (significantTokens after) := by
  have hexplicit : t.implicit = false := by
    rw [Lexicon.tokens, placed_eq_placedFrom] at h
    obtain ⟨_, l, _, _, _, rfl, _⟩ := placedFrom_eq_append_cons h
    rfl
  have hsignificant {u : Token} (hu : u.isNewline = true) (us : List Token) :
      significantTokens (u :: us) = u :: significantTokens us := by
    rw [significantTokens, List.flatMap_cons, Token.significant, if_pos hu]
    rfl
  refine ⟨?_, ?_, ⟨ht, hexplicit⟩, ⟨rfl, rfl⟩⟩
  · rw [sourceTokens, h, ← hsignificant ht, significantTokens, List.flatMap_append]
    rfl
  · rw [sourceTokens, tokens_blankLine (Lexicon.oneLine_of language) h ht, ← significantTokens_down,
      ← hsignificant rfl, ← hsignificant ht, significantTokens, List.flatMap_append]
    rfl

/-- Up to the end of a line no token goes beyond that line. -/
theorem lowered_passBefore (h : sourceTokens language source = before ++ t :: after) (ht : t.EndsLine) :
    Moved (lowering (lineAfter before)) (passBefore language before) (passBefore language before) := by
  have hlast : lastTouched before ≤ lineAfter before := by
    refine lastTouched_le h fun u hu _ => ?_
    obtain rfl := Option.some.inj hu
    exact ht.explicit
  have hpositive : 1 ≤ lineAfter before := by
    unfold lineAfter
    omega
  refine forall_beginning
    (P := fun beginning => Moved (lowering (lineAfter before)) (passBefore language beginning)
      (passBefore language beginning)) ?_ ?_ (List.append_nil before).symm
  · exact lowered_start language hpositive (by omega)
  · intro beginning u rest hbefore ih
    have hsplit : sourceTokens language source = beginning ++ u :: (rest ++ t :: after) := by
      rw [h, hbefore]
      simp
    have hline := ledger_line_before language hsplit
    rw [passBefore, run_append, run_cons, run_nil]
    cases hu : u.isNewline with
    | true =>
      refine ih.feed_newline _ hu (together_lowering (.inr ?_))
      rw [hline.1, lineAfter, hbefore]
      simp only [List.countP_append, List.countP_cons, hu]
      push_cast
      omega
    | false =>
      refine ih.feed_token _ hu (together_lowering (.inr ?_))
      -- the last line of the token is a code line, and so not beyond the last one
      have hmem : u.line + lineBreaks u.text ∈ codeLines before := by
        have hown := mem_codeLines_append (mem_codeLines_of_token hsplit hu
          ⟨by omega, le_refl (u.line + lineBreaks u.text)⟩) rest
        rwa [List.append_assoc, List.singleton_append, ← hbefore] at hown
      rw [hline.2 hu]
      exact (codeLines_le_lastTouched h _ hmem).trans hlast

namespace BlankLine

/-- At the end of the two passes the states differ in the lines after the newline token. -/
theorem lowered (h : BlankLine language source source' before t u after) :
    Moved (lowering (lineAfter before)) (passBefore language (sourceTokens language source))
      (passBefore language (sourceTokens language source')) := by
  have hline : (passBefore language before).ledger.line = lineAfter before :=
    (ledger_line_before language h.tokens_eq).1
  have hsound := passBefore_sound language before
  have hparted := (lowered_passBefore h.tokens_eq h.first).feed_blankLine (.of language) hline h.first
    h.second
  have hnext : lineAfter before < ((passBefore language before).feed (.of language) t).ledger.line := by
    rw [ledger_feed_line _ hsound, hline, h.first.isNewline]
    exact Int.lt_succ _
  have hrun := hparted.run (.of language) (hsound.feed _ t)
    (fun line hline _ => together_lowering (.inl (hnext.trans_le hline))) after
  rw [h.tokens_eq, h.tokens_eq', passBefore, passBefore, run_append, run_append, run_cons, run_cons,
    run_cons, run_down]
  exact hrun

/-! ## Measures -/

/-- A blank line is no code line. -/
theorem countCodeLines_eq (h : BlankLine language source source' before t u after) :
    countCodeLines language source' = countCodeLines language source := by
  have hlines (source : String) : codeLines ((Lexicon.of language).tokens source) =
      (passBefore language (sourceTokens language source)).ledger.codeLines := by
    rw [codeLines_run (List.append_nil _).symm, sourceTokens, codeLines_significantTokens]
  rw [countCodeLines, countCodeLines, hlines, hlines, h.lowered.ledger.size_codeLines]

/-- Whatever is counted among the tokens that are no line breaks, if it does not depend on lines. -/
theorem countP_eq (h : BlankLine language source source' before t u after) {p : Token → Bool}
    (hdown : ∀ x, p x.down = p x) (hnewline : ∀ x, x.isNewline = true → p x = false) :
    (sourceTokens language source').countP p = (sourceTokens language source).countP p := by
  have hafter : (after.map (·.down)).countP p = after.countP p := by
    rw [List.countP_map]
    exact List.countP_congr fun x _ => by simp [hdown]
  rw [h.tokens_eq, h.tokens_eq']
  simp [List.countP_append, hafter, hnewline t h.first.isNewline,
    hnewline u h.second.isNewline]

/-- The aggregate measures of the file stay. -/
theorem aggregate_eq (h : BlankLine language source source' before t u after) (filename : String) :
    aggregate language filename source' = aggregate language filename source := by
  have htokens : ((sourceTokens language source').filter (!·.isNewline)).length =
      ((sourceTokens language source).filter (!·.isNewline)).length := by
    rw [← List.countP_eq_length_filter, ← List.countP_eq_length_filter]
    exact h.countP_eq (fun _ => rfl) fun x hx => by simp [hx]
  have hdecisions : ((sourceTokens language source').filter (!·.isNewline)).countP
        (fun t => t.isCode && (DecisionTable.of language).decides t.text) =
      ((sourceTokens language source).filter (!·.isNewline)).countP
        (fun t => t.isCode && (DecisionTable.of language).decides t.text) := by
    rw [List.countP_filter, List.countP_filter]
    exact h.countP_eq (fun _ => rfl) fun x hx => by simp [hx]
  rw [aggregate, aggregate, htokens, hdecisions, h.countCodeLines_eq]

end BlankLine

/-- An analysis without the places of its functions. -/
def placeless (a : Analysis) : Analysis :=
  { a with functions := a.functions.map (·.placeless) }

/-- The measures by function stay, up to places. -/
theorem BlankLine.byFunction_eq (h : BlankLine language source source' before t u after)
    (filename : String) :
    (byFunction language filename source').map placeless =
      (byFunction language filename source).map placeless := by
  have htokens : (sourceTokens language source').countP (!·.isNewline) =
      (sourceTokens language source).countP (!·.isNewline) :=
    h.countP_eq (fun _ => rfl) fun x hx => by simp [hx]
  obtain ⟨herror, hlowered⟩ :
      (recognize language source').2 = (recognize language source).2 ∧
        Moved (lowering (lineAfter before)) (recognize language source).1 (recognize language source').1 :=
    h.lowered.finish
  have hfunctions : (recognize language source').1.ledger.closeAll.functions.map (·.placeless) =
      (recognize language source).1.ledger.closeAll.functions.map (·.placeless) :=
    hlowered.ledger.closeAll.functions
  unfold byFunction
  rw [h.countCodeLines_eq, htokens]
  generalize recognize language source' = pass' at herror hfunctions ⊢
  generalize recognize language source = pass at herror hfunctions ⊢
  obtain ⟨r', e'⟩ := pass'
  obtain ⟨r, e⟩ := pass
  dsimp only at herror hfunctions
  subst herror
  cases e' with
  | some e => rfl
  | none =>
    -- the total and the decisions are taken of complexities, which have no place
    have hccn : r'.ledger.closeAll.functions.map (·.ccn) = r.ledger.closeAll.functions.map (·.ccn) := by
      have hplaceless (fs : List FunctionMeasure) :
          fs.map (·.ccn) = (fs.map (·.placeless)).map (·.ccn) := by
        rw [List.map_map]
        rfl
      rw [hplaceless, hfunctions, ← hplaceless]
    have hlength : r'.ledger.closeAll.functions.length = r.ledger.closeAll.functions.length := by
      simpa using congrArg List.length hfunctions
    simp only [Except.map, placeless, hccn, hlength, hfunctions]

/-- So does the whole analysis, and what is noted about it. -/
theorem BlankLine.ofSource_eq (h : BlankLine language source source' before t u after)
    (filename : String) :
    (ofSource language filename source').1.placeless = (ofSource language filename source).1.placeless ∧
      (ofSource language filename source').2 = (ofSource language filename source).2 := by
  have hby := h.byFunction_eq filename
  unfold ofSource
  rw [h.aggregate_eq filename]
  cases hresult : byFunction language filename source with
  | error e =>
    cases hresult' : byFunction language filename source' with
    | error e' =>
      rw [hresult, hresult'] at hby
      exact ⟨rfl, congrArg some (Except.error.inj hby)⟩
    | ok a' =>
      rw [hresult, hresult'] at hby
      cases hby
  | ok a =>
    cases hresult' : byFunction language filename source' with
    | error e' =>
      rw [hresult, hresult'] at hby
      cases hby
    | ok a' =>
      rw [hresult, hresult'] at hby
      exact ⟨Except.ok.inj hby, rfl⟩

/-- A line break that is put into a text right after a newline token leaves everything that is measured
as it is: the error, if scopes are left open, how the measures came about, the measures of the whole text,
and the functions in their order with all their measures but their first and last lines. -/
theorem blank_line_invariance (filename : String)
    (h : (Lexicon.of language).tokens source = before ++ t :: after) (ht : t.isNewline = true) :
    spelled (before ++ [t]) ++ spelled after = source ∧
    (ofSource language filename (spelled (before ++ [t]) ++ "\n" ++ spelled after)).1.placeless =
      (ofSource language filename source).1.placeless ∧
    (ofSource language filename (spelled (before ++ [t]) ++ "\n" ++ spelled after)).2 =
      (ofSource language filename source).2 := by
  refine ⟨?_, (blankLine_of_tokens h ht).ofSource_eq filename⟩
  rw [← spelled_tokens (Lexicon.of language) source, h, ← String.toList_inj]
  simp [spelled]

/-- The tokens of an arrow up to the line break after it. -/
def brokenArrow : List Token :=
  [⟨.code, "f", 1, 0, false⟩, ⟨.code, "=", 1, 1, false⟩, ⟨.code, "x", 1, 2, false⟩,
    ⟨.code, "=>", 1, 3, false⟩]

/-- The tokens of its body. -/
def brokenArrowBody : List Token :=
  [⟨.code, "x", 2, 0, false⟩, ⟨.code, "||", 2, 1, false⟩, ⟨.code, "1", 2, 3, false⟩]

/-- An arrow function ends one line further down, and is the same function. -/
theorem blank_line_invariance_arrow :
    (ofSource .typescript "" "f=x=>\nx||1").1.functions = [⟨"f", 1, 2, 2, 2, 1, 3, 0⟩] ∧
    (ofSource .typescript "" "f=x=>\n\nx||1").1.functions = [⟨"f", 1, 3, 2, 2, 1, 3, 0⟩] ∧
    (ofSource .typescript "" "f=x=>\n\nx||1").1.placeless =
      (ofSource .typescript "" "f=x=>\nx||1").1.placeless := by
  have htokens : (Lexicon.of (some Language.typescript)).tokens "f=x=>\nx||1" =
      brokenArrow ++ ⟨.newline, "\n", 1, 5, false⟩ :: brokenArrowBody := by
    decide +kernel
  have hsame := (blank_line_invariance "" htokens rfl).2.1
  exact ⟨by decide +kernel, by decide +kernel, hsame⟩

end Analysis

end Cyclomatic
