import Mathlib
import Cyclomatic.Proofs.OpenBrackets
import Cyclomatic.Proofs.Recognizer.ScriptEnding
import Cyclomatic.Proofs.Recognizer.ScriptPass

/-!
# How a statement ends

A TypeScript or JavaScript text may end its last statement with a semicolon or with the line alone. Both
texts are measured function by function, or neither is, and the outlines of their functions agree up to two
things (`Analysis.semicolon_or_lineBreak`): the line alone leaves out the decisions of the parentheses that
the statement ends with, and a semicolon behind an arrow is the body of one more function. If the statement
does not end with a closing parenthesis, a colon or an arrow, the outlines agree altogether.
-/

namespace Cyclomatic

open Recognizer FunctionOutline

/-- The last token that is no line break. -/
def lastRead? (tokens : List Token) : Option Token :=
  (tokens.filter (!·.isNewline)).getLast?

theorem lastRead?_concat (ts : List Token) (t : Token) :
    lastRead? (ts ++ [t]) = if t.isNewline then lastRead? ts else some t := by
  unfold lastRead?
  rw [List.filter_append]
  cases ht : t.isNewline <;> simp [ht]

namespace Recognizer

variable {language : Language} {table : DecisionTable} {s : Script} {t : Token}

/-! ## Passes -/

/-- Behind any other token a semicolon and a line break hand on the same. -/
theorem even_run (h : IsScript language) {ts : List Token}
    (hlast : ∀ t ∈ lastRead? ts, t.text ∉ Script.unevenTexts)
    (hrun : (start language).run (.of language) ts = script s) : s.Even := by
  induction ts using List.reverseRecOn generalizing s with
  | nil =>
    have hstart : start language = script (Script.start 1) := by
      rcases h with rfl | rfl <;> rfl
    rw [run_nil, hstart] at hrun
    obtain rfl := Recognizer.script.inj hrun
    exact ⟨rfl, nofun, nofun⟩
  | append_singleton ts t ih =>
    obtain ⟨x, hx⟩ := exists_script h ts
    rw [run_append, hx, run_cons, run_nil] at hrun
    rw [lastRead?_concat] at hlast
    cases ht : t.isNewline with
    | true =>
      rw [ht, if_pos rfl] at hlast
      rw [feed_script_newline ht] at hrun
      obtain rfl := Recognizer.script.inj hrun
      have hmoved : (x.mapLedger Ledger.nextLine).Even := (ih hlast hx).congr rfl rfl
      exact Script.readNewline_even hmoved t.implicit
    | false =>
      rw [ht, if_neg Bool.false_ne_true] at hlast
      rw [feed_script_token ht] at hrun
      obtain rfl := Recognizer.script.inj hrun
      have hread : ((x.mapLedger (·.announce t.lineSpan)).read (.of language) t).Even :=
        Script.read_even _ ht (hlast t rfl)
      exact hread.congr rfl rfl

/-- Tokens that are no code or no brackets open and close nothing. -/
theorem openings_run_of_forall {ts : List Token}
    (hts : ∀ t ∈ ts, t.isCode = true → isBracket t.text = false) (r : Recognizer) :
    (r.run table ts).openings = r.openings := by
  induction ts generalizing r with
  | nil => rfl
  | cons t ts ih =>
    obtain ⟨ht, hts⟩ := List.forall_mem_cons.1 hts
    rw [run_cons, ih hts, openings_feed]
    split
    · rename_i hcode
      exact Openings.after_of_not_isBracket _ (ht (Bool.and_eq_true_iff.1 hcode).1)
    · rfl

/-! ## The two endings -/

/-- What is left when the input ends behind a line break outside everything. -/
theorem outlines_feed_lineBreak (hs : (script s).Sound) (hscopes : (script s).ScopesAgree)
    (hopen : s.openings = {}) (ht : t.EndsLine) :
    ((script s).feed table t).finish.1.ledger.outlines =
      s.braces.ledger.closedOutlines ++ s.openOutlines := by
  obtain ⟨hdepth, hgroups⟩ := Openings.mk.inj hopen
  have hnested : (s.mapLedger Ledger.nextLine).braces.WellNested :=
    hscopes.mapLedger (f := Ledger.nextLine) fun _ => rfl
  rw [feed_script_newline ht.isNewline, ht.explicit]
  exact Script.outlines_lineBreak (s := s.mapLedger Ledger.nextLine) hs hnested
    (List.eq_nil_of_length_eq_zero hgroups) hdepth

/-- What a semicolon leaves, whose token has been credited. -/
theorem feed_semicolon (h : IsScript language) (hs : s.Sound) (hgroups : s.groups = [])
    (ht : Script.IsSemicolon t) :
    ∃ s', (script s).feed (.of language) t = script s' ∧
      s'.Leaves (s.braces.ledger.closedOutlines ++ s.phase.begun ++
        raiseFirst s.missed s.openOutlines) := by
  have htable : (DecisionTable.of language).decides ";" = false := by
    rcases h with rfl | rfl <;> decide
  obtain ⟨howed, houtlines⟩ := Script.read_semicolon (s := s.mapLedger (·.announce t.lineSpan))
    htable ht hs hgroups
  refine ⟨_, feed_script_token ht.isNewline_eq, howed, ?_⟩
  exact (Ledger.outlines_credit _ _).trans houtlines

/-- What is left when the input ends behind a semicolon and a line break. -/
theorem outlines_feed_semicolon (h : IsScript language) (hs : (script s).Sound)
    (hscopes : (script s).ScopesAgree) (hopen : s.openings = {}) (ht : Script.IsSemicolon t)
    {u : Token} (hu : u.EndsLine) :
    (((script s).feed (.of language) t).feed (.of language) u).finish.1.ledger.outlines =
      s.braces.ledger.closedOutlines ++ s.phase.begun ++ raiseFirst s.missed s.openOutlines := by
  have hgroups : s.groups = [] := List.eq_nil_of_length_eq_zero (Openings.mk.inj hopen).2
  have hs' := hs.feed (.of language) t
  have hscopes' := hscopes.feed (.of language) hs t
  have hopen' : ((script s).feed (.of language) t).openings = {} := by
    have hbracket : isBracket t.text = false := by
      rw [ht.text_eq]
      decide
    rw [openings_feed, Openings.after_of_not_isBracket _ hbracket, ite_self]
    exact hopen
  obtain ⟨s', hfeed, howed, houtlines⟩ := feed_semicolon h hs hgroups ht
  rw [hfeed] at hs' hscopes' hopen' ⊢
  rw [outlines_feed_lineBreak hs' hscopes' hopen' hu, Script.openOutlines, howed, raiseFirst_zero,
    ← houtlines]
  rfl

end Recognizer

namespace Analysis

variable {language : Language} {source source' : String} {ts : List Token} {semicolon br br' : Token}

/-- The outlines of the functions that were found. -/
def outlines (a : Analysis) : List FunctionOutline :=
  a.functions.map (·.outline)

/-- An estimate names no function. -/
theorem outlines_aggregate (language : Language) (filename source : String) :
    (aggregate language filename source).outlines = [] :=
  rfl

/-- The error of a measurement is that of its pass. -/
theorem ofSource_error (language : Language) (filename source : String) :
    (ofSource language filename source).2 = (recognize language source).2 := by
  cases herror : (recognize language source).2 with
  | none =>
    obtain ⟨a, ha, _⟩ := exists_byFunction herror filename
    rw [ofSource, ha]
  | some e => rw [ofSource_of_error herror]

theorem outlines_ofSource (h : (recognize language source).2 = none) (filename : String) :
    (ofSource language filename source).1.outlines =
      (recognize language source).1.ledger.outlines := by
  obtain ⟨a, ha, _⟩ := exists_byFunction h filename
  have hreports := byFunction_reports ha
  rw [ofSource, ha, Ledger.outlines_of_frames_eq_nil hreports.frames_eq]
  show a.functions.map _ = _
  rw [hreports.functions_eq]
  rfl

/-- Semicolons and line breaks at the end of a text leave the error of a pass as it is. -/
theorem recognize_error_of_openings (h : IsScript language) {after : List Token}
    (hsplit : sourceTokens language source = ts ++ after)
    (hafter : ∀ t ∈ after, Script.IsSemicolon t ∨ t.EndsLine) :
    (recognize language source).2 = ((start language).run (.of language) ts).openings.error? := by
  have hindent : (start language).isIndent = false := by
    rcases h with rfl | rfl <;> rfl
  have hbrackets : ∀ t ∈ after, t.isCode = true → isBracket t.text = false := by
    intro t ht hcode
    rcases hafter t ht with hsemicolon | hbreak
    · rw [hsemicolon.text_eq]
      decide
    · rw [Token.isCode_of_isNewline hbreak.isNewline] at hcode
      cases hcode
  rw [recognize, finish_error ((isIndent_run _ _ _).trans hindent), hsplit, run_append,
    openings_run_of_forall hbrackets]

/-- A text that ends with a semicolon and a line break, and the text without the semicolon, are measured
function by function, or neither is. They have the same functions up to the one that a semicolon begins
behind an arrow, and up to the decisions that a line break misses: these the first function lacks that is
open before the end. Neither occurs unless the last token before is a closing parenthesis, a colon or an
arrow. -/
theorem semicolon_or_lineBreak (h : IsScript language) (filename : String)
    (hsource : sourceTokens language source = ts ++ [semicolon, br])
    (hsource' : sourceTokens language source' = ts ++ [br'])
    (hsemicolon : Script.IsSemicolon semicolon) (hbr : br.EndsLine) (hbr' : br'.EndsLine) :
    (ofSource language filename source).2 = (ofSource language filename source').2 ∧
    (∃ s, (start language).run (.of language) ts = script s ∧
      ((ofSource language filename source').2 = none → ∃ rest,
        (ofSource language filename source').1.outlines = s.braces.ledger.closedOutlines ++ rest ∧
        (ofSource language filename source).1.outlines =
          s.braces.ledger.closedOutlines ++ s.phase.begun ++ raiseFirst s.missed rest)) ∧
    ((∀ t ∈ lastRead? ts, t.text ∉ Script.unevenTexts) →
      (ofSource language filename source).1.outlines =
        (ofSource language filename source').1.outlines) := by
  obtain ⟨s, hrun⟩ := exists_script h ts
  have hs := sound_run (.of language) (sound_start language 1) ts
  have hscopes := scopesAgree_run (.of language) (scopesAgree_start language 1)
    (sound_start language 1) ts
  rw [hrun] at hs hscopes
  have herror : (recognize language source).2 = s.openings.error? := by
    rw [recognize_error_of_openings h hsource (by simp [hsemicolon, hbr]), hrun]
    rfl
  have herror' : (recognize language source').2 = s.openings.error? := by
    rw [recognize_error_of_openings h hsource' (by simp [hbr']), hrun]
    rfl
  -- where the passes end well, everything has closed, and both rows are read off before the end
  have hrows (hnone : s.openings.error? = none) :
      (ofSource language filename source').1.outlines =
          s.braces.ledger.closedOutlines ++ s.openOutlines ∧
        (ofSource language filename source).1.outlines =
          s.braces.ledger.closedOutlines ++ s.phase.begun ++ raiseFirst s.missed s.openOutlines := by
    have hopen := Openings.eq_of_error?_eq_none hnone
    constructor
    · rw [outlines_ofSource (herror'.trans hnone), recognize, hsource', run_append, hrun]
      exact outlines_feed_lineBreak hs hscopes hopen hbr'
    · rw [outlines_ofSource (herror.trans hnone), recognize, hsource, run_append, hrun]
      exact outlines_feed_semicolon h hs hscopes hopen hsemicolon hbr
  rw [ofSource_error, ofSource_error, herror, herror']
  refine ⟨rfl, ⟨s, hrun, fun hnone => ⟨_, hrows hnone⟩⟩, fun hlast => ?_⟩
  cases hsucc : s.openings.error? with
  | some e =>
    rw [ofSource_of_error (herror.trans hsucc), ofSource_of_error (herror'.trans hsucc)]
    rfl
  | none =>
    have heven := even_run h hlast hrun
    obtain ⟨hrow', hrow⟩ := hrows hsucc
    rw [hrow, hrow', heven.missed_eq, heven.begun_eq, raiseFirst_zero, List.append_nil]

/-- An arrow function whose expression ends with a name. -/
def conjunction : String :=
  "const f = (x) => g(a) && b"

/-- Both endings give it one function with one decision. -/
theorem semicolon_or_lineBreak_conjunction :
    sourceTokens .typescript (conjunction ++ ";\n") = sourceTokens .typescript conjunction ++
        [⟨.code, ";", 1, 26, false⟩, ⟨.newline, "\n", 1, 27, false⟩] ∧
      sourceTokens .typescript (conjunction ++ "\n") = sourceTokens .typescript conjunction ++
        [⟨.newline, "\n", 1, 26, false⟩] ∧
      (ofSource .typescript "" (conjunction ++ "\n")).1.outlines = [⟨"f", 2, 1⟩] ∧
      (ofSource .typescript "" (conjunction ++ ";\n")).1.outlines = [⟨"f", 2, 1⟩] := by
  have hsource : sourceTokens .typescript (conjunction ++ ";\n") =
      sourceTokens .typescript conjunction ++
        [⟨.code, ";", 1, 26, false⟩, ⟨.newline, "\n", 1, 27, false⟩] := by
    decide +kernel
  have hsource' : sourceTokens .typescript (conjunction ++ "\n") =
      sourceTokens .typescript conjunction ++ [⟨.newline, "\n", 1, 26, false⟩] := by
    decide +kernel
  have hlast : ∀ t ∈ lastRead? (sourceTokens .typescript conjunction),
      t.text ∉ Script.unevenTexts := by
    decide +kernel
  have houtlines : (ofSource .typescript "" (conjunction ++ "\n")).1.outlines = [⟨"f", 2, 1⟩] := by
    decide +kernel
  obtain ⟨_, _, hsame⟩ := semicolon_or_lineBreak (.inl rfl) "" hsource hsource' ⟨rfl, rfl⟩ ⟨rfl, rfl⟩
    ⟨rfl, rfl⟩
  exact ⟨hsource, hsource', houtlines, (hsame hlast).trans houtlines⟩

/-- Behind the parenthesis of a call the line break misses the decision among the arguments. -/
theorem lineBreak_misses_decision :
    (ofSource .typescript "" "const f = (x) => g(a && b);\n").1.outlines = [⟨"f", 2, 1⟩] ∧
      (ofSource .typescript "" "const f = (x) => g(a && b)\n").1.outlines = [⟨"f", 1, 1⟩] := by
  decide +kernel

end Analysis

end Cyclomatic
