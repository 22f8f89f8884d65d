import Mathlib
import Cyclomatic.Recognizer
import Cyclomatic.Proofs.Recognizer.Pass

/-!
# What a recognizer does not see

A recognizer does not look at the column of a line break, nor into a string: tokens that differ in nothing
else are alike (`Token.Alike`), and after tokens that are alike the passes are (`Recognizer.Alike.run`). Only
a pass over Python holds on to such texts, in the entry of a parameter list; but all that is asked of an
entry is whether it is a single marker (`ParameterList.Alike`), and no text of a string is one.
-/

namespace Cyclomatic

/-! ## Tokens -/

/-- Texts that no bracket, comma or marker tells apart: the same text, or two of more than one character. -/
def TextsAlike (a b : String) : Prop :=
  b = a ∨ 2 ≤ a.length ∧ 2 ≤ b.length

theorem TextsAlike.refl (a : String) : TextsAlike a a :=
  .inl rfl

/-- Among texts that are alike both or neither are a given one of a single character. -/
theorem TextsAlike.eq_iff {a b : String} (h : TextsAlike a b) (text : String) (htext : text.length = 1) :
    b = text ↔ a = text := by
  rcases h with rfl | ⟨ha, hb⟩
  · exact Iff.rfl
  · constructor
    · rintro rfl
      omega
    · rintro rfl
      omega

/-- Texts that are alike compare alike with a single character. -/
theorem TextsAlike.beq_eq {a b text : String} (h : TextsAlike a b) (htext : text.length = 1) :
    (b == text) = (a == text) := by
  rw [Bool.eq_iff_iff, beq_iff_eq, beq_iff_eq]
  exact h.eq_iff text htext

/-- Texts that are alike are both opening brackets or neither is. -/
theorem TextsAlike.isOpening_eq {a b : String} (h : TextsAlike a b) : isOpening b = isOpening a := by
  rw [isOpening, isOpening, h.beq_eq rfl, h.beq_eq rfl, h.beq_eq rfl]

/-- Texts that are alike are both closing brackets or neither is. -/
theorem TextsAlike.isClosing_eq {a b : String} (h : TextsAlike a b) : isClosing b = isClosing a := by
  rw [isClosing, isClosing, h.beq_eq rfl, h.beq_eq rfl, h.beq_eq rfl]

/-- Tokens that no recognizer tells apart. -/
structure Token.Alike (t u : Token) : Prop where
  kind_eq : u.kind = t.kind
  line_eq : u.line = t.line
  implicit_eq : u.implicit = t.implicit
  lineBreaks_eq : lineBreaks u.text = lineBreaks t.text
  column_eq : t.isNewline = false → u.column = t.column
  text_eq : t.isCode = true → u.text = t.text
  texts : t.isNewline = false → TextsAlike t.text u.text

namespace Token

variable {t u : Token}

theorem Alike.refl (t : Token) : t.Alike t :=
  ⟨rfl, rfl, rfl, rfl, fun _ => rfl, fun _ => rfl, fun _ => .refl t.text⟩

theorem Alike.isNewline_eq (h : t.Alike u) : u.isNewline = t.isNewline := by
  rw [isNewline, isNewline, h.kind_eq]

theorem Alike.isCode_eq (h : t.Alike u) : u.isCode = t.isCode := by
  rw [isCode, isCode, h.kind_eq]

/-- Tokens that are alike are both substance or neither is. -/
theorem Alike.isSubstance_eq (h : t.Alike u) : u.isSubstance = t.isSubstance := by
  rw [isSubstance, isSubstance, h.kind_eq]

/-- Tokens that are alike touch as many lines. -/
theorem Alike.lineSpan_eq (h : t.Alike u) : u.lineSpan = t.lineSpan := by
  rw [lineSpan, lineSpan, h.lineBreaks_eq]

/-- Whether a token is a given piece of code is the same for tokens that are alike. -/
theorem Alike.code_iff (h : t.Alike u) (text : String) :
    u.isCode = true ∧ u.text = text ↔ t.isCode = true ∧ t.text = text := by
  rw [h.isCode_eq]
  constructor
  · rintro ⟨hcode, rfl⟩
    exact ⟨hcode, (h.text_eq hcode).symm⟩
  · rintro ⟨hcode, rfl⟩
    exact ⟨hcode, h.text_eq hcode⟩

/-- What is significant of two tokens is alike if they stand on the same lines, and are alike unless nothing
of them is significant but their line breaks. -/
theorem significant_alike (hkind : u.kind = t.kind) (hline : u.line = t.line)
    (hbreaks : lineBreaks u.text = lineBreaks t.text)
    (halike : t.isNewline = true ∨ t.isSubstance = true → t.Alike u) :
    List.Forall₂ Token.Alike t.significant u.significant := by
  have hinner : u.innerBreaks = t.innerBreaks := by
    rw [innerBreaks, innerBreaks, hline, hbreaks]
  have hsame : List.Forall₂ Token.Alike t.innerBreaks t.innerBreaks :=
    List.forall₂_same.2 fun v _ => .refl v
  have hnewline : u.isNewline = t.isNewline := by rw [isNewline, isNewline, hkind]
  have hsubstance : u.isSubstance = t.isSubstance := by rw [isSubstance, isSubstance, hkind]
  unfold significant
  rw [hnewline, hsubstance, hinner]
  split
  · rename_i h
    exact .cons (halike (.inl h)) .nil
  · split
    · rename_i h
      exact .cons (halike (.inr h)) hsame
    · exact hsame

/-- Of tokens that are alike the same are significant. -/
theorem Alike.significant (h : t.Alike u) : List.Forall₂ Token.Alike t.significant u.significant :=
  significant_alike h.kind_eq h.line_eq h.lineBreaks_eq fun _ => h

end Token

/-! ## Parameter lists -/

/-- Parameter lists that count the same from here on. -/
structure ParameterList.Alike (p q : ParameterList) : Prop where
  markers_eq : q.markers = p.markers
  markers_length : ∀ marker ∈ p.markers, marker.length = 1
  depth_eq : q.depth = p.depth
  count_eq : q.count = p.count
  entry : List.Forall₂ TextsAlike p.entry q.entry

namespace ParameterList

variable {p q : ParameterList} {a b : String}

theorem Alike.refl (h : ∀ marker ∈ p.markers, marker.length = 1) : p.Alike p :=
  ⟨rfl, h, rfl, rfl, List.forall₂_same.2 fun a _ => .refl a⟩

/-- Entries that are alike are both parameters or neither is. -/
theorem isParameter_alike {markers entry entry' : List String}
    (hmarkers : ∀ marker ∈ markers, marker.length = 1) (h : List.Forall₂ TextsAlike entry entry') :
    isParameter markers entry' = isParameter markers entry := by
  cases h with
  | nil => rfl
  | cons hab hrest =>
    cases hrest with
    | nil =>
      rename_i a b
      have hmem : markers.contains b = markers.contains a := by
        rw [Bool.eq_iff_iff, List.contains_iff_mem, List.contains_iff_mem]
        constructor
        · intro hb
          rwa [(hab.eq_iff b (hmarkers b hb)).1 rfl]
        · intro ha
          rwa [(hab.eq_iff a (hmarkers a ha)).2 rfl]
      rw [isParameter, isParameter, hmem]
    | cons _ _ => rfl

/-- Entries that are alike end alike. -/
theorem Alike.endEntry (h : p.Alike q) : p.endEntry.Alike q.endEntry := by
  have hparameter := isParameter_alike h.markers_length h.entry
  refine ⟨h.markers_eq, h.markers_length, h.depth_eq, ?_, .nil⟩
  show (if isParameter q.markers q.entry then q.count + 1 else q.count) = _
  rw [h.markers_eq, hparameter, h.count_eq]
  rfl

/-- Entries remain alike when texts that are alike are added to them. -/
theorem Alike.extend (h : p.Alike q) (hab : TextsAlike a b) : (p.extend a).Alike (q.extend b) :=
  ⟨h.markers_eq, h.markers_length, h.depth_eq, h.count_eq, .cons hab h.entry⟩

/-- Lists remain alike at the same depth. -/
theorem Alike.withDepth (h : p.Alike q) (depth : Int) :
    { p with depth }.Alike { q with depth } :=
  ⟨h.markers_eq, h.markers_length, rfl, h.count_eq, h.entry⟩

/-- Lists that are alike close at texts that are alike, and remain alike. -/
theorem Alike.feed (h : p.Alike q) (hab : TextsAlike a b) :
    (q.feed b).1 = (p.feed a).1 ∧ (p.feed a).2.Alike (q.feed b).2 := by
  have hcomma : b = "," ↔ a = "," := hab.eq_iff "," rfl
  unfold ParameterList.feed
  simp only [hab.isOpening_eq, hab.isClosing_eq, h.depth_eq, hcomma]
  split
  · split
    · exact ⟨rfl, h.markers_eq, h.markers_length, rfl, rfl, .nil⟩
    · exact ⟨rfl, (h.withDepth _).extend hab⟩
  · split
    · split
      · exact ⟨rfl, (h.withDepth _).endEntry⟩
      · exact ⟨rfl, (h.withDepth _).extend hab⟩
    · split
      · exact ⟨rfl, h.endEntry⟩
      · exact ⟨rfl, h.extend hab⟩

end ParameterList

namespace Recognizer

variable {t u : Token}

/-! ## Grammars with braces -/

/-- A pass over Go does not tell tokens apart that are alike. -/
theorem Go.read_alike (table : DecisionTable) (s : Go) (h : t.Alike u) :
    s.read table u = s.read table t := by
  rw [Go.read, Go.read, h.isNewline_eq, h.isCode_eq, h.implicit_eq]
  split
  · rfl
  · split
    · rw [h.text_eq ‹_›]
    · rfl

namespace Script

variable (s : Script)

/-- Ordinary code does not tell tokens apart that are alike: it looks at code only. -/
theorem readStatement_alike (closed : Option Group) (h : t.Alike u) :
    s.readStatement closed u = s.readStatement closed t := by
  cases hcode : t.isCode with
  | true =>
    rw [readStatement, readStatement, h.isCode_eq, h.text_eq hcode]
  | false =>
    rw [readStatement, readStatement, h.isCode_eq, hcode]
    rfl

/-- No phase tells them apart. -/
theorem readPhase_alike (closed : Option Group) (hn : t.isNewline = false) (h : t.Alike u) :
    s.readPhase closed u = s.readPhase closed t := by
  unfold readPhase
  cases s.phase with
  | statement => exact readStatement_alike s closed h
  | functionHead name functionLine =>
    dsimp only [readFunctionHead]
    rw [h.isCode_eq]
    cases hcode : t.isCode with
    | true =>
      rw [h.text_eq hcode, readStatement_alike _ _ h]
    | false => exact readStatement_alike _ _ h
  | typeParameters name functionLine depth =>
    dsimp only [readTypeParameters]
    simp only [(h.texts hn).eq_iff "<" rfl, (h.texts hn).eq_iff ">" rfl]
  | returnType g depth tokens =>
    dsimp only [readReturnType]
    rw [h.isCode_eq]
    cases hcode : t.isCode with
    | true =>
      rw [h.text_eq hcode, readStatement_alike _ _ h, readStatement_alike _ _ h]
    | false => simp
  | arrowBody f =>
    dsimp only [readArrowBody]
    rw [h.isCode_eq]
    cases hcode : t.isCode with
    | true =>
      rw [h.text_eq hcode, readStatement_alike _ _ h]
    | false =>
      simp only [Bool.false_eq_true, false_and, if_false]
      exact readStatement_alike _ _ h

/-- Nor does settling what waits for the token. -/
theorem readToken_alike (hn : t.isNewline = false) (h : t.Alike u) :
    s.readToken u = s.readToken t := by
  have hquestion : s.settleQuestion u = s.settleQuestion t := by
    cases hcode : t.isCode with
    | true => rw [settleQuestion, settleQuestion, h.isCode_eq, h.text_eq hcode]
    | false => rw [settleQuestion, settleQuestion, h.isCode_eq, hcode]; rfl
  have hkeeps : keepsSignature u = keepsSignature t := by
    cases hcode : t.isCode with
    | true => rw [keepsSignature, keepsSignature, h.isCode_eq, h.text_eq hcode]
    | false => rw [keepsSignature, keepsSignature, h.isCode_eq, hcode]; rfl
  rw [readToken, readToken, hquestion, hkeeps]
  dsimp only
  split
  · exact readPhase_alike _ _ hn h
  · rw [readPhase_alike _ _ hn h, readPhase_alike _ _ hn h]

/-- A pass over TypeScript or JavaScript does not tell tokens apart that are alike. -/
theorem read_alike (table : DecisionTable) (h : t.Alike u) : s.read table u = s.read table t := by
  rw [read, read, h.isNewline_eq, h.implicit_eq]
  cases hn : t.isNewline with
  | true => rfl
  | false =>
    simp only [Bool.false_eq_true, if_false]
    rw [readToken_alike s hn h, h.isCode_eq]
    cases hcode : t.isCode with
    | true => rw [h.text_eq hcode]
    | false => rfl

end Script

/-! ## Indentation -/

namespace Indent

/-- Passes over Python that differ in the texts of a parameter list only, and count the same. -/
def Alike (s s' : Indent) : Prop :=
  ∃ q, s.parameters.Alike q ∧ s' = { s with parameters := q }

variable {s s' : Indent}

theorem Alike.mapLedger (h : s.Alike s') (f : Ledger → Ledger) : (s.mapLedger f).Alike (s'.mapLedger f) := by
  obtain ⟨q, hq, rfl⟩ := h
  exact ⟨q, hq, rfl⟩

/-- Functions that close in a row close alike. -/
theorem Alike.foldl_closeInnermost (h : s.Alike s') (closing : List Int) :
    (closing.foldl (fun s _ => s.closeInnermost) s).Alike
      (closing.foldl (fun s _ => s.closeInnermost) s') := by
  induction closing generalizing s s' with
  | nil => exact h
  | cons _ closing ih =>
    obtain ⟨q, hq, rfl⟩ := h
    exact ih ⟨q, hq, rfl⟩

/-- A logical line begins alike at the same column. -/
theorem Alike.beginLine (h : s.Alike s') (column : Int) :
    (s.beginLine column).Alike (s'.beginLine column) := by
  obtain ⟨q, hq, rfl⟩ := h
  unfold Indent.beginLine
  split
  · unfold Indent.dedent
    apply Alike.foldl_closeInnermost
    exact ⟨q, hq, rfl⟩
  · exact ⟨q, hq, rfl⟩

/-- Brackets are followed alike. -/
theorem Alike.followBrackets (h : s.Alike s') (text : String) :
    (s.followBrackets text).Alike (s'.followBrackets text) := by
  obtain ⟨q, hq, rfl⟩ := h
  unfold Indent.followBrackets
  split
  · exact ⟨q, hq, rfl⟩
  · split
    · exact ⟨q, hq, rfl⟩
    · exact ⟨q, hq, rfl⟩

/-- Lines and brackets are followed alike up to tokens that are alike. -/
theorem Alike.advance (h : s.Alike s') (hn : t.isNewline = false) (htu : t.Alike u) :
    (s.advance t).Alike (s'.advance u) := by
  have hline := h.beginLine t.column
  unfold Indent.advance
  rw [htu.column_eq hn, htu.isCode_eq, htu.lineBreaks_eq]
  generalize s.beginLine t.column = s at hline ⊢
  generalize s'.beginLine t.column = s' at hline ⊢
  obtain ⟨q, hq, rfl⟩ := hline
  dsimp only
  split
  · rw [htu.text_eq ‹_›]
    apply Alike.followBrackets
    exact ⟨q, hq, rfl⟩
  · exact ⟨q, hq, rfl⟩

/-- Texts that are alike are entered alike in the parameters. -/
theorem Alike.inParameters {a b : String} (h : s.Alike s') (hab : TextsAlike a b) :
    (s.inParameters a).Alike (s'.inParameters b) := by
  obtain ⟨q, hq, rfl⟩ := h
  obtain ⟨hclosed, hrest⟩ := hq.feed hab
  refine ⟨(q.feed b).2, hrest, ?_⟩
  unfold Indent.inParameters
  dsimp only
  rw [hclosed]

/-- Before the parameters texts that are alike begin them, begin type parameters, or do neither. -/
theorem Alike.beforeParameters {a b : String} (h : s.Alike s') (hab : TextsAlike a b) :
    (s.beforeParameters a).Alike (s'.beforeParameters b) := by
  obtain ⟨q, hq, rfl⟩ := h
  have hfresh : ({ markers := parameterMarkers } : ParameterList).Alike
      { markers := parameterMarkers } := .refl (by decide)
  unfold Indent.beforeParameters
  simp only [hab.eq_iff "[" rfl, hab.eq_iff "(" rfl]
  split
  · exact ⟨q, hq, rfl⟩
  · split
    · exact ⟨_, (hfresh.feed hab).2, rfl⟩
    · exact ⟨q, hq, rfl⟩

/-- In type parameters texts that are alike are square brackets of one kind, or neither is one. -/
theorem Alike.inTypeParameters {a b : String} (h : s.Alike s') (hab : TextsAlike a b) :
    (s.inTypeParameters a).Alike (s'.inTypeParameters b) := by
  obtain ⟨q, hq, rfl⟩ := h
  unfold Indent.inTypeParameters
  simp only [hab.eq_iff "[" rfl, hab.eq_iff "]" rfl]
  split
  · exact ⟨q, hq, rfl⟩
  · split
    · exact ⟨q, hq, rfl⟩
    · exact ⟨q, hq, rfl⟩

/-- The functions that open have the same name, line and number of parameters. -/
theorem Alike.openBody (h : s.Alike s') : s.openBody.Alike s'.openBody := by
  obtain ⟨q, hq, rfl⟩ := h
  refine ⟨q, hq, ?_⟩
  unfold Indent.openBody
  dsimp only
  rw [hq.count_eq]
  rfl

/-- Tokens that are alike are read alike in every phase of a header. -/
theorem Alike.readPhase (h : s.Alike s') (hn : t.isNewline = false) (htu : t.Alike u) :
    (s.readPhase t).Alike (s'.readPhase u) := by
  have hphase : s'.phase = s.phase := by
    obtain ⟨q, _, rfl⟩ := h
    rfl
  have hdepth : s'.bracketDepth = s.bracketDepth := by
    obtain ⟨q, _, rfl⟩ := h
    rfl
  have htexts := htu.texts hn
  unfold Indent.readPhase
  rw [hphase]
  cases s.phase with
  | outside =>
    simp only [htu.code_iff]
    obtain ⟨q, hq, rfl⟩ := h
    split
    · exact ⟨q, hq, rfl⟩
    · exact ⟨q, hq, rfl⟩
  | name =>
    obtain ⟨q, hq, rfl⟩ := h
    dsimp only
    rw [htu.isCode_eq]
    cases hcode : t.isCode with
    | true =>
      rw [htu.text_eq hcode]
      split
      · exact ⟨q, hq, rfl⟩
      · exact ⟨q, hq, rfl⟩
    | false =>
      simp only [Bool.false_eq_true, false_and, if_false]
      exact ⟨q, hq, rfl⟩
  | beforeParameters => exact h.beforeParameters htexts
  | typeParameters => exact h.inTypeParameters htexts
  | parameters => exact h.inParameters htexts
  | returnType =>
    simp only [htexts.eq_iff ":" rfl, hdepth]
    split
    · exact h.openBody
    · exact h

/-- Decisions are counted alike. -/
theorem Alike.countDecision (h : s.Alike s') (text : String) :
    (s.countDecision text).Alike (s'.countDecision text) := by
  obtain ⟨q, hq, rfl⟩ := h
  unfold Indent.countDecision
  split
  · exact ⟨q, hq, rfl⟩
  · split
    · exact ⟨q, hq, rfl⟩
    · exact ⟨q, hq, rfl⟩

/-- A line break is read alike. -/
theorem Alike.readNewline (h : s.Alike s') (implicit : Bool) :
    (s.readNewline implicit).Alike (s'.readNewline implicit) := by
  obtain ⟨q, hq, rfl⟩ := h
  unfold Indent.readNewline
  split
  · exact ⟨q, hq, rfl⟩
  · split
    · exact ⟨q, hq, rfl⟩
    · exact ⟨q, hq, rfl⟩

/-- Passes over Python remain alike when they read tokens that are alike. -/
theorem Alike.read (table : DecisionTable) (h : s.Alike s') (htu : t.Alike u) :
    (s.read table t).Alike (s'.read table u) := by
  unfold Indent.read
  rw [htu.isNewline_eq, htu.implicit_eq, htu.isCode_eq]
  cases hn : t.isNewline with
  | true => exact h.readNewline t.implicit
  | false =>
    have htoken : (s.readToken t).Alike (s'.readToken u) := (h.advance hn htu).readPhase hn htu
    simp only [Bool.false_eq_true, if_false]
    cases hcode : t.isCode with
    | true =>
      rw [htu.text_eq hcode]
      split
      · exact htoken.countDecision t.text
      · exact htoken
    | false => exact htoken

/-- Passes over Python that are alike end alike. -/
theorem Alike.finish (h : s.Alike s') : s.finish.1.Alike s'.finish.1 ∧ s'.finish.2 = s.finish.2 := by
  obtain ⟨q, hq, rfl⟩ := h
  unfold Indent.finish
  dsimp only
  split
  · rw [if_pos ‹_›]
    exact ⟨⟨q, hq, rfl⟩, rfl⟩
  · rw [if_neg ‹_›]
    refine ⟨?_, rfl⟩
    apply Alike.foldl_closeInnermost
    exact ⟨q, hq, rfl⟩

end Indent

/-! ## Passes -/

/-- Passes that measure the same from here on. -/
inductive Alike : Recognizer → Recognizer → Prop where
  | go (s : Go) : Alike (go s) (go s)
  | script (s : Script) : Alike (script s) (script s)
  | indent {s s' : Indent} (h : s.Alike s') : Alike (indent s) (indent s')

variable {r r' : Recognizer}

/-- Every pass is alike to itself at its start. -/
theorem Alike.start (language : Language) (line : Int) : Alike (start language line) (start language line) := by
  cases language with
  | go => exact .go _
  | typescript => exact .script _
  | javascript => exact .script _
  | python =>
    have hmarkers : ∀ marker ∈ Indent.parameterMarkers, marker.length = 1 := by decide
    exact .indent ⟨_, .refl hmarkers, rfl⟩

/-- Passes that are alike have the same ledger. -/
theorem Alike.ledger_eq (h : Alike r r') : r'.ledger = r.ledger := by
  cases h with
  | go s => rfl
  | script s => rfl
  | indent h =>
    obtain ⟨q, _, rfl⟩ := h
    rfl

theorem Alike.mapLedger (h : Alike r r') (f : Ledger → Ledger) : Alike (r.mapLedger f) (r'.mapLedger f) := by
  cases h with
  | go s => exact .go _
  | script s => exact .script _
  | indent h => exact .indent (h.mapLedger f)

/-- Passes remain alike when they read tokens that are alike. -/
theorem Alike.read (table : DecisionTable) (h : Alike r r') (htu : t.Alike u) :
    Alike (r.read table t) (r'.read table u) := by
  cases h with
  | go s =>
    rw [Recognizer.read, Recognizer.read, Go.read_alike table s htu]
    exact .go _
  | script s =>
    rw [Recognizer.read, Recognizer.read, Script.read_alike s table htu]
    exact .script _
  | indent h => exact .indent (h.read table htu)

/-- Passes remain alike when they take in tokens that are alike. -/
theorem Alike.feed (table : DecisionTable) (h : Alike r r') (htu : t.Alike u) :
    Alike (r.feed table t) (r'.feed table u) := by
  unfold Recognizer.feed absorb
  rw [htu.isNewline_eq, htu.lineSpan_eq]
  split
  · exact (h.mapLedger _).read table htu
  · exact ((h.mapLedger _).read table htu).mapLedger _

/-- Passes over tokens that are alike one by one remain alike. -/
theorem Alike.run (table : DecisionTable) {ts us : List Token} (h : Alike r r')
    (htu : List.Forall₂ Token.Alike ts us) : Alike (r.run table ts) (r'.run table us) := by
  induction htu generalizing r r' with
  | nil => exact h
  | cons htu _ ih => exact ih (h.feed table htu)

/-- Passes that are alike end alike. -/
theorem Alike.finish (h : Alike r r') : Alike r.finish.1 r'.finish.1 ∧ r'.finish.2 = r.finish.2 := by
  cases h with
  | go s => exact ⟨.go _, rfl⟩
  | script s => exact ⟨.script _, rfl⟩
  | indent h => exact ⟨.indent h.finish.1, h.finish.2⟩

end Recognizer

end Cyclomatic
