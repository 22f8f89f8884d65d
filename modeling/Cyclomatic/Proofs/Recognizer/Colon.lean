import Mathlib
import Cyclomatic.Proofs.Recognizer.ScriptEnding
import Cyclomatic.Proofs.Recognizer.ScriptPass

/-!
# What a colon means

In TypeScript a colon can end a `case`, be the middle of a conditional, begin a return type or follow a name.
Two registers tell: the number of conditionals that wait for their colon, and whether a `case` does. Few tokens
change them. A token other than a colon or a `case` begins no return type, and of the conditionals that wait it
drops all, if it is a semicolon, or none (`Script.read_passes`). Where no question mark and no `case` is read,
nothing begins to wait (`Script.Idle.run`).
-/

namespace Cyclomatic.Recognizer.Script

variable {s s' : Script} {t : Token}

/-! ## Registers -/

/-- The conditionals and the `case` that wait for a colon. -/
def colons (s : Script) : Nat × Bool :=
  (s.ternaries, s.inCase)

@[simp] theorem colons_forgetName (s : Script) : s.forgetName.colons = s.colons := rfl

@[simp] theorem colons_takeName (s : Script) : s.takeName.colons = s.colons := by
  unfold takeName
  split
  · split <;> rfl
  · rfl

@[simp] theorem colons_declare (s : Script) (text : String) : (s.declare text).colons = s.colons := by
  unfold declare
  split
  · split <;> rfl
  · rfl

@[simp] theorem colons_beginEntry (s : Script) : s.beginEntry.colons = s.colons := by
  unfold beginEntry
  split <;> rfl

@[simp] theorem colons_record (s : Script) (count : Nat) : (s.record count).colons = s.colons := by
  rw [colons, record_ternaries, record_inCase]
  rfl

@[simp] theorem colons_release (s : Script) (g : Group) : (s.release g).colons = s.colons :=
  colons_record s g.decisions

@[simp] theorem colons_closeExpressions (s : Script) (brackets : Nat) :
    (s.closeExpressions brackets).colons = s.colons := rfl

@[simp] theorem colons_pushGroup (s : Script) (g : Group) : (s.pushGroup g).colons = s.colons :=
  colons_beginEntry s

@[simp] theorem colons_openParameters (s : Script) (name : String) (functionLine : Int) :
    (s.openParameters name functionLine).colons = s.colons :=
  colons_pushGroup { s with assignedName := "" } _

@[simp] theorem colons_openParenthesis (s : Script) : s.openParenthesis.colons = s.colons := by
  unfold openParenthesis
  dsimp only
  split
  · split
    · rw [colons_pushGroup, colons_forgetName]
    · rw [colons_pushGroup]
  · rw [colons_pushGroup]

@[simp] theorem colons_openSquare (s : Script) : s.openSquare.colons = s.colons :=
  colons_pushGroup s _

@[simp] theorem colons_closeGroup (s : Script) (text : String) : (s.closeGroup text).colons = s.colons := by
  unfold closeGroup
  split
  · rfl
  · dsimp only
    split
    · rfl
    · rw [colons_release, colons_closeExpressions]
      rfl

@[simp] theorem colons_openBrace (s : Script) (closed : Option Group) :
    (s.openBrace closed).colons = s.colons := by
  unfold openBrace
  dsimp only
  split
  · split
    · rw [colons_forgetName]
      exact colons_beginEntry s
    · rw [colons_forgetName]
      exact (colons_release _ _).trans (colons_beginEntry s)
  · rw [colons_forgetName]
    exact colons_beginEntry s

@[simp] theorem colons_readComma (s : Script) : s.readComma.colons = s.colons := by
  obtain ⟨gs, _, h | h⟩ := readComma_cases s <;> rw [h] <;> rfl

/-! ## Tokens -/

/-- Whether the type parameters of a function are being read. -/
def InTypeParameters (s : Script) : Prop :=
  ∃ name functionLine depth, s.phase = .typeParameters name functionLine depth

/-- Whether a return type is being read. -/
def InReturnType (s : Script) : Prop :=
  ∃ g depth tokens, s.phase = .returnType g depth tokens

/-- The phase tells whether type parameters are read. -/
theorem inTypeParameters_congr (h : s'.phase = s.phase) : s'.InTypeParameters ↔ s.InTypeParameters := by
  rw [InTypeParameters, InTypeParameters, h]

/-- The phase tells whether a return type is read. -/
theorem inReturnType_congr (h : s'.phase = s.phase) : s'.InReturnType ↔ s.InReturnType := by
  rw [InReturnType, InReturnType, h]

/-- In ordinary code no type is read. -/
theorem not_inTypeParameters_of_statement (h : s.phase = .statement) : ¬s.InTypeParameters := by
  rintro ⟨_, _, _, hphase⟩
  rw [h] at hphase
  cases hphase

theorem not_inReturnType_of_statement (h : s.phase = .statement) : ¬s.InReturnType := by
  rintro ⟨_, _, _, hphase⟩
  rw [h] at hphase
  cases hphase

/-- From one state to another a token begins no return type, drops the conditionals that wait only if it is a
semicolon, begins type parameters only if it is an angle bracket, and closes no parenthesis unless it is one. -/
structure Passes (t : Token) (s s' : Script) : Prop where
  not_inReturnType : ¬s'.InReturnType
  inCase_eq : s.inCase = false → s'.inCase = false
  ternaries_eq : s'.ternaries = s.ternaries ∨ t.text = ";"
  typeParameters : s'.InTypeParameters → s.InTypeParameters ∨ t.text = "<"
  closedGroup_eq : s'.closedGroup = none ∨ t.text = ")"

/-- What keeps the registers and leads to a phase in which no type is read. -/
theorem passes_of_colons (hcolons : s'.colons = s.colons) (hclosed : s'.closedGroup = none ∨ t.text = ")")
    (hreturn : ¬s'.InReturnType) (htypes : s'.InTypeParameters → s.InTypeParameters ∨ t.text = "<") :
    Passes t s s' where
  not_inReturnType := hreturn
  inCase_eq h := (congrArg Prod.snd hcolons).trans h
  ternaries_eq := .inl (congrArg Prod.fst hcolons)
  typeParameters := htypes
  closedGroup_eq := hclosed

theorem passes_of_statement (hcolons : s'.colons = s.colons) (hphase : s'.phase = .statement)
    (hclosed : s'.closedGroup = none ∨ t.text = ")") : Passes t s s' :=
  passes_of_colons hcolons hclosed (not_inReturnType_of_statement hphase)
    fun h => absurd h (not_inTypeParameters_of_statement hphase)

/-- Ordinary code, but for the two tokens that may begin a return type or a `case`. -/
theorem readStatement_passes (hs : s.Ready) (closed : Option Group) (hcolon : t.text ≠ ":")
    (hcase : t.text ≠ "case") : Passes t s (s.readStatement closed t) := by
  have hready := hs.keeps (declare_keeps s t.text)
  have hkept {x : Script} (h : Keeps (s.declare t.text) x) (hcolons : x.colons = s.colons) : Passes t s x :=
    passes_of_statement hcolons (h.phase_eq.trans hready.1) (.inl (h.closedGroup_eq.trans hready.2))
  have hbegin := beginEntry_keeps (s.declare t.text)
  -- in the order in which the kinds of tokens are tried
  refine iteInduction (fun _ => ?_) fun _ => ?_
  · exact passes_of_statement (colons_beginEntry s) ((beginEntry_keeps s).phase_eq.trans hs.1)
      (.inl ((beginEntry_keeps s).closedGroup_eq.trans hs.2))
  refine iteInduction (fun _ => ?_) fun _ => ?_
  · exact passes_of_colons rfl (.inl hs.2) nofun nofun
  refine iteInduction (fun _ => ?_) fun _ => ?_
  · exact hkept ⟨hbegin.phase_eq, hbegin.closedGroup_eq, hbegin.question_eq⟩
      ((colons_beginEntry _).trans (colons_declare s _))
  refine iteInduction (fun _ => hkept (openParenthesis_keeps _) (by simp)) fun _ => ?_
  refine iteInduction (fun _ => hkept (openSquare_keeps _) (by simp)) fun _ => ?_
  refine iteInduction (fun _ => ?_) fun _ => ?_
  · refine passes_of_statement (by simp) ((closeGroup_frame _ _).1.trans hready.1) ?_
    by_cases hparen : t.text = ")"
    · exact .inr hparen
    · exact .inl (hready.closeGroup hparen).2
  refine iteInduction (fun _ => hkept (openBrace_keeps _ closed) (by simp)) fun _ => ?_
  refine iteInduction (fun _ => hkept ⟨rfl, rfl, rfl⟩ (colons_declare s _)) fun _ => ?_
  refine iteInduction (fun _ => passes_of_colons (colons_declare s _) (.inl hready.2) nofun nofun) fun _ => ?_
  refine iteInduction (fun h => absurd h hcolon) fun _ => ?_
  refine iteInduction (fun _ => hkept (hbegin.trans (takeName_keeps _)) (by simp)) fun _ => ?_
  refine iteInduction (fun _ => hkept (readComma_keeps _) (by simp)) fun _ => ?_
  refine iteInduction (fun hsemicolon => ?_) fun _ => ?_
  · have hphase := (readSemicolon_keeps (s.declare t.text)).phase_eq.trans hready.1
    exact ⟨not_inReturnType_of_statement hphase, fun _ => rfl, .inr hsemicolon,
      fun h => absurd h (not_inTypeParameters_of_statement hphase), .inl hready.2⟩
  exact iteInduction (fun h => absurd h hcase) fun _ => hkept hbegin (by simp)

/-- What passes from a state passes from another with the same registers, if that reads type parameters
whenever the first does. -/
theorem Passes.of_colons {x : Script} (h : Passes t x s') (hcolons : x.colons = s.colons)
    (htypes : x.InTypeParameters → s.InTypeParameters) : Passes t s s' where
  not_inReturnType := h.not_inReturnType
  inCase_eq hcase := h.inCase_eq ((congrArg Prod.snd hcolons).trans hcase)
  ternaries_eq := h.ternaries_eq.imp_left fun he => he.trans (congrArg Prod.fst hcolons)
  typeParameters hs' := (h.typeParameters hs').imp_left htypes
  closedGroup_eq := h.closedGroup_eq

/-- Outside a return type no phase takes what waits, but for the two tokens. -/
theorem readPhase_passes (hclosed : s.closedGroup = none) (hreturn : ¬s.InReturnType)
    (closed : Option Group) (hcolon : t.text ≠ ":") (hcase : t.text ≠ "case") :
    Passes t s (s.readPhase closed t) := by
  have hstatement (x : Script) (hready : x.Ready) (hcolons : x.colons = s.colons) (c : Option Group) :
      Passes t s (x.readStatement c t) :=
    (readStatement_passes hready c hcolon hcase).of_colons hcolons fun h =>
      absurd h (not_inTypeParameters_of_statement hready.1)
  have hended := hstatement { s with phase := .statement } ⟨rfl, hclosed⟩ rfl none
  unfold readPhase
  cases hp : s.phase with
  | statement => exact hstatement s ⟨hp, hclosed⟩ rfl closed
  | functionHead name functionLine =>
    have hsame : ¬s.InTypeParameters := by
      rintro ⟨_, _, _, h⟩
      rw [hp] at h
      cases h
    refine iteInduction (fun _ => hended) fun _ => iteInduction (fun _ => ?_) fun _ => ?_
    · exact passes_of_colons rfl (.inl hclosed) hreturn fun h => absurd h hsame
    refine iteInduction (fun h => passes_of_colons rfl (.inl hclosed) nofun fun _ => .inr h) fun _ => ?_
    refine iteInduction (fun _ => passes_of_colons rfl (.inl hclosed) nofun nofun) fun _ => ?_
    refine iteInduction (fun _ => ?_) fun _ => hended
    have hkeeps := openParameters_keeps { s with phase := .statement, declaring := false } name functionLine
    exact passes_of_statement (colons_openParameters _ _ _) hkeeps.phase_eq
      (.inl (hkeeps.closedGroup_eq.trans hclosed))
  | typeParameters name functionLine depth =>
    have hin : s.InTypeParameters := ⟨name, functionLine, depth, hp⟩
    refine iteInduction (fun _ => passes_of_colons rfl (.inl hclosed) nofun fun _ => .inl hin) fun _ => ?_
    refine iteInduction (fun _ => iteInduction (fun _ => ?_) fun _ => ?_) fun _ => ?_
    · exact passes_of_colons rfl (.inl hclosed) nofun nofun
    · exact passes_of_colons rfl (.inl hclosed) nofun fun _ => .inl hin
    · exact passes_of_colons rfl (.inl hclosed) hreturn fun _ => .inl hin
  | returnType g depth tokens => exact absurd ⟨g, depth, tokens, hp⟩ hreturn
  | arrowBody f =>
    refine iteInduction (fun _ => ?_) fun _ => ?_
    · have hkeeps := beginEntry_keeps { s with phase := .statement }
      exact passes_of_statement (colons_beginEntry _) hkeeps.phase_eq
        (.inl (hkeeps.closedGroup_eq.trans hclosed))
    · exact hstatement { s with phase := .statement, braces := s.braces.openExpression f s.groups.length }
        ⟨rfl, hclosed⟩ rfl none

/-- The question mark before a token is settled first. -/
theorem readToken_passes (hreturn : ¬s.InReturnType) (hcolon : t.text ≠ ":") (hcase : t.text ≠ "case") :
    Passes t (s.settleQuestion t) (s.readToken t) := by
  have hreturn' : ¬(s.settleQuestion t).InReturnType := by
    rwa [inReturnType_congr (settleQuestion_frame s t).1]
  unfold readToken
  dsimp only
  cases hclosed : (s.settleQuestion t).closedGroup with
  | none => exact readPhase_passes hclosed hreturn' none hcolon hcase
  | some g =>
    refine iteInduction (fun _ => ?_) fun _ => ?_
    · exact (readPhase_passes (s := { s.settleQuestion t with closedGroup := none }) rfl hreturn' (some g)
        hcolon hcase).of_colons rfl id
    · have hkeeps := release_keeps { s.settleQuestion t with closedGroup := none } g
      refine (readPhase_passes hkeeps.closedGroup_eq ?_ (some { g with decisions := 0 }) hcolon hcase).of_colons
        (colons_release _ g) (inTypeParameters_congr hkeeps.phase_eq).1
      rw [inReturnType_congr hkeeps.phase_eq]
      exact hreturn'

/-- What passes to a state passes to another that agrees with it. -/
theorem Passes.congr {x : Script} (h : Passes t s s') (hphase : x.phase = s'.phase)
    (hclosed : x.closedGroup = s'.closedGroup) (hcolons : x.colons = s'.colons) : Passes t s x where
  not_inReturnType := by
    rw [inReturnType_congr hphase]
    exact h.not_inReturnType
  inCase_eq hcase := (congrArg Prod.snd hcolons).trans (h.inCase_eq hcase)
  ternaries_eq := h.ternaries_eq.imp_left (congrArg Prod.fst hcolons).trans
  typeParameters := by
    rw [inTypeParameters_congr hphase]
    exact h.typeParameters
  closedGroup_eq := h.closedGroup_eq.imp_left hclosed.trans

/-- A token other than a colon or a `case` begins no return type, and drops what waits or leaves it. -/
theorem read_passes (table : DecisionTable) (hn : t.isNewline = false) (hreturn : ¬s.InReturnType)
    (hcolon : t.text ≠ ":") (hcase : t.text ≠ "case") :
    Passes t (s.settleQuestion t) (s.read table t) := by
  have htoken := readToken_passes hreturn hcolon hcase
  unfold read
  rw [if_neg (by simp [hn])]
  dsimp only
  split
  · unfold countDecision
    split
    · exact htoken.congr rfl rfl rfl
    · have hkeeps := record_keeps (s.readToken t) 1
      exact htoken.congr hkeeps.phase_eq hkeeps.closedGroup_eq (colons_record _ 1)
  · exact htoken.congr rfl rfl rfl

/-- An open question mark is one more conditional that waits, unless the token shows that it is none. -/
theorem colons_settleQuestion (s : Script) (t : Token) : (s.settleQuestion t).colons =
    (s.ternaries + (s.question && !(t.isCode && marksOptional t.text)).toNat, s.inCase) := by
  unfold settleQuestion
  cases hquestion : s.question with
  | false => rfl
  | true =>
    rw [if_pos rfl]
    cases hmarks : t.isCode && marksOptional t.text with
    | true => rfl
    | false =>
      obtain ⟨hternaries, hcase⟩ := Prod.mk.inj (colons_record { s with question := false } 1)
      rw [if_neg Bool.false_ne_true]
      exact Prod.ext (congrArg (· + 1) hternaries) hcase

/-- Announcing and crediting a token is not seen. -/
theorem feed_passes (table : DecisionTable) (hn : t.isNewline = false) (hreturn : ¬s.InReturnType)
    (hcolon : t.text ≠ ":") (hcase : t.text ≠ "case") :
    ∃ s', (script s).feed table t = script s' ∧ Passes t (s.settleQuestion t) s' ∧
      s'.question = (t.isCode && table.decides t.text && t.text == "?") := by
  have hread := read_passes (s := s.mapLedger (·.announce t.lineSpan)) table hn hreturn hcolon hcase
  have hquestion := read_question table (s.mapLedger (·.announce t.lineSpan)) t hn
  have hcredited : Passes t _ (((s.mapLedger (·.announce t.lineSpan)).read table t).mapLedger (·.credit)) :=
    hread.congr rfl rfl rfl
  refine ⟨_, feed_script_token hn, hcredited.of_colons ?_ ?_, hquestion⟩
  · rw [colons_settleQuestion, colons_settleQuestion]
    rfl
  · rw [inTypeParameters_congr (settleQuestion_frame _ t).1,
      inTypeParameters_congr (settleQuestion_frame s t).1]
    exact id

/-! ## Runs -/

/-- Code tokens without a question mark, a colon or a `case`. -/
def Plain (ts : List Token) : Prop :=
  ∀ t ∈ ts, t.isCode = true ∧ t.text ≠ "?" ∧ t.text ≠ ":" ∧ t.text ≠ "case"

/-- Plain tokens begin no return type. The conditionals that wait go on waiting unless one of the tokens is a
semicolon. -/
theorem run_plain (table : DecisionTable) {ts : List Token} (hts : Plain ts)
    (hreturn : ¬s.InReturnType) (hcase : s.inCase = false) (hquestion : s.question = false) :
    ∃ s', (script s).run table ts = script s' ∧
      ¬s'.InReturnType ∧ s'.inCase = false ∧ s'.question = false ∧
      (s'.ternaries = s.ternaries ∨ ∃ t ∈ ts, t.text = ";") ∧
      (s'.InTypeParameters → s.InTypeParameters ∨ ∃ t ∈ ts, t.text = "<") ∧
      (s'.closedGroup = none ∨ ts = [] ∧ s'.closedGroup = s.closedGroup ∨
        ∃ t ∈ ts.getLast?, t.text = ")") := by
  induction ts using List.reverseRecOn with
  | nil => exact ⟨s, rfl, hreturn, hcase, hquestion, .inl rfl, .inl, .inr (.inl ⟨rfl, rfl⟩)⟩
  | append_singleton ts t ih =>
    obtain ⟨x, hrun, hreturn', hcase', hquestion', hternaries, htypes, -⟩ :=
      ih fun u hu => hts u (List.mem_append_left _ hu)
    obtain ⟨hcode, hmark, hcolon, hcase⟩ := hts t (by simp)
    obtain ⟨s', hfeed, hpasses, hs'⟩ :=
      feed_passes table (Token.isNewline_of_isCode hcode) hreturn' hcolon hcase
    -- no question mark is left to be settled
    have hsettled : (x.settleQuestion t).colons = x.colons := by
      rw [colons_settleQuestion, hquestion']
      rfl
    refine ⟨s', by rw [run_append, hrun, run_cons, run_nil, hfeed], hpasses.not_inReturnType, ?_, ?_, ?_, ?_,
      ?_⟩
    · exact hpasses.inCase_eq ((congrArg Prod.snd hsettled).trans hcase')
    · rw [hs', beq_false_of_ne hmark, Bool.and_false]
    · rcases hpasses.ternaries_eq with he | hsemicolon
      · refine hternaries.imp (fun h => (he.trans (congrArg Prod.fst hsettled)).trans h) ?_
        rintro ⟨u, hu, htext⟩
        exact ⟨u, List.mem_append_left _ hu, htext⟩
      · exact .inr ⟨t, by simp, hsemicolon⟩
    · intro hin
      rcases hpasses.typeParameters hin with hin | hangle
      · refine (htypes ((inTypeParameters_congr (settleQuestion_frame x t).1).1 hin)).imp_right ?_
        rintro ⟨u, hu, htext⟩
        exact ⟨u, List.mem_append_left _ hu, htext⟩
      · exact .inr ⟨t, by simp, hangle⟩
    · refine hpasses.closedGroup_eq.imp_right fun hparen => .inr ⟨t, ?_, hparen⟩
      rw [List.getLast?_concat]
      rfl

/-! ## Nothing waits -/

/-- Nothing waits for a colon, and no question mark is open. -/
def Idle (s : Script) : Prop :=
  s.colons = (0, false) ∧ s.question = false

theorem colons_ite {c : Prop} [Decidable c] {x y : Script} {p : Nat × Bool} (hx : c → x.colons = p)
    (hy : ¬c → y.colons = p) : (if c then x else y).colons = p := by
  split
  · exact hx ‹_›
  · exact hy ‹_›

/-- A colon takes nothing that does not wait. -/
theorem colons_readColon_of_idle (h : s.colons = (0, false)) (closed : Option Group) :
    (s.readColon closed).colons = (0, false) := by
  have hafter {x y : Script} (hx : x.colons = (0, false)) (hy : y.colons = (0, false)) :
      (if x.inCase then { x with inCase := false }
        else if 0 < x.ternaries then { x with ternaries := x.ternaries - 1 } else y).colons = (0, false) := by
    obtain ⟨hternaries, hcase⟩ := Prod.mk.inj hx
    rw [if_neg (by simp [hcase]), if_neg (by simp [hternaries])]
    exact hy
  have hbegin : s.beginEntry.colons = (0, false) := (colons_beginEntry s).trans h
  unfold readColon
  dsimp only
  cases closed with
  | none => exact hafter hbegin ((colons_takeName _).trans hbegin)
  | some g =>
    have hwaits (c : Bool) : (if c then s.beginEntry.release g else s.beginEntry).colons = (0, false) :=
      colons_ite (fun _ => (colons_release _ g).trans hbegin) fun _ => hbegin
    exact hafter (hwaits _) (colons_ite (fun _ => (colons_takeName _).trans (hwaits _)) fun _ => hwaits _)

/-- Where nothing waits, ordinary code without `case` leaves it so. -/
theorem colons_readStatement_of_idle (h : s.colons = (0, false)) (closed : Option Group)
    (hcase : t.isCode = true → t.text ≠ "case") : (s.readStatement closed t).colons = (0, false) := by
  have hdeclared : (s.declare t.text).colons = (0, false) := (colons_declare s _).trans h
  have hbegin : (s.declare t.text).beginEntry.colons = (0, false) := (colons_beginEntry _).trans hdeclared
  -- in the order in which the kinds of tokens are tried
  unfold readStatement
  dsimp only
  refine colons_ite (fun _ => (colons_beginEntry s).trans h) fun hcode => ?_
  refine colons_ite (fun _ => h) fun _ => ?_
  refine colons_ite (fun _ => hbegin) fun _ => ?_
  refine colons_ite (fun _ => (colons_openParenthesis _).trans hdeclared) fun _ => ?_
  refine colons_ite (fun _ => (colons_openSquare _).trans hdeclared) fun _ => ?_
  refine colons_ite (fun _ => (colons_closeGroup _ _).trans hdeclared) fun _ => ?_
  refine colons_ite (fun _ => (colons_openBrace _ closed).trans hdeclared) fun _ => ?_
  refine colons_ite (fun _ => hdeclared) fun _ => ?_
  refine colons_ite (fun _ => hdeclared) fun _ => ?_
  refine colons_ite (fun _ => colons_readColon_of_idle hdeclared closed) fun _ => ?_
  refine colons_ite (fun _ => (colons_takeName _).trans hbegin) fun _ => ?_
  refine colons_ite (fun _ => (colons_readComma _).trans hdeclared) fun _ => ?_
  refine colons_ite (fun _ => rfl) fun _ => ?_
  exact colons_ite (fun htext => absurd htext (hcase (by simpa using hcode))) fun _ => hbegin

/-- So does every phase. -/
theorem colons_readPhase_of_idle (h : s.colons = (0, false)) (closed : Option Group)
    (hcase : t.isCode = true → t.text ≠ "case") : (s.readPhase closed t).colons = (0, false) := by
  have hstatement (x : Script) (hx : x.colons = (0, false)) (c : Option Group) :
      (x.readStatement c t).colons = (0, false) := colons_readStatement_of_idle hx c hcase
  have hended (c : Option Group) : ({ s with phase := .statement }.readStatement c t).colons = (0, false) :=
    hstatement { s with phase := .statement } h c
  unfold readPhase
  cases s.phase with
  | statement => exact hstatement s h closed
  | functionHead name functionLine =>
    refine colons_ite (fun _ => hended none) fun _ => colons_ite (fun _ => h) fun _ => ?_
    refine colons_ite (fun _ => h) fun _ => colons_ite (fun _ => h) fun _ => ?_
    exact colons_ite (fun _ => (colons_openParameters _ _ _).trans h) fun _ => hended none
  | typeParameters name functionLine depth =>
    exact colons_ite (fun _ => h) fun _ => colons_ite (fun _ => colons_ite (fun _ => h) fun _ => h) fun _ => h
  | returnType g depth tokens =>
    have hreleased : ({ s with phase := .statement }.release g).colons = (0, false) :=
      (colons_release { s with phase := .statement } g).trans h
    refine colons_ite (fun _ => hended (some g)) fun _ => colons_ite (fun _ => h) fun _ => ?_
    refine colons_ite (fun _ => hstatement _ hreleased none) fun _ => ?_
    exact colons_ite (fun _ => h) fun _ => colons_ite (fun _ => h) fun _ => h
  | arrowBody f =>
    refine colons_ite (fun _ => (colons_beginEntry { s with phase := .statement }).trans h) fun _ => ?_
    exact hstatement { s with phase := .statement, braces := s.braces.openExpression f s.groups.length } h none

/-- And no question mark is left to settle. -/
theorem colons_readToken_of_idle (h : s.Idle) (hcase : t.isCode = true → t.text ≠ "case") :
    (s.readToken t).colons = (0, false) := by
  have hsettled : (s.settleQuestion t).colons = (0, false) := by
    obtain ⟨hternaries, hcase⟩ := Prod.mk.inj h.1
    rw [colons_settleQuestion, h.2, hternaries, hcase]
    rfl
  unfold readToken
  dsimp only
  cases (s.settleQuestion t).closedGroup with
  | none => exact colons_readPhase_of_idle hsettled none hcase
  | some g =>
    have hreleased : ({ s.settleQuestion t with closedGroup := none }.release g).colons = (0, false) :=
      (colons_release { s.settleQuestion t with closedGroup := none } g).trans hsettled
    refine colons_ite (fun _ => ?_) fun _ => colons_readPhase_of_idle hreleased _ hcase
    exact colons_readPhase_of_idle (s := { s.settleQuestion t with closedGroup := none }) hsettled (some g)
      hcase

/-- Nothing begins to wait at a token other than a question mark and a `case`. -/
theorem Idle.read (h : s.Idle) (table : DecisionTable) (hn : t.isNewline = false)
    (ht : t.isCode = true → t.text ≠ "?" ∧ t.text ≠ "case") : (s.read table t).Idle := by
  have htoken := colons_readToken_of_idle h fun hcode => (ht hcode).2
  refine ⟨?_, ?_⟩
  · unfold Script.read
    rw [if_neg (by simp [hn])]
    show (if t.isCode && table.decides t.text then (s.readToken t).countDecision t.text
      else s.readToken t).colons = _
    refine colons_ite (fun _ => colons_ite (fun _ => htoken) fun _ => ?_) fun _ => htoken
    exact (colons_record _ 1).trans htoken
  · rw [read_question table s t hn]
    cases hcode : t.isCode with
    | false => rfl
    | true => rw [beq_false_of_ne (ht hcode).1, Bool.and_false]

/-- Nothing begins to wait at a line break. -/
theorem Idle.readNewline (h : s.Idle) (implicit : Bool) : (s.readNewline implicit).Idle := by
  have hend (x : Script) (hx : x.colons = (0, false)) : x.endLine.colons = (0, false) :=
    colons_ite (fun _ => hx) fun _ => hx
  refine ⟨?_, (readNewline_question s implicit).trans h.2⟩
  unfold Script.readNewline
  split
  · exact h.1
  · split
    · exact h.1
    · exact hend _ ((colons_release _ _).trans h.1)
    · exact hend s h.1

/-- Nothing begins to wait where no question mark and no `case` is read. -/
theorem Idle.run (h : s.Idle) (table : DecisionTable) {ts : List Token}
    (hts : ∀ t ∈ ts, t.isCode = true → t.text ≠ "?" ∧ t.text ≠ "case") :
    ∃ s', (script s).run table ts = script s' ∧ s'.Idle := by
  induction ts generalizing s with
  | nil => exact ⟨s, rfl, h⟩
  | cons t ts ih =>
    have hrest := fun u hu => hts u (List.mem_cons_of_mem t hu)
    rw [run_cons]
    cases ht : t.isNewline with
    | true =>
      rw [feed_script_newline ht]
      exact ih (Idle.readNewline (s := s.mapLedger Ledger.nextLine) h t.implicit) hrest
    | false =>
      have hread := Idle.read (s := s.mapLedger (·.announce t.lineSpan)) h table ht (hts t List.mem_cons_self)
      rw [feed_script_token ht]
      exact ih (s := (Script.read table _ t).mapLedger (·.credit)) hread hrest

end Cyclomatic.Recognizer.Script

namespace Cyclomatic.Recognizer

open Script

/-- Whether a conditional or a `case` waits for its colon, or a question mark may yet be that of one. -/
def awaitsColon : Recognizer → Bool
  | script s => s.question || decide (0 < s.ternaries) || s.inCase
  | _ => false

/-- A colon is not waited for exactly if nothing waits and no question mark is open. -/
theorem awaitsColon_eq_false_iff {s : Script} : (script s).awaitsColon = false ↔ s.Idle := by
  simp only [awaitsColon, Idle, colons, Prod.mk.injEq, Bool.or_eq_false_iff, decide_eq_false_iff_not, not_lt,
    Nat.le_zero]
  tauto

/-- Without question marks and `case`s no colon is waited for. -/
theorem awaitsColon_run {language : Language} (h : IsScript language) {ts : List Token}
    (hts : ∀ t ∈ ts, t.isCode = true → t.text ≠ "?" ∧ t.text ≠ "case") :
    ((start language).run (.of language) ts).awaitsColon = false := by
  have hstart : start language = script (Script.start 1) := by
    rcases h with rfl | rfl <;> rfl
  obtain ⟨s, hrun, hidle⟩ := Idle.run (s := Script.start 1) ⟨rfl, rfl⟩ (.of language) hts
  rw [hstart, hrun]
  exact awaitsColon_eq_false_iff.2 hidle

end Cyclomatic.Recognizer
