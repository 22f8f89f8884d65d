import Mathlib
import Cyclomatic.Proofs.Declaration
import Cyclomatic.Proofs.Recognizer.Colon
import Cyclomatic.Proofs.Recognizer.ScriptOutline

/-!
# Reading a return type

Between the colon after parameters and the body, all that a pass keeps of a type is the number of its open
brackets (`Script.depthAfterAll`). While the tokens go on with the type, nothing else happens but that lines
pass and decisions are counted for nobody (`Script.InType`). So if the type closes what it opens, the brace
behind it opens the same body as one directly behind the parameters (`Recognizer.sameOutline_brace`).
-/

namespace Cyclomatic

namespace Recognizer.Script

/-! ## Depths -/

/-- The brackets that a type opens. -/
def opensType (text : String) : Bool :=
  ["(", "[", "<", "\x7b"].contains text

/-- The brackets that a type closes. -/
def closesType (text : String) : Bool :=
  [")", "]", ">", "\x7d"].contains text

/-- The number of open brackets of all kinds after a token of a type. -/
def depthAfter (depth : Nat) (text : String) : Nat :=
  if opensType text then depth + 1 else if closesType text then depth - 1 else depth

/-- Inside `depth` brackets of a type a token goes on with it. -/
def GoesOn (depth : Nat) (text : String) : Prop :=
  text ≠ "?" ∧ (depth = 0 → text ≠ "\x7b" ∧ text ≠ "=>" ∧ endsType text = false)

instance (depth : Nat) (text : String) : Decidable (GoesOn depth text) :=
  inferInstanceAs (Decidable (_ ∧ _))

/-- Inside brackets only a question mark is of account. -/
theorem goesOn_succ (depth : Nat) {text : String} (h : text ≠ "?") : GoesOn (depth + 1) text :=
  ⟨h, nofun⟩

/-- The number of open brackets after tokens, if each of them goes on with the type. -/
def depthAfterAll (depth : Nat) (texts : List String) : Option Nat :=
  texts.foldlM (fun depth text => if GoesOn depth text then some (depthAfter depth text) else none) depth

@[simp] theorem depthAfterAll_nil (depth : Nat) : depthAfterAll depth [] = some depth := rfl

/-- Texts may be followed piece by piece. -/
theorem depthAfterAll_append (depth : Nat) (texts texts' : List String) :
    depthAfterAll depth (texts ++ texts') = (depthAfterAll depth texts).bind (depthAfterAll · texts') := by
  simp [depthAfterAll, List.foldlM_append]

theorem depthAfterAll_cons {depth : Nat} {text : String} (h : GoesOn depth text) (texts : List String) :
    depthAfterAll depth (text :: texts) = depthAfterAll (depthAfter depth text) texts := by
  simp [depthAfterAll, h]

/-- An opening bracket leads deeper into the type. -/
theorem depthAfterAll_opening {depth : Nat} {text : String} (h : GoesOn depth text)
    (hopens : opensType text = true) (texts : List String) :
    depthAfterAll depth (text :: texts) = depthAfterAll (depth + 1) texts := by
  rw [depthAfterAll_cons h, depthAfter, if_pos hopens]

/-- Inside the type a closing bracket leads out again. -/
theorem depthAfterAll_closing (depth : Nat) {text : String} (hopens : opensType text = false)
    (hcloses : closesType text = true) (texts : List String) :
    depthAfterAll (depth + 1) (text :: texts) = depthAfterAll depth texts := by
  have hquestion : text ≠ "?" := by
    rintro rfl
    cases hcloses
  rw [depthAfterAll_cons (goesOn_succ depth hquestion), depthAfter, hopens, hcloses]
  rfl

/-- A token that is no bracket leaves the number of open ones as it is. -/
theorem depthAfterAll_other {depth : Nat} {text : String} (h : GoesOn depth text)
    (hopens : opensType text = false) (hcloses : closesType text = false) (texts : List String) :
    depthAfterAll depth (text :: texts) = depthAfterAll depth texts := by
  rw [depthAfterAll_cons h, depthAfter, hopens, hcloses]
  rfl

/-! ## Lines -/

/-- Whether no line ends outside the brackets of a type that has begun, inside `depth` brackets and with
`tokens` tokens before. -/
def breaksInside (depth tokens : Nat) : List Token → Bool
  | [] => true
  | t :: ts =>
    if t.isNewline then
      (t.implicit || decide (0 < depth) || tokens == 0) && breaksInside depth tokens ts
    else breaksInside (depthAfter depth t.text) (tokens + 1) ts

/-- A line break does not end the type: it is implicit, or inside brackets, or before the first token. -/
theorem breaksInside_newline {t : Token} (ht : t.isNewline = true) {depth tokens : Nat} {ts : List Token}
    (h : breaksInside depth tokens (t :: ts) = true) :
    (t.implicit = true ∨ 0 < depth ∨ tokens = 0) ∧ breaksInside depth tokens ts = true := by
  simpa [breaksInside, ht, or_assoc] using h

/-- A token moves to the depth behind it. -/
theorem breaksInside_token {t : Token} (ht : t.isNewline = false) {depth tokens : Nat} {ts : List Token}
    (h : breaksInside depth tokens (t :: ts) = true) :
    breaksInside (depthAfter depth t.text) (tokens + 1) ts = true := by
  simpa [breaksInside, ht] using h

end Recognizer.Script

open Recognizer

/-! ## Passes -/

/-- No function is open in the braces `b'`, and up to lines nothing has happened since `b`. -/
structure Braces.Stays (b b' : Braces) : Prop where
  depth_eq : b'.depth = b.depth
  bodies_eq : b'.bodies = []
  functions_eq : b'.ledger.depth = 0
  closed_eq : b'.ledger.closedOutlines = b.ledger.closedOutlines

theorem Braces.Stays.withLedger {b b' : Braces} (h : Stays b b') {l : Ledger}
    (hdepth : l.depth = b'.ledger.depth) (hclosed : l.closedOutlines = b'.ledger.closedOutlines) :
    Stays b { b' with ledger := l } :=
  ⟨h.depth_eq, h.bodies_eq, hdepth.trans h.functions_eq, hclosed.trans h.closed_eq⟩

/-- The braces on line 0, with the functions that have closed. -/
def Braces.closedOnly (b : Braces) : Braces :=
  { depth := b.depth, ledger := { line := 0, closed := b.ledger.closed } }

/-- Up to outlines the braces are those with the closed functions only. -/
theorem Braces.Stays.closedOnly {b b' : Braces} (h : Stays b b') :
    Corresponds .outline b' b.closedOnly := by
  refine ⟨h.depth_eq.symm, h.bodies_eq.symm, rfl, h.closed_eq.symm, ?_⟩
  rw [Ledger.openOutlines, Ledger.openOutlines, List.eq_nil_of_length_eq_zero h.functions_eq]
  rfl

namespace Recognizer

namespace Script

variable {s : Script} {b : Braces} {g : Group} {depth tokens : Nat} {t : Token} {table : DecisionTable}

/-- The parameters of a function called `name` have just closed. Nothing else is open, and nothing waits for a
colon. -/
structure AwaitsBody (name : String) (s : Script) : Prop where
  closed : ∃ g ∈ s.closedGroup, g.opener = name ∧ g.isCallable = true ∧ g.isControl = false
  groups_eq : s.groups = []
  functions_eq : s.braces.ledger.depth = 0
  idle : s.Idle

/-- A return type after the parameters `g` is being read. Nothing else is open, and up to lines nothing has
happened to the braces since `b`. -/
inductive InType (b : Braces) (g : Group) (depth tokens : Nat) : Script → Prop
  | mk (assignedName : String) (nameLocked : Bool) (previous : Option String) {braces : Braces}
      (h : Braces.Stays b braces) :
      InType b g depth tokens
        { phase := .returnType g depth tokens, assignedName, nameLocked, previous, braces }

/-- The ledger may change while the closed functions and the depth stay. -/
theorem InType.mapLedger (h : InType b g depth tokens s) {f : Ledger → Ledger}
    (hdepth : ∀ l : Ledger, (f l).depth = l.depth)
    (hclosed : ∀ l : Ledger, (f l).closedOutlines = l.closedOutlines) :
    InType b g depth tokens (s.mapLedger f) := by
  obtain ⟨assignedName, nameLocked, previous, hstays⟩ := h
  exact .mk assignedName nameLocked previous (hstays.withLedger (hdepth _) (hclosed _))

/-- While a type is read, the braces stay. -/
theorem InType.stays (h : InType b g depth tokens s) : Braces.Stays b s.braces := by
  obtain ⟨_, _, _, hstays⟩ := h
  exact hstays

/-- Where a line may end, the end of a line does nothing. -/
theorem InType.readNewline (h : InType b g depth tokens s) {implicit : Bool}
    (hbreak : implicit = true ∨ 0 < depth ∨ tokens = 0) :
    InType b g depth tokens (s.readNewline implicit) := by
  obtain ⟨assignedName, nameLocked, previous, hstays⟩ := h
  have hclose (x : Braces) (hx : x.bodies = []) : x.closeExpressions 0 = x := by
    rw [Braces.closeExpressions, Braces.closeWhile, hx]
    rfl
  unfold Script.readNewline
  split
  · exact .mk assignedName nameLocked previous hstays
  · rename_i hexplicit
    split
    · rename_i hphase
      cases hphase
    · rename_i hphase
      obtain ⟨rfl, rfl, rfl⟩ := ScriptPhase.returnType.inj hphase
      rcases hbreak with h | h | h
      · exact absurd h hexplicit
      · exact absurd h (lt_irrefl 0)
      · cases h
    · refine .mk assignedName false previous ?_
      rw [hclose _ hstays.bodies_eq]
      exact hstays

/-- A token that goes on with the type changes its depth and nothing else. -/
theorem readReturnType_of_goesOn (s : Script) (g : Group) (tokens : Nat) (ht : t.isCode = true)
    (hgoes : GoesOn depth t.text) : s.readReturnType g depth tokens t =
      { s with phase := .returnType g (depthAfter depth t.text) (tokens + 1) } := by
  have hbrace : ¬(depth = 0 ∧ t.isCode = true ∧ t.text = "\x7b") :=
    fun ⟨hzero, _, htext⟩ => (hgoes.2 hzero).1 htext
  have harrow : ¬(depth = 0 ∧ t.isCode = true ∧ t.text = "=>") :=
    fun ⟨hzero, _, htext⟩ => (hgoes.2 hzero).2.1 htext
  have hend : ¬(depth = 0 ∧ t.isCode = true ∧ endsType t.text = true) :=
    fun ⟨hzero, _, htext⟩ => Bool.eq_false_iff.1 (hgoes.2 hzero).2.2 htext
  unfold readReturnType depthAfter opensType closesType
  dsimp only
  rw [if_neg hbrace, if_neg harrow, if_neg hend]
  simp only [ht, true_and]
  split
  · rfl
  · split <;> rfl

/-- A token that goes on with the type is counted, and no more. -/
theorem InType.read (h : InType b g depth tokens s) (table : DecisionTable) (ht : t.isCode = true)
    (hgoes : GoesOn depth t.text) :
    InType b g (depthAfter depth t.text) (tokens + 1) (s.read table t) := by
  obtain ⟨assignedName, nameLocked, previous, hstays⟩ := h
  rename_i braces
  have htoken : Script.readToken
      { phase := .returnType g depth tokens, assignedName, nameLocked, previous, braces } t =
        { phase := .returnType g (depthAfter depth t.text) (tokens + 1), assignedName, nameLocked, previous,
          braces } :=
    readReturnType_of_goesOn _ g tokens ht hgoes
  unfold Script.read
  rw [if_neg (by simp [Token.isNewline_of_isCode ht]), htoken]
  dsimp only
  split
  · rw [countDecision, if_neg hgoes.1]
    exact .mk assignedName nameLocked _
      (hstays.withLedger (Ledger.recordDecisions_depth _ _) (Ledger.closedOutlines_recordDecisions _ _))
  · exact .mk assignedName nameLocked _ hstays

/-- The state behind the brace of a function with the parameters `g`, when nothing else is open. -/
def inBody (g : Group) (b : Braces) : Script :=
  { previous := some "\x7b", braces := b.openBody ⟨g.opener, g.count, g.startLine, g.decisions⟩ }

/-- The opening brace after parameters, when nothing else is open. -/
theorem readStatement_brace (hg : g.isCallable = true) (ht : t.IsText "\x7b") (assignedName : String)
    (nameLocked declaring : Bool) (previous : Option String) (braces : Braces) :
    readStatement { assignedName, nameLocked, declaring, previous, braces } (some g) t =
      { inBody g braces with previous } := by
  have hname : isName "\x7b" = false := by decide
  have hdeclare : declare { assignedName, nameLocked, declaring, previous, braces } "\x7b" =
      { assignedName, nameLocked, previous, braces } := by
    cases declaring <;> simp [declare, hname]
  rw [(readStatement_signature _ (some g) ht.1).1 ht.2, hdeclare, openBrace]
  dsimp only
  rw [if_pos hg]
  rfl

/-- What is read of a token that is code and no decision. -/
theorem read_of_not_decides (s : Script) (ht : t.isCode = true) (htable : table.decides t.text = false) :
    s.read table t = { s.readToken t with previous := some t.text } := by
  simp [Script.read, Token.isNewline_of_isCode ht, ht, htable]

/-- A brace after the type opens the body. -/
theorem InType.read_brace (h : InType b g 0 tokens s) (hg : g.isCallable = true)
    (htable : table.decides "\x7b" = false) (ht : t.IsText "\x7b") : s.read table t = inBody g s.braces := by
  obtain ⟨assignedName, nameLocked, previous, hstays⟩ := h
  rename_i braces
  rw [read_of_not_decides _ ht.1 (by rwa [ht.2]), ht.2]
  have htoken : Script.readToken
      { phase := .returnType g 0 tokens, assignedName, nameLocked, previous, braces } t =
        readStatement { assignedName, nameLocked, previous, braces } (some g) t :=
    if_pos ⟨rfl, ht⟩
  rw [htoken, readStatement_brace hg ht]
  rfl

/-- The state `s` without anything that is open or waits. -/
def cleared (s : Script) : Script :=
  { assignedName := s.assignedName, nameLocked := s.nameLocked, previous := s.previous, braces := s.braces }

section Awaits

variable {name : String} (h : s.AwaitsBody name) (hg : g ∈ s.closedGroup) (hphase : s.phase = .statement)

include h hg hphase

/-- A token that keeps the signature is read as ordinary code after the parameters. -/
theorem AwaitsBody.readToken_eq (ht : keepsSignature t = true) :
    s.readToken t = readStatement { s.cleared with declaring := s.declaring } (some g) t := by
  obtain ⟨-, hgroups, -, hcolons, hquestion⟩ := h
  obtain ⟨hternaries, hcase⟩ := Prod.mk.inj hcolons
  obtain ⟨phase, groups, closedGroup, assignedName, nameLocked, declaring, question, ternaries, inCase,
    previous, braces⟩ := s
  subst hphase hgroups hquestion hternaries hcase
  obtain rfl : closedGroup = some g := hg
  exact if_pos ht

/-- A brace opens the body. -/
theorem AwaitsBody.read_brace (hcallable : g.isCallable = true) (htable : table.decides "\x7b" = false)
    (ht : t.IsText "\x7b") : s.read table t = inBody g s.braces := by
  have hkeeps : keepsSignature t = true := (keepsSignature_iff t).2 ⟨ht.1, .inl ht.2⟩
  rw [read_of_not_decides _ ht.1 (by rwa [ht.2]), ht.2, h.readToken_eq hg hphase hkeeps, cleared,
    readStatement_brace hcallable ht]
  rfl

/-- A colon begins a return type. -/
theorem AwaitsBody.read_colon (hcontrol : g.isControl = false) (hstays : Braces.Stays b s.braces)
    (htable : table.decides ":" = false) (ht : t.IsText ":") : InType b g 0 0 (s.read table t) := by
  have hkeeps : keepsSignature t = true := (keepsSignature_iff t).2 ⟨ht.1, .inr (.inr ht.2)⟩
  have hdeclare : declare { s.cleared with declaring := s.declaring } ":" = s.cleared := by
    have hname : isName ":" = false := by decide
    cases hdeclaring : s.declaring <;> simp [declare, hname, cleared]
  have hcolon : s.cleared.readColon (some g) = { s.cleared with phase := .returnType g 0 0 } := by
    simp [readColon, beginEntry, hcontrol, cleared]
  rw [read_of_not_decides _ ht.1 (by rwa [ht.2]), ht.2, h.readToken_eq hg hphase hkeeps,
    (readStatement_signature _ (some g) ht.1).2.2 ht.2, hdeclare, hcolon]
  exact .mk _ _ _ hstays

end Awaits

/-- The body of a function is the same up to lines, however the type before it was read. -/
theorem sameOutline_inBody {b₁ b₂ : Braces} (h₁ : Braces.Stays b b₁) (h₂ : Braces.Stays b b₂) (g : Group) :
    SameOutline (inBody g b₁) (inBody g b₂) := by
  have hbody {b' : Braces} (h : Braces.Stays b b') : Corresponds .outline (inBody g b')
      (inBody (g.onLine fun _ => 0) b.closedOnly) :=
    ⟨_, h.closedOnly.openBody trivial, rfl⟩
  exact ⟨_, hbody h₁, hbody h₂⟩

end Script

open Script

variable {s : Script} {b : Braces} {g : Group} {depth depth' tokens : Nat} {table : DecisionTable}

/-- A type is read token by token. -/
theorem run_inType (h : InType b g depth tokens s) (table : DecisionTable) {ts : List Token}
    {texts : List String} (hts : Spells ts texts) (hdepth : depthAfterAll depth texts = some depth')
    (hbreaks : breaksInside depth tokens ts = true) :
    ∃ s' tokens', (script s).run table ts = script s' ∧ InType b g depth' tokens' s' := by
  induction ts generalizing s depth tokens texts with
  | nil =>
    obtain rfl : texts = [] := List.map_eq_nil_iff.1 hts.symm
    obtain rfl := Option.some.inj hdepth
    exact ⟨s, tokens, rfl, h⟩
  | cons t ts ih =>
    rw [run_cons]
    cases ht : t.isNewline with
    | true =>
      obtain ⟨hbreak, hrest⟩ := breaksInside_newline ht hbreaks
      have hline := h.mapLedger (f := Ledger.nextLine) (fun _ => rfl) fun _ => rfl
      rw [feed_script_newline ht]
      exact ih (hline.readNewline hbreak) (spells_newline ht hts) hdepth hrest
    | false =>
      obtain ⟨rest, rfl, hcode, hrest⟩ := spells_token ht hts
      have hgoes : GoesOn depth t.text := by
        by_contra hno
        simp [depthAfterAll, hno] at hdepth
      have hannounced := h.mapLedger (f := (·.announce t.lineSpan)) (fun _ => rfl) fun _ => rfl
      rw [depthAfterAll_cons hgoes] at hdepth
      rw [feed_script_token ht]
      exact ih ((hannounced.read table hcode hgoes).mapLedger (Ledger.credit_depth · 1)
        (Ledger.closedOutlines_credit · 1)) hrest hdepth (breaksInside_token ht hbreaks)

section Brace

variable {name : String} {colon brace brace' : Token} {type : List Token}

/-- The signature of a body is among those of its ledger. -/
theorem mem_signatures_inBody (g : Group) (b : Braces) :
    (if g.opener.isEmpty then Ledger.anonymous else g.opener, (g.count : Int)) ∈
      (inBody g b).braces.ledger.signatures := by
  show _ ∈ (b.enterFunction ⟨g.opener, g.count, g.startLine, g.decisions⟩).ledger.signatures
  rw [Ledger.signatures, Braces.outlines_enterFunction]
  simp [Signature.outline, FunctionOutline.signature]

/-- With a return type and without one, the brace after the parameters opens the same body. -/
theorem sameOutline_brace (h : s.AwaitsBody name) (hs : s.Sound) (hscopes : s.braces.WellNested)
    (hcolon : colon.IsText ":") (hbrace : brace.IsText "\x7b") (hbrace' : brace'.IsText "\x7b")
    (htable : table.decides ":" = false ∧ table.decides "\x7b" = false) {texts : List String}
    (htype : Spells type texts) (hdepth : depthAfterAll 0 texts = some 0)
    (hlines : breaksInside 0 0 type = true) :
    ∃ (y y' : Script) (count : Nat), (script s).feed table brace = script y ∧
      (script s).run table (colon :: (type ++ [brace'])) = script y' ∧ SameOutline y y' ∧
      (if name.isEmpty then Ledger.anonymous else name, (count : Int)) ∈ y.braces.ledger.signatures := by
  obtain ⟨g, hg, rfl, hcallable, hcontrol⟩ := h.closed
  -- only where statements are read a group that has closed waits for the next token
  have hphase : s.phase = .statement := by
    refine hs.resolve_left ?_
    rw [show s.closedGroup = some g from hg]
    exact Option.some_ne_none g
  have hbodies : s.braces.bodies = [] :=
    List.eq_nil_of_length_eq_zero (hscopes.length_bodies.trans h.functions_eq)
  have hstays (span : Int) : Braces.Stays s.braces (s.mapLedger (·.announce span)).braces :=
    ⟨rfl, hbodies, h.functions_eq, rfl⟩
  have hannounced (span : Int) : (s.mapLedger (·.announce span)).AwaitsBody g.opener :=
    ⟨h.closed, h.groups_eq, h.functions_eq, h.idle⟩
  -- the colon begins the type, and the type goes on to the brace
  have hbegun : InType s.braces g 0 0
      (((s.mapLedger (·.announce colon.lineSpan)).read table colon).mapLedger (·.credit)) :=
    ((hannounced _).read_colon hg hphase hcontrol (hstays _) htable.1 hcolon).mapLedger
      (Ledger.credit_depth · 1) (Ledger.closedOutlines_credit · 1)
  obtain ⟨x, tokens, hx, hend⟩ := run_inType hbegun table htype hdepth hlines
  have hopened : InType s.braces g 0 tokens (x.mapLedger (·.announce brace'.lineSpan)) :=
    hend.mapLedger (fun _ => rfl) fun _ => rfl
  refine ⟨(inBody g (s.mapLedger (·.announce brace.lineSpan)).braces).mapLedger (·.credit),
    (inBody g (x.mapLedger (·.announce brace'.lineSpan)).braces).mapLedger (·.credit), g.count, ?_, ?_,
    (sameOutline_inBody (hstays _) hopened.stays g).credit, ?_⟩
  · rw [feed_script_token (Token.isNewline_of_isCode hbrace.1),
      (hannounced _).read_brace hg hphase hcallable htable.2 hbrace]
  · rw [run_cons, feed_script_token (Token.isNewline_of_isCode hcolon.1), run_append, hx, run_cons, run_nil,
      feed_script_token (Token.isNewline_of_isCode hbrace'.1), hopened.read_brace hcallable htable.2 hbrace']
  · show _ ∈ (Ledger.credit _ 1).signatures
    rw [Ledger.signatures_credit]
    exact mem_signatures_inBody g _

end Brace

end Recognizer

end Cyclomatic
