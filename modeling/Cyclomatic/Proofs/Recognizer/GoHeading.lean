import Mathlib
import Cyclomatic.Proofs.ParameterList
import Cyclomatic.Proofs.Recognizer.GoSignature
import Cyclomatic.Proofs.Recognizer.Pass
import Cyclomatic.Proofs.Ledger.History

/-!
# Reading a Go signature

While a signature is read the braces are left alone, so its tokens can be followed through the phase and the
signature only. `Go.Leads table p g ts q h` says that from phase `p` with signature `g` the tokens `ts` lead to
phase `q` with signature `h`, and that no function opens or closes on the way. There is one lemma for each part
of a signature: type parameters (`Go.leads_typeParameters`), a parenthesized list (`Go.leads_group`) and the
results (`Go.leads_results`). Then the brace of the body opens the function (`Go.opensAtEnd`).
-/

namespace Cyclomatic

/-! ## Functions that open -/

/-- The same functions are open, and the same have closed. -/
def Ledger.SameScopes (l m : Ledger) : Prop :=
  m.frames.map (·.head) = l.frames.map (·.head) ∧ m.functions = l.functions

theorem Ledger.SameScopes.trans {l m p : Ledger} (h : l.SameScopes m) (h' : m.SameScopes p) :
    l.SameScopes p :=
  ⟨h'.1.trans h.1, h'.2.trans h.2⟩

theorem Ledger.SameScopes.depth_eq {l m : Ledger} (h : l.SameScopes m) : m.depth = l.depth := by
  simpa [Ledger.depth] using congrArg List.length h.1

theorem Ledger.sameScopes_credit (l : Ledger) (lineSpan : Int) : l.SameScopes (l.credit lineSpan) :=
  ⟨l.map_frames_credit lineSpan _ Frame.head_credit, l.credit_functions lineSpan⟩

theorem Ledger.sameScopes_recordDecisions (l : Ledger) (count : Int) :
    l.SameScopes (l.recordDecisions count) :=
  ⟨l.map_frames_recordDecisions count _ fun _ _ => rfl, l.recordDecisions_functions count⟩

namespace Recognizer

/-- Tokens open one function, with their last token, and until then no function opens or closes. -/
def OpensAtEnd (table : DecisionTable) (r : Recognizer) (ts : List Token) (f : FunctionHead) : Prop :=
  (∀ before after, ts = before ++ after → after ≠ [] → r.ledger.SameScopes (r.run table before).ledger) ∧
    (r.run table ts).ledger.frames.map (·.head) = f :: r.ledger.frames.map (·.head) ∧
      (r.run table ts).ledger.functions = r.ledger.functions

namespace Go

variable {table : DecisionTable} {p q r : GoPhase} {g h k : GoSignature} {ts us : List Token} {t : Token}
  {b : Braces} {line : Int}

/-! ## Following the phase and the signature -/

/-- From one phase and signature tokens lead to another, while no function opens or closes. -/
def Leads (table : DecisionTable) (p : GoPhase) (g : GoSignature) (ts : List Token) (q : GoPhase)
    (h : GoSignature) : Prop :=
  ∀ b : Braces, (∃ c : Braces, (go ⟨p, g, b⟩).run table ts = go ⟨q, h, c⟩) ∧
    ∀ before after, ts = before ++ after →
      b.ledger.SameScopes ((go ⟨p, g, b⟩).run table before).ledger

theorem leads_nil : Leads table p g [] p g := by
  refine fun b => ⟨⟨b, rfl⟩, fun before after hts => ?_⟩
  obtain ⟨rfl, -⟩ := List.append_eq_nil_iff.1 hts.symm
  exact ⟨rfl, rfl⟩

theorem Leads.append (hts : Leads table p g ts q h) (hus : Leads table q h us r k) :
    Leads table p g (ts ++ us) r k := by
  intro b
  obtain ⟨⟨c, hc⟩, hbefore⟩ := hts b
  obtain ⟨⟨d, hd⟩, hafter⟩ := hus c
  refine ⟨⟨d, by rw [run_append, hc, hd]⟩, fun before after hsplit => ?_⟩
  rcases List.append_eq_append_iff.1 hsplit with ⟨rest, rfl, hrest⟩ | ⟨rest, hrest, -⟩
  · -- the first part has been read, and some of the second
    have hfirst := hbefore ts [] (List.append_nil ts).symm
    rw [hc] at hfirst
    rw [run_append, hc]
    exact hfirst.trans (hafter rest after hrest)
  · exact hbefore before rest hrest

theorem leads_cons (ht : Leads table p g [t] q h) (hts : Leads table q h ts r k) :
    Leads table p g (t :: ts) r k :=
  ht.append hts

/-- One token, whatever the braces are. -/
theorem leads_token
    (ht : ∀ b : Braces, ∃ c : Braces,
      (go ⟨p, g, b⟩).feed table t = go ⟨q, h, c⟩ ∧ b.ledger.SameScopes c.ledger) :
    Leads table p g [t] q h := by
  intro b
  obtain ⟨c, hc, hscopes⟩ := ht b
  refine ⟨⟨c, hc⟩, fun before after hts => ?_⟩
  rcases List.cons_eq_append_iff.1 hts with ⟨rfl, -⟩ | ⟨before, rfl, hnil⟩
  · exact ⟨rfl, rfl⟩
  · obtain ⟨rfl, -⟩ := List.append_eq_nil_iff.1 hnil.symm
    rw [run_cons, run_nil, hc]
    exact hscopes

/-- A code token is read, and counted if it is a decision. -/
theorem read_code (s : Go) (ht : t.isCode = true) : s.read table t =
    if table.decides t.text then (s.readCode t.text).mapLedger (·.recordDecisions 1)
    else s.readCode t.text := by
  rw [Go.read, if_neg (by simp [Token.isNewline_of_isCode ht]), if_pos ht]

/-- A code token is announced before it is read, and credited afterwards. -/
theorem feed_code (table : DecisionTable) (s : Go) (ht : t.isCode = true) :
    ∃ c : Braces, (go s).feed table t =
        go { (s.mapLedger (·.announce t.lineSpan)).readCode t.text with braces := c } ∧
      Ledger.SameScopes ((s.mapLedger (·.announce t.lineSpan)).readCode t.text).braces.ledger c.ledger := by
  rw [feed_of_not_isNewline table (go s) (Token.isNewline_of_isCode ht), absorb]
  show ∃ c : Braces, go (((s.mapLedger (·.announce t.lineSpan)).read table t).mapLedger (·.credit)) = _ ∧ _
  rw [read_code _ ht]
  split
  · refine ⟨_, rfl, ?_⟩
    exact (Ledger.sameScopes_recordDecisions _ 1).trans (Ledger.sameScopes_credit _ _)
  · exact ⟨_, rfl, Ledger.sameScopes_credit _ _⟩

/-- A code token that leaves the braces alone. -/
theorem leads_code (ht : t.isCode = true)
    (hread : ∀ b : Braces, (Go.mk p g b).readCode t.text = ⟨q, h, b⟩) : Leads table p g [t] q h := by
  refine leads_token fun b => ?_
  obtain ⟨c, hc, hscopes⟩ := feed_code table ⟨p, g, b⟩ ht
  have hread := hread (b := { b with ledger := b.ledger.announce t.lineSpan })
  rw [mapLedger, hread] at hc hscopes
  exact ⟨c, hc, hscopes⟩

/-- A token that is no code, unless it is a line break that ends the signature. -/
theorem leads_silent (ht : t.isCode = false)
    (hends : t.isNewline = true → t.implicit = false → ∀ b : Braces, (Go.mk p g b).endsAtNewline = false) :
    Leads table p g [t] p g := by
  refine leads_token fun b => ?_
  cases hn : t.isNewline with
  | false =>
    rw [feed_of_not_isNewline table _ hn, absorb]
    refine ⟨{ b with ledger := (b.ledger.announce t.lineSpan).credit }, ?_,
      Ledger.sameScopes_credit (b.ledger.announce t.lineSpan) 1⟩
    show go (((Go.mk p g b).mapLedger (·.announce t.lineSpan)).read table t |>.mapLedger (·.credit)) = _
    rw [Go.read, if_neg (by simp [hn]), if_neg (by simp [ht])]
    rfl
  | true =>
    rw [feed_of_isNewline table _ hn]
    refine ⟨{ b with ledger := b.ledger.nextLine }, ?_, rfl, rfl⟩
    show go (((Go.mk p g b).mapLedger Ledger.nextLine).read table t) = _
    rw [Go.read, if_pos hn, readNewline]
    cases himplicit : t.implicit with
    | true => rfl
    | false =>
      have hends := hends hn himplicit { b with ledger := b.ledger.nextLine }
      rw [if_neg (by simpa [mapLedger] using hends)]
      rfl

/-! ## Type parameters -/

/-- Among type parameters the square brackets are counted. -/
theorem leads_inTypeParameters {stack stack' : List String}
    (hts : Brackets.afterAll stack ts = some stack') :
    Leads table .typeParameters { g with bracketDepth := stack.count "[" + 1 } ts
      .typeParameters { g with bracketDepth := stack'.count "[" + 1 } := by
  induction ts generalizing stack with
  | nil =>
    obtain rfl := Option.some.inj hts
    exact leads_nil
  | cons t ts ih =>
    rw [Brackets.afterAll_cons] at hts
    obtain ⟨next, hnext, hrest⟩ := Option.bind_eq_some_iff.1 hts
    refine leads_cons ?_ (ih hrest)
    rcases Brackets.after_cases hnext with
      ⟨⟨hopening, hclosing⟩, rfl⟩ | ⟨hcode, hopening, rfl⟩ | ⟨hcode, hclosing, rfl⟩
    · cases hcode : t.isCode with
      | false => exact leads_silent hcode fun _ _ _ => rfl
      | true =>
        rw [hcode, Bool.true_and] at hopening hclosing
        obtain ⟨_, hsquare, _, _, hsquare', _⟩ := ne_of_neutral hopening hclosing
        refine leads_code hcode fun b => ?_
        dsimp only [readCode, typeParameters]
        rw [if_neg hsquare, if_neg hsquare']
    · refine leads_code hcode fun b => ?_
      dsimp only [readCode, typeParameters]
      -- other opening brackets stand on the stack, but are not counted
      by_cases hsquare : t.text = "["
      · rw [if_pos hsquare, hsquare, List.count_cons_self]
      · have hsquare' : t.text ≠ "]" := by
          rintro htext
          rw [htext] at hopening
          cases hopening
        rw [if_neg hsquare, if_neg hsquare', List.count_cons_of_ne hsquare]
    · have hsquare : t.text ≠ "[" := (isName_of_isClosing hclosing).2.2.2.2.1
      refine leads_code hcode fun b => ?_
      dsimp only [readCode, typeParameters]
      rw [if_neg hsquare]
      by_cases hsquare' : t.text = "]"
      · have hpartner : Brackets.partner t.text = "[" := by
          rw [hsquare']
          rfl
        rw [if_pos hsquare', hpartner, List.count_cons_self]
        rfl
      · have hpartner : Brackets.partner t.text ≠ "[" := by
          rw [Brackets.partner, if_neg hsquare']
          split <;> decide
        rw [if_neg hsquare', List.count_cons_of_ne hpartner]

/-! ## Parenthesized lists -/

/-- A phase that reads a parenthesized list, and the one that follows it. -/
structure ReadsGroup (p next : GoPhase) : Prop where
  readCode_eq : ∀ (g : GoSignature) (b : Braces) (text : String),
    (Go.mk p g b).readCode text = (Go.mk p g b).feedParameters text next
  endsAtNewline_eq : ∀ (g : GoSignature) (b : Braces), (Go.mk p g b).endsAtNewline = false

theorem readsGroup_firstGroup : ReadsGroup .firstGroup .afterFirstGroup :=
  ⟨fun _ _ _ => rfl, fun _ _ => rfl⟩

theorem readsGroup_parameters : ReadsGroup .parameters .results :=
  ⟨fun _ _ _ => rfl, fun _ _ => rfl⟩

/-- The tokens inside a list are fed to it. -/
theorem leads_inGroup (hp : ReadsGroup p q) {l : ParameterList} {depth depth' : Nat}
    (hdepth : l.depth = depth + 1) (hts : nestAll depth (codeTexts ts) = some depth') :
    Leads table p { g with parameters := l } ts p { g with parameters := l.feedAll (codeTexts ts) } := by
  induction ts generalizing l depth with
  | nil => exact leads_nil
  | cons t ts ih =>
    cases hcode : t.isCode with
    | false =>
      rw [codeTexts_cons_of_not_isCode hcode] at hts ⊢
      exact leads_cons (leads_silent hcode fun _ _ => hp.endsAtNewline_eq _) (ih hdepth hts)
    | true =>
      rw [codeTexts_cons_of_isCode hcode] at hts ⊢
      obtain ⟨next, hnext, hrest⟩ := Option.bind_eq_some_iff.1 hts
      obtain ⟨hopen, hnextDepth⟩ := ParameterList.feed_stays hdepth hnext
      refine leads_cons (leads_code hcode fun b => ?_) (ih hnextDepth hrest)
      rw [hp.readCode_eq, feedParameters]
      dsimp only
      rw [hopen, if_neg Bool.false_ne_true]

/-- A list ends with its closing bracket, and its entries have been counted. -/
theorem leads_group (table : DecisionTable) (hp : ReadsGroup p q) (hl : g.parameters.depth = 0)
    (hmarkers : g.parameters.markers = []) (hts : WellNested ts) (hcode : t.isCode = true) (htext : t.text = ")") :
    ∃ l : ParameterList, Leads table p { g with parameters := (g.parameters.feed "(").2 } (ts ++ [t])
      q { g with parameters := l, parameterCount := entryCount (codeTexts ts) } := by
  obtain ⟨hclosed, hcount⟩ := ParameterList.count_group hl (show isOpening "(" = true by decide)
    (show isClosing ")" = true by decide) (nestAll_of_wellNested hts)
  rw [hmarkers, ← ParameterList.entryCount_eq] at hcount
  have hopened : (g.parameters.feed "(").2.depth = ((0 : Nat) : Int) + 1 := by
    rw [ParameterList.feed_begin hl (by decide)]
    rfl
  refine ⟨(((g.parameters.feed "(").2.feedAll (codeTexts ts)).feed ")").2, ?_⟩
  refine (leads_inGroup hp hopened (nestAll_of_wellNested hts)).append (leads_code hcode fun b => ?_)
  rw [hp.readCode_eq, feedParameters, htext]
  dsimp only
  rw [hclosed, if_pos rfl, hcount]

/-! ## Results -/

/-- A place among results: the open brackets, innermost first, and whether `struct` or `interface` announces
the brace that comes next. -/
structure ResultPlace where
  stack : List String := []
  announced : Bool := false
deriving DecidableEq

/-- The place after a token of results. Brackets close what they belong to. Outside the braces of types a
brace stands exactly after `struct` or `interface`, and outside all brackets no token ends the statement. -/
def ResultPlace.after (place : ResultPlace) (t : Token) : Option ResultPlace :=
  if t.isCode then
    (Brackets.after place.stack t).bind fun stack =>
      if "\x7b" ∈ place.stack then some { place with stack }
      else if place.announced = (t.text != "\x7b") then none
      else if place.stack = [] ∧ (t.text = ";" ∨ t.text = "," ∨ t.text = "=") then none
      else some { stack, announced := isTypeLiteral t.text }
  else if t.isNewline = true ∧ t.implicit = false ∧ place.stack = [] then none
  else some place

/-- The place after tokens of results. -/
def ResultPlace.afterAll (place : ResultPlace) (ts : List Token) : Option ResultPlace :=
  ts.foldlM after place

/-- Tokens that can stand between the parameters of a function and its body. -/
def IsResult (ts : List Token) : Prop :=
  ResultPlace.afterAll {} ts = some {}

instance (ts : List Token) : Decidable (IsResult ts) :=
  inferInstanceAs (Decidable (_ = _))

@[simp] theorem ResultPlace.afterAll_cons (place : ResultPlace) (t : Token) (ts : List Token) :
    place.afterAll (t :: ts) = (place.after t).bind (·.afterAll ts) := rfl

theorem ResultPlace.afterAll_append (place : ResultPlace) (ts us : List Token) :
    place.afterAll (ts ++ us) = (place.afterAll ts).bind (·.afterAll us) := by
  simp [ResultPlace.afterAll, List.foldlM_append]

/-- The number of brackets that are open outside the braces of types. -/
def outerDepth : List String → Nat
  | [] => 0
  | b :: stack => if "\x7b" ∈ b :: stack then outerDepth stack else stack.length + 1

theorem outerDepth_cons_of_mem {b : String} {stack : List String} (h : "\x7b" ∈ b :: stack) :
    outerDepth (b :: stack) = outerDepth stack :=
  if_pos h

theorem outerDepth_of_not_mem {stack : List String} (h : "\x7b" ∉ stack) : outerDepth stack = stack.length := by
  cases stack with
  | nil => rfl
  | cons b stack => exact if_neg h

/-- A signature at a place among its results. -/
def ResultPlace.signature (place : ResultPlace) (g : GoSignature) : GoSignature :=
  { g with
    bracketDepth := outerDepth place.stack
    typeBraceDepth := place.stack.count "\x7b"
    typeLiteral := place.announced }

variable {place place' : ResultPlace} {stack : List String} {text : String}

/-- Inside the braces of a type only braces are counted. -/
theorem leads_typeBraces (hcode : t.isCode = true) (hmem : "\x7b" ∈ place.stack)
    (hstack : Brackets.after place.stack t = some stack) :
    Leads table .results (place.signature g) [t] .results ({ place with stack }.signature g) := by
  have hpos : 0 < place.stack.count "\x7b" := List.count_pos_iff.2 hmem
  refine leads_code hcode fun b => ?_
  dsimp only [readCode, results, ResultPlace.signature]
  rw [if_pos hpos]
  rcases Brackets.after_cases hstack with ⟨⟨hopening, hclosing⟩, rfl⟩ | ⟨-, hopening, rfl⟩ | ⟨-, hclosing, hpop⟩
  · rw [hcode, Bool.true_and] at hopening hclosing
    obtain ⟨_, _, hbrace, _, _, hbrace'⟩ := ne_of_neutral hopening hclosing
    rw [if_neg hbrace, if_neg hbrace']
  · have hbrace' : t.text ≠ "\x7d" := (isName_of_isOpening hopening).2.2
    rw [outerDepth_cons_of_mem (List.mem_cons_of_mem _ hmem)]
    by_cases hbrace : t.text = "\x7b"
    · rw [if_pos hbrace, hbrace, List.count_cons_self]
    · rw [if_neg hbrace, if_neg hbrace', List.count_cons_of_ne hbrace]
  · have hbrace : t.text ≠ "\x7b" := (isName_of_isClosing hclosing).2.2.2.2.2
    rw [hpop] at hmem ⊢
    rw [outerDepth_cons_of_mem hmem, if_neg hbrace]
    by_cases hbrace' : t.text = "\x7d"
    · have hpartner : Brackets.partner t.text = "\x7b" := by
        rw [hbrace']
        rfl
      rw [if_pos hbrace', hpartner, List.count_cons_self]
      rfl
    · have hpartner : Brackets.partner t.text ≠ "\x7b" := by
        simp only [isClosing, Bool.or_eq_true, beq_iff_eq] at hclosing
        rcases hclosing.resolve_right hbrace' with htext | htext <;> rw [htext] <;> decide
      rw [if_neg hbrace', List.count_cons_of_ne hpartner]

/-- The brace that was announced opens a type. -/
theorem results_announced (g : GoSignature) (b : Braces) (hmem : "\x7b" ∉ stack) :
    (Go.mk .results (ResultPlace.signature ⟨stack, true⟩ g) b).results "\x7b" =
      ⟨.results, ResultPlace.signature ⟨"\x7b" :: stack, false⟩ g, b⟩ := by
  have hzero : stack.count "\x7b" = 0 := List.count_eq_zero.2 hmem
  dsimp only [results, ResultPlace.signature]
  rw [if_neg (by omega), if_neg (by decide), if_pos rfl, if_pos rfl, List.count_cons_self, hzero,
    outerDepth_cons_of_mem List.mem_cons_self]

/-- A token that is no bracket can announce a type. Outside all brackets it can also end the statement. -/
theorem results_unbracketed (g : GoSignature) (b : Braces) (hmem : "\x7b" ∉ stack)
    (hopening : isOpening text = false) (hclosing : isClosing text = false)
    (hends : ¬(stack = [] ∧ (text = ";" ∨ text = "," ∨ text = "="))) :
    (Go.mk .results (ResultPlace.signature ⟨stack, false⟩ g) b).results text =
      ⟨.results, ResultPlace.signature ⟨stack, isTypeLiteral text⟩ g, b⟩ := by
  obtain ⟨hround, hsquare, hbrace, hround', hsquare', hbrace'⟩ := ne_of_neutral hopening hclosing
  have hzero : stack.count "\x7b" = 0 := List.count_eq_zero.2 hmem
  dsimp only [results, ResultPlace.signature]
  rw [if_neg (by omega), if_neg hbrace]
  cases hliteral : isTypeLiteral text with
  | true => rw [if_pos rfl]
  | false =>
    have hgoesOn : ¬(outerDepth stack = 0 ∧ isTerminator text = true) := by
      rintro ⟨hdepth, hterminator⟩
      rw [outerDepth_of_not_mem hmem, List.length_eq_zero_iff] at hdepth
      simp only [isTerminator, List.contains_eq_mem, List.mem_cons, List.not_mem_nil, or_false,
        decide_eq_true_eq] at hterminator
      tauto
    rw [if_neg Bool.false_ne_true, if_neg (by tauto), if_neg (by tauto), if_neg hgoesOn]

/-- An opening bracket of a group is counted. -/
theorem results_group (g : GoSignature) (b : Braces) (hmem : "\x7b" ∉ stack)
    (htext : text = "(" ∨ text = "[") :
    (Go.mk .results (ResultPlace.signature ⟨stack, false⟩ g) b).results text =
      ⟨.results, ResultPlace.signature ⟨text :: stack, isTypeLiteral text⟩ g, b⟩ := by
  have hbrace : text ≠ "\x7b" := by
    rcases htext with rfl | rfl <;> decide
  have hliteral : isTypeLiteral text = false := by
    rcases htext with rfl | rfl <;> rfl
  have hzero : stack.count "\x7b" = 0 := List.count_eq_zero.2 hmem
  have hmem' : "\x7b" ∉ text :: stack := by
    rw [List.mem_cons, not_or]
    exact ⟨Ne.symm hbrace, hmem⟩
  dsimp only [results, ResultPlace.signature]
  rw [if_neg (by omega), hliteral, if_neg Bool.false_ne_true, if_neg hbrace, if_pos htext,
    outerDepth_of_not_mem hmem, outerDepth_of_not_mem hmem', List.count_cons_of_ne hbrace, List.length_cons]

/-- A closing bracket takes one of a group back. -/
theorem results_groupEnd (g : GoSignature) (b : Braces) {bracket : String}
    (hmem : "\x7b" ∉ bracket :: stack) (htext : text = ")" ∨ text = "]") :
    (Go.mk .results (ResultPlace.signature ⟨bracket :: stack, false⟩ g) b).results text =
      ⟨.results, ResultPlace.signature ⟨stack, isTypeLiteral text⟩ g, b⟩ := by
  have hclosing : isClosing text = true := by
    rcases htext with rfl | rfl <;> rfl
  obtain ⟨_, hliteral, _, hround, hsquare, hbrace⟩ := isName_of_isClosing hclosing
  have hmem' : "\x7b" ∉ stack := fun h => hmem (List.mem_cons_of_mem _ h)
  have hzero : (bracket :: stack).count "\x7b" = 0 := List.count_eq_zero.2 hmem
  dsimp only [results, ResultPlace.signature]
  rw [if_neg (by omega), hliteral, if_neg Bool.false_ne_true, if_neg hbrace, if_neg (by tauto),
    outerDepth_of_not_mem hmem, outerDepth_of_not_mem hmem', List.length_cons,
    if_pos ⟨htext, Nat.succ_pos _⟩, hzero, List.count_eq_zero.2 hmem']
  rfl

/-- Outside the braces of types round and square brackets are counted, and a type announces its brace. -/
theorem leads_groups (hcode : t.isCode = true) (hmem : "\x7b" ∉ place.stack)
    (hstack : Brackets.after place.stack t = some stack) (hannounced : place.announced ≠ (t.text != "\x7b"))
    (hends : ¬(place.stack = [] ∧ (t.text = ";" ∨ t.text = "," ∨ t.text = "="))) :
    Leads table .results (place.signature g) [t] .results
      (ResultPlace.signature ⟨stack, isTypeLiteral t.text⟩ g) := by
  obtain ⟨opened, announced⟩ := place
  refine leads_code hcode fun b => ?_
  by_cases hbrace : t.text = "\x7b"
  · obtain rfl : announced = true := by simpa [hbrace] using hannounced
    rw [Brackets.after.eq_def, if_pos hcode, if_pos (by rw [hbrace]; rfl)] at hstack
    obtain rfl := Option.some.inj hstack
    rw [hbrace]
    exact results_announced g b hmem
  · obtain rfl : announced = false := by
      rw [bne_iff_ne.2 hbrace] at hannounced
      exact Bool.eq_false_iff.2 hannounced
    rcases Brackets.after_cases hstack with
      ⟨⟨hopening, hclosing⟩, rfl⟩ | ⟨-, hopening, rfl⟩ | ⟨-, hclosing, hpop⟩
    · rw [hcode, Bool.true_and] at hopening hclosing
      exact results_unbracketed g b hmem hopening hclosing hends
    · simp only [isOpening, Bool.or_eq_true, beq_iff_eq] at hopening
      exact results_group g b hmem (hopening.resolve_right hbrace)
    · dsimp only at hpop hmem
      subst hpop
      simp only [isClosing, Bool.or_eq_true, beq_iff_eq] at hclosing
      refine results_groupEnd g b hmem (hclosing.resolve_right fun htext => hmem ?_)
      rw [htext]
      exact List.mem_cons_self

/-- A token of results keeps count of the open brackets. -/
theorem leads_result (h : place.after t = some place') :
    Leads table .results (place.signature g) [t] .results (place'.signature g) := by
  unfold ResultPlace.after at h
  cases hcode : t.isCode with
  | true =>
    rw [hcode, if_pos rfl] at h
    obtain ⟨stack, hstack, h⟩ := Option.bind_eq_some_iff.1 h
    split at h
    · obtain rfl := Option.some.inj h
      exact leads_typeBraces hcode ‹_› hstack
    · split at h
      · cases h
      · split at h
        · cases h
        · obtain rfl := Option.some.inj h
          exact leads_groups hcode ‹_› hstack ‹_› ‹_›
  | false =>
    rw [hcode, if_neg Bool.false_ne_true] at h
    split at h
    · cases h
    · rename_i hends
      obtain rfl := Option.some.inj h
      refine leads_silent hcode fun hn himplicit b => ?_
      have hstack : place.stack ≠ [] := fun hnil => hends ⟨hn, himplicit, hnil⟩
      show (outerDepth place.stack == 0 && place.stack.count "\x7b" == 0) = false
      by_cases hmem : "\x7b" ∈ place.stack
      · rw [beq_false_of_ne (List.count_pos_iff.2 hmem).ne', Bool.and_false]
      · rw [outerDepth_of_not_mem hmem, beq_false_of_ne (List.length_pos_iff.2 hstack).ne', Bool.false_and]

theorem leads_resultsFrom (table : DecisionTable) (g : GoSignature) (h : place.afterAll ts = some place') :
    Leads table .results (place.signature g) ts .results (place'.signature g) := by
  induction ts generalizing place with
  | nil =>
    obtain rfl := Option.some.inj h
    exact leads_nil
  | cons t ts ih =>
    rw [ResultPlace.afterAll_cons] at h
    obtain ⟨next, hnext, hrest⟩ := Option.bind_eq_some_iff.1 h
    exact leads_cons (leads_result hnext) (ih hrest)

/-- Results leave no bracket open. -/
theorem leads_results (hg : g.bracketDepth = 0 ∧ g.typeBraceDepth = 0 ∧ g.typeLiteral = false)
    (h : IsResult ts) : Leads table .results g ts .results g := by
  have hsignature : ResultPlace.signature {} g = g := by
    obtain ⟨hdepth, hbraces, hliteral⟩ := hg
    cases g
    simp_all [ResultPlace.signature, outerDepth]
  have hleads := leads_resultsFrom table g h
  rwa [hsignature] at hleads

/-! ## The body -/

/-- The next brace opens a body. -/
def AwaitsBody (p : GoPhase) (g : GoSignature) : Prop :=
  ∀ b : Braces, (Go.mk p g b).readCode "\x7b" = (Go.mk p g b).openBody

theorem awaitsBody_results (hdepth : g.bracketDepth = 0) (hbraces : g.typeBraceDepth = 0)
    (hliteral : g.typeLiteral = false) : AwaitsBody .results g := by
  intro b
  dsimp only [readCode, results]
  rw [hbraces, hliteral, hdepth]
  rfl

/-- The keyword begins a signature on its line. -/
theorem feed_func (table : DecisionTable) {s : Go} (hs : s.phase = .outside) (hcode : t.isCode = true)
    (htext : t.text = "func") :
    ∃ c : Braces, (go s).feed table t = go ⟨.afterFunc, { startLine := s.braces.ledger.line }, c⟩ ∧
      s.braces.ledger.SameScopes c.ledger := by
  obtain ⟨c, hc, hscopes⟩ := feed_code table s hcode
  have hread : (s.mapLedger (·.announce t.lineSpan)).readCode t.text =
      ⟨.afterFunc, { startLine := s.braces.ledger.line }, (s.mapLedger (·.announce t.lineSpan)).braces⟩ := by
    rw [readCode, show (s.mapLedger (·.announce t.lineSpan)).phase = .outside from hs, htext]
    rfl
  rw [hread] at hc hscopes
  exact ⟨c, hc, hscopes⟩

/-- The brace of the body opens the function whose signature has been read. -/
theorem feed_body (table : DecisionTable) (hbody : AwaitsBody p g) (hcode : t.isCode = true)
    (htext : t.text = "\x7b") (hline : g.startLine ≤ b.ledger.line) :
    ((go ⟨p, g, b⟩).feed table t).ledger.frames.map (·.head) =
        ⟨if g.name.isEmpty then Ledger.anonymous else g.name, g.startLine, g.parameterCount, b.ledger.depth⟩ ::
          b.ledger.frames.map (·.head) ∧
      ((go ⟨p, g, b⟩).feed table t).ledger.functions = b.ledger.functions := by
  obtain ⟨c, hc, hheads, hfunctions⟩ := feed_code table ⟨p, g, b⟩ hcode
  rw [mapLedger, htext, hbody] at hheads hfunctions
  rw [hc]
  show c.ledger.frames.map (·.head) = _ ∧ c.ledger.functions = _
  rw [hheads, hfunctions]
  refine ⟨?_, Ledger.recordDecisions_functions _ _⟩
  refine (Ledger.map_frames_recordDecisions _ _ _ fun _ _ => rfl).trans ?_
  have hstart : min g.startLine b.ledger.line = g.startLine := min_eq_left hline
  rw [Ledger.openFunction_frames, List.map_cons]
  refine congrArg₂ List.cons ?_ rfl
  show (⟨_, min g.startLine b.ledger.line, _, _⟩ : FunctionHead) = _
  rw [hstart]
  rfl

/-- From the keyword to the brace of its body a signature opens one function. -/
theorem opensAtEnd {s : Go} (hs : s.phase = .outside) {keyword brace : Token} (hkeyword : keyword.isCode = true)
    (hfunc : keyword.text = "func") (hbrace : brace.isCode = true) (hopening : brace.text = "\x7b")
    (hts : Leads table .afterFunc { startLine := s.braces.ledger.line } ts p g) (hbody : AwaitsBody p g)
    (hline : g.startLine = s.braces.ledger.line) :
    OpensAtEnd table (go s) (keyword :: ts ++ [brace])
      ⟨if g.name.isEmpty then Ledger.anonymous else g.name, s.braces.ledger.line, g.parameterCount,
        s.braces.ledger.depth⟩ := by
  obtain ⟨c, hc, hscopes⟩ := feed_func table hs hkeyword hfunc
  obtain ⟨⟨d, hd⟩, hbefore⟩ := hts c
  have hlast := hbefore ts [] (List.append_nil ts).symm
  rw [hd] at hlast
  have hrun : (go s).run table (keyword :: ts) = go ⟨p, g, d⟩ := by rw [run_cons, hc, hd]
  have hreached : s.braces.ledger.line ≤ d.ledger.line := by
    have hmoved := ledger_run_line table (r := go s) trivial (keyword :: ts)
    rw [hrun] at hmoved
    have hsum : d.ledger.line = s.braces.ledger.line + _ := hmoved
    omega
  obtain ⟨hheads, hfunctions⟩ := feed_body table hbody hbrace hopening (hline.trans_le hreached)
  have hall : s.braces.ledger.SameScopes d.ledger := hscopes.trans hlast
  refine ⟨fun before after hsplit hafter => ?_, ?_, ?_⟩
  · have hfront : ∃ rest, keyword :: ts = before ++ rest := by
      rcases List.append_eq_append_iff.1 hsplit with ⟨rest, rfl, hrest⟩ | ⟨rest, hrest, -⟩
      · rcases List.cons_eq_append_iff.1 hrest with ⟨rfl, -⟩ | ⟨_, -, hnil⟩
        · exact ⟨[], by simp⟩
        · exact absurd (List.append_eq_nil_iff.1 hnil.symm).2 hafter
      · exact ⟨rest, hrest⟩
    obtain ⟨rest, hfront⟩ := hfront
    rcases List.cons_eq_append_iff.1 hfront with ⟨rfl, -⟩ | ⟨before, rfl, hts⟩
    · exact ⟨rfl, rfl⟩
    · rw [run_cons, hc]
      exact hscopes.trans (hbefore before rest hts)
  · rw [run_append, hrun, run_cons, run_nil, hheads, hline, hall.depth_eq, hall.1]
    rfl
  · rw [run_append, hrun, run_cons, run_nil, hfunctions]
    exact hall.2

end Go

end Recognizer

end Cyclomatic
