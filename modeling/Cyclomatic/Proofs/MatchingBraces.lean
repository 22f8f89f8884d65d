import Mathlib
import Cyclomatic.Proofs.Closings
import Cyclomatic.Proofs.Recognizer.GoSignature
import Cyclomatic.Proofs.Survey.Decisions

/-!
# Go functions lie between matching braces

In a Go text whose brackets are well nested every function is opened by a brace and closed by the brace
that matches it, and its decisions are those between the two braces, without those of the functions inside
(`Analysis.braces_delimit`).

The open brackets of the text stand beside the state of the pass. The upper ones are those that the
present signature skips; of the others, the braces are the ones that are counted. Each open body has its
brace among these, and knows the brackets above it (`Analysis.Encloses`).
-/

namespace Cyclomatic

open Recognizer Brackets

/-! ## Braces without expression bodies -/

/-- A closing brace, where all bodies are blocks: it closes the innermost body if that has begun among the
braces that are left. -/
theorem Braces.closeBrace_of_blocks {b : Braces} {depth : Nat} (hdepth : b.depth = depth + 1)
    (hblocks : ∀ body ∈ b.bodies, body.isExpression = false) :
    b.closeBrace =
      if b.bodies.head?.any (·.braceDepth == depth) then ({ b with depth } : Braces).closeBody
      else { b with depth } := by
  have hwhile : ({ b with depth } : Braces).closeWhile
      (fun body => body.isExpression && decide (depth < body.braceDepth)) = { b with depth } := by
    rw [closeWhile]
    cases hbodies : b.bodies with
    | nil => simp
    | cons body rest =>
      rw [List.takeWhile_cons_of_neg]
      · rfl
      · simp [hblocks body (by simp [hbodies])]
  unfold closeBrace
  rw [hdepth]
  dsimp only
  rw [hwhile, closeBlock]
  cases hbodies : b.bodies with
  | nil => simp
  | cons body rest => simp [hblocks body (by simp [hbodies])]

/-! ## The decisions of a ledger -/

namespace Ledger

/-- The decisions of the open functions, innermost first. -/
def decisions (l : Ledger) : List Int :=
  l.frames.map (·.decisionCount)

theorem decisions_recordDecisions (l : Ledger) (count : Int) :
    (l.recordDecisions count).decisions = l.decisions.modify 0 (· + count) := by
  unfold recordDecisions decisions
  cases l.frames <;> simp

/-- A token that is no decision counts for nothing. -/
theorem decisions_uncounted (decisions : List Int) :
    decisions.modify 0 (· + ((false.toNat : Nat) : Int)) = decisions := by
  rw [show (fun x : Int => x + ((false.toNat : Nat) : Int)) = id from funext Int.add_zero,
    List.modify_id]

@[simp] theorem decisions_credit (l : Ledger) (lineSpan : Int) :
    (l.credit lineSpan).decisions = l.decisions :=
  map_frames_credit l lineSpan _ fun _ _ _ => rfl

end Ledger

/-- A function that opens with no decision in its signature has none. -/
theorem Braces.decisions_openBody (b : Braces) {f : Signature} (hf : f.decisionCount = 0) :
    (b.openBody f).ledger.decisions = 0 :: b.ledger.decisions := by
  show ((b.ledger.openFunction f.name f.parameterCount (some f.startLine)).recordDecisions
    f.decisionCount).decisions = _
  rw [Ledger.decisions_recordDecisions, hf]
  rfl

namespace Recognizer.Go

/-- The state after a token that is no line break. -/
def taken (s : Go) (t : Token) : Go :=
  ((s.mapLedger (·.announce t.lineSpan)).read (.of .go) t).mapLedger (·.credit)

theorem feed_eq_taken (s : Go) {t : Token} (ht : t.isNewline = false) :
    (go s).feed (.of .go) t = go (s.taken t) :=
  feed_of_not_isNewline _ _ ht

/-- The state after the token is read as code, before it counts as a decision. -/
def readAnnounced (s : Go) (t : Token) : Go :=
  if t.isCode then (s.mapLedger (·.announce t.lineSpan)).readCode t.text
  else s.mapLedger (·.announce t.lineSpan)

/-- A decision counts for the function that is innermost when it has been read. -/
theorem taken_spec (s : Go) {t : Token} (ht : t.isNewline = false) :
    (s.taken t).phase = (s.readAnnounced t).phase ∧
      (s.taken t).signature = (s.readAnnounced t).signature ∧
      (s.taken t).braces.bodies = (s.readAnnounced t).braces.bodies ∧
      (s.taken t).braces.depth = (s.readAnnounced t).braces.depth ∧
      (s.taken t).braces.ledger.functions = (s.readAnnounced t).braces.ledger.functions ∧
      (s.taken t).braces.ledger.decisions = (s.readAnnounced t).braces.ledger.decisions.modify 0
        (· + ((isDecision (.of .go) t).toNat : Int)) := by
  unfold taken readAnnounced read isDecision
  rw [if_neg (by simp [ht])]
  cases hcode : t.isCode with
  | false =>
    refine ⟨rfl, rfl, rfl, rfl, Ledger.credit_functions _ _, ?_⟩
    rw [Bool.false_and, Ledger.decisions_uncounted]
    simp only [Bool.false_eq_true, if_false]
    exact Ledger.decisions_credit _ _
  | true =>
    simp only [if_true, Bool.true_and]
    cases hdecides : (DecisionTable.of .go).decides t.text with
    | false =>
      refine ⟨rfl, rfl, rfl, rfl, Ledger.credit_functions _ _, ?_⟩
      rw [Ledger.decisions_uncounted]
      simp only [Bool.false_eq_true, if_false]
      exact Ledger.decisions_credit _ _
    | true =>
      refine ⟨rfl, rfl, rfl, rfl, ?_, ?_⟩
      · exact (Ledger.credit_functions _ _).trans (Ledger.recordDecisions_functions _ _)
      · exact (Ledger.decisions_credit _ _).trans (Ledger.decisions_recordDecisions _ _)

end Recognizer.Go

namespace Analysis

/-! ## Open bodies among the open brackets -/

/-- An open body among the open brackets: its brace is open, the braces below it are those that were open
when it opened, and the tokens since then have opened what is above it. -/
structure Encloses (before : List Token) (inner outer : List String) (body : Body) (opening : Nat) :
    Prop where
  brace : ∃ t, before[opening]? = some t ∧ t.isCode = true ∧ t.text = "\x7b"
  since : ∃ own below, outer = own ++ "\x7b" :: below ∧ below.count "\x7b" = body.braceDepth ∧
    afterAll [] (before.drop (opening + 1)) = some (inner ++ own)

variable {tokens before after : List Token} {t : Token} {inner inner' outer outer' : List String} {body : Body}
  {b : String}

/-- A token leaves a body open if it only changes what is above its brace. -/
theorem Encloses.step (h : Encloses before inner outer body opening)
    (habove : ∀ own below, outer = own ++ "\x7b" :: below → below.count "\x7b" = body.braceDepth →
      ∃ own', outer' = own' ++ "\x7b" :: below ∧
        Brackets.after (inner ++ own) t = some (inner' ++ own')) :
    Encloses (before ++ [t]) inner' outer' body opening := by
  obtain ⟨u, hu, hbrace⟩ := h.brace
  obtain ⟨own, below, houter, hcount, hsince⟩ := h.since
  obtain ⟨own', houter', hafter⟩ := habove own below houter hcount
  have hlt := (List.getElem?_eq_some_iff.1 hu).1
  refine ⟨⟨u, ?_, hbrace⟩, own', below, houter', hcount, ?_⟩
  · rw [List.getElem?_append_left hlt]
    exact hu
  · rw [List.drop_append_of_le_length (by omega), afterAll_concat, hsince]
    exact hafter

theorem Encloses.pass (h : Encloses before inner outer body opening)
    (hneutral : (t.isCode && isOpening t.text) = false ∧ (t.isCode && isClosing t.text) = false) :
    Encloses (before ++ [t]) inner outer body opening :=
  h.step fun own _ houter _ => ⟨own, houter, after_of_neutral _ hneutral⟩

theorem Encloses.push_inner (h : Encloses before inner outer body opening) (hcode : t.isCode = true)
    (hopening : isOpening t.text = true) :
    Encloses (before ++ [t]) (t.text :: inner) outer body opening :=
  h.step fun own _ houter _ => ⟨own, houter, after_of_isOpening _ hcode hopening⟩

theorem Encloses.push_outer (h : Encloses before [] outer body opening) (hcode : t.isCode = true)
    (hopening : isOpening t.text = true) :
    Encloses (before ++ [t]) [] (t.text :: outer) body opening :=
  h.step fun own _ houter _ =>
    ⟨t.text :: own, by rw [houter]; rfl, after_of_isOpening _ hcode hopening⟩

theorem Encloses.pop_inner (h : Encloses before (partner t.text :: inner) outer body opening)
    (hcode : t.isCode = true) (hclosing : isClosing t.text = true) :
    Encloses (before ++ [t]) inner outer body opening :=
  h.step fun own _ houter _ => ⟨own, houter, after_of_isClosing _ hcode hclosing⟩

/-- A closing bracket below which there are other braces than below the body is not the end of the body. -/
theorem Encloses.pop_outer (h : Encloses before [] (partner t.text :: outer) body opening)
    (hcode : t.isCode = true) (hclosing : isClosing t.text = true)
    (hother : partner t.text = "\x7b" → outer.count "\x7b" ≠ body.braceDepth) :
    Encloses (before ++ [t]) [] outer body opening := by
  apply h.step
  intro own below houter hcount
  cases own with
  | nil =>
    obtain ⟨hbrace, rfl⟩ := List.cons.inj houter
    exact absurd hcount (hother hbrace)
  | cons c own =>
    obtain ⟨rfl, rfl⟩ := List.cons.inj houter
    exact ⟨own, rfl, after_of_isClosing _ hcode hclosing⟩

/-- A brace that closes a body with nothing above its brace matches that brace. -/
theorem Encloses.matches_of_closing (h : Encloses before [] ("\x7b" :: outer) body opening)
    (hsplit : tokens = before ++ t :: after) (hcode : t.isCode = true) (htext : t.text = "\x7d")
    (hinnermost : body.braceDepth = outer.count "\x7b") : Matches tokens opening before.length := by
  obtain ⟨u, hu, hbrace⟩ := h.brace
  obtain ⟨own, below, houter, hcount, hsince⟩ := h.since
  have hlt := (List.getElem?_eq_some_iff.1 hu).1
  subst hsplit
  cases own with
  | nil =>
    refine ⟨hlt, ⟨u, ?_, hbrace⟩, ⟨t, ?_, hcode, htext⟩, ?_⟩
    · rw [List.getElem?_append_left hlt]
      exact hu
    · rw [List.getElem?_append_right le_rfl, Nat.sub_self]
      rfl
    · rw [List.take_left]
      exact hsince
  | cons c own =>
    -- the brace of the body is one of those that stay open
    have houter : outer = own ++ "\x7b" :: below := (List.cons.inj houter).2
    rw [houter, List.count_append, List.count_cons_self] at hinnermost
    omega

/-! ## One token -/

/-- What the extent of a Go function says: a brace opens it and the brace that matches it closes it, on
the line where the function ends, and the decisions are those of the extent. -/
structure BracedExtent (tokens : List Token) (extents : List Extent) (f : FunctionMeasure)
    (e : Extent) : Prop where
  braces : Matches tokens e.opening e.closing
  endLine_eq : ∃ t, tokens[e.closing]? = some t ∧ f.endLine = t.line
  ccn_eq : f.ccn = 1 + ownDecisions (.of .go) tokens extents e

/-- The pass over a Go text beside the open brackets: the present signature skips `inner`, and of the
brackets below, `outer`, the braces are counted. -/
structure Delimits (tokens before : List Token) (s : Go) (inner outer : List String) : Prop where
  brackets : afterAll [] before = some (inner ++ outer)
  depth_eq : s.braces.depth = outer.count "\x7b"
  skips : s.Skips inner
  bodies : List.Forall₂ (Encloses before inner outer) s.braces.bodies (Survey.of .go before).openings
  decisions : s.braces.ledger.decisions = (Survey.of .go before).openings.map fun o =>
    (decisionsSoFar (.of .go) tokens (Survey.of .go before) o : Int)
  functions : List.Forall₂ (BracedExtent tokens (Survey.of .go before).extents)
    s.braces.ledger.functions (Survey.of .go before).extents

/-- A brace is no decision. -/
theorem isDecision_of_brace (h : t.text = "\x7b" ∨ t.text = "\x7d") : isDecision (.of .go) t = false := by
  rw [isDecision, Bool.and_eq_false_iff]
  right
  rcases h with h | h
  · rw [h]
    decide
  · rw [h]
    decide

variable {s s' : Go}

/-- What a token closes and opens, seen from the state after it. -/
theorem opens_of_feed (hfeed : (go s).feed (.of .go) t = go s') (closing : List FunctionMeasure)
    (hfunctions : s'.braces.ledger.functions = s.braces.ledger.functions ++ closing) :
    (go s).closedBy (.of .go) t = closing ∧
      (go s).opens (.of .go) t = decide (s.braces.ledger.decisions.length <
        closing.length + s'.braces.ledger.decisions.length) := by
  have hclosed : (go s).closedBy (.of .go) t = closing := by
    apply closedBy_eq
    rw [hfeed]
    exact hfunctions
  refine ⟨hclosed, ?_⟩
  rw [opens, hclosed, hfeed, Ledger.decisions, List.length_map, Ledger.decisions, List.length_map]
  rfl

section Token

variable (h : Delimits tokens before s inner outer) (hsplit : tokens = before ++ t :: after)
  (hrun : passBefore .go before = go s) (hfeed : (go s).feed (.of .go) t = go s')

include hsplit in
theorem decidesAt_split : decidesAt (.of .go) tokens before.length = isDecision (.of .go) t := by
  rw [decidesAt, hsplit, List.getElem?_append_right le_rfl, Nat.sub_self]
  rfl

include h hsplit hrun hfeed in
/-- A token that opens and closes no function. -/
theorem Delimits.stay
    (hfunctions : s'.braces.ledger.functions = s.braces.ledger.functions)
    (hdecisions : s'.braces.ledger.decisions =
      s.braces.ledger.decisions.modify 0 (· + ((isDecision (.of .go) t).toNat : Int)))
    (hbodies : s'.braces.bodies = s.braces.bodies) (hdepth : s'.braces.depth = outer'.count "\x7b")
    (hskips : s'.Skips inner')
    (hbrackets : Brackets.after (inner ++ outer) t = some (inner' ++ outer'))
    (hencloses : ∀ body ∈ s.braces.bodies, ∀ opening, Encloses before inner outer body opening →
      Encloses (before ++ [t]) inner' outer' body opening) :
    Delimits tokens (before ++ [t]) s' inner' outer' := by
  obtain ⟨hclosed, hopens⟩ := opens_of_feed hfeed [] (by rw [hfunctions, List.append_nil])
  rw [hdecisions, List.length_modify] at hopens
  have hopens : (go s).opens (.of .go) t = false := by simpa using hopens
  rw [← hrun, passBefore, ← Survey.of_pass] at hclosed hopens
  have hopenings : (Survey.of .go (before ++ [t])).openings = (Survey.of .go before).openings := by
    rw [Survey.of_concat, Survey.openings_step, hopens, hclosed]
    rfl
  have hextents : (Survey.of .go (before ++ [t])).extents = (Survey.of .go before).extents := by
    rw [Survey.of_concat, Survey.extents_step_of_nil hclosed]
  refine ⟨?_, hdepth, hskips, ?_, ?_, ?_⟩
  · rw [afterAll_concat, h.brackets]
    exact hbrackets
  · rw [hbodies, hopenings]
    refine ((List.forall₂_and_left _ _).2 ⟨fun _ hbody => hbody, h.bodies⟩).imp ?_
    rintro body opening ⟨hbody, hencl⟩
    exact hencloses body hbody opening hencl
  · rw [hdecisions, h.decisions, decisionsSoFar_stay (Survey.ordered_of .go before) (by simp) hopenings
      hextents, Survey.of_place, decidesAt_split hsplit]
  · rw [hfunctions, hextents]
    exact h.functions

include h hsplit hrun hfeed in
/-- The brace that opens a function. -/
theorem Delimits.open (hinner : inner = []) (hcode : t.isCode = true) (htext : t.text = "\x7b")
    (hfunctions : s'.braces.ledger.functions = s.braces.ledger.functions)
    (hdecisions : s'.braces.ledger.decisions = 0 :: s.braces.ledger.decisions)
    (hbodies : s'.braces.bodies = { braceDepth := s.braces.depth } :: s.braces.bodies)
    (hdepth : s'.braces.depth = s.braces.depth + 1) (hskips : s'.Skips []) :
    Delimits tokens (before ++ [t]) s' [] (t.text :: outer) := by
  subst hinner
  have hopening : isOpening t.text = true := by
    rw [htext]
    decide
  -- a brace is no decision, so the count of the new function begins with nothing
  have hnone : decidesAt (.of .go) tokens (Survey.of .go before).place = false := by
    rw [Survey.of_place, decidesAt_split hsplit, isDecision_of_brace (.inl htext)]
  obtain ⟨hclosed, hopens⟩ := opens_of_feed hfeed [] (by rw [hfunctions, List.append_nil])
  rw [hdecisions] at hopens
  have hopens : (go s).opens (.of .go) t = true := by simpa using hopens
  rw [← hrun, passBefore, ← Survey.of_pass] at hclosed hopens
  have hopenings : (Survey.of .go (before ++ [t])).openings =
      (Survey.of .go before).place :: (Survey.of .go before).openings := by
    rw [Survey.of_concat, Survey.openings_step, hopens, hclosed]
    rfl
  have hextents : (Survey.of .go (before ++ [t])).extents = (Survey.of .go before).extents := by
    rw [Survey.of_concat, Survey.extents_step_of_nil hclosed]
  refine ⟨?_, ?_, hskips, ?_, ?_, ?_⟩
  · rw [afterAll_concat, h.brackets]
    exact after_of_isOpening _ hcode hopening
  · rw [hdepth, h.depth_eq, htext, List.count_cons_self]
  · rw [hbodies, hopenings]
    refine .cons ⟨⟨t, ?_, hcode, htext⟩, [], outer, ?_, h.depth_eq.symm, ?_⟩ ?_
    · rw [Survey.of_place, List.getElem?_concat_length]
    · rw [htext]
      rfl
    · rw [Survey.of_place, List.drop_eq_nil_of_le (by simp)]
      rfl
    · exact h.bodies.imp fun body opening hencl => hencl.push_outer hcode hopening
  · rw [hdecisions, h.decisions, decisionsSoFar_open (by simp) hopenings hextents hnone]
  · rw [hfunctions, hextents]
    exact h.functions

/-- What closes later has no part in the extents so far. -/
theorem BracedExtent.append {extents : List Extent} {f : FunctionMeasure}
    (h : BracedExtent tokens extents f e) {last : Extent} (hlast : e.closing ≤ last.closing) :
    BracedExtent tokens (extents ++ [last]) f e := by
  refine ⟨h.braces, h.endLine_eq, ?_⟩
  rw [h.ccn_eq, ownDecisions_append]
  rw [List.forall_mem_singleton]
  exact hlast

/-- The extent of a body that closes with the present token. -/
theorem Encloses.bracedExtent {extents : List Extent} {f : FunctionMeasure}
    (h : Encloses before [] ("\x7b" :: outer) body e.opening) (hsplit : tokens = before ++ t :: after)
    (hcode : t.isCode = true) (htext : t.text = "\x7d") (hinnermost : body.braceDepth = outer.count "\x7b")
    (hplace : e.closing = before.length) (hline : f.endLine = t.line)
    (hccn : f.ccn = 1 + ownDecisions (.of .go) tokens extents e) :
    BracedExtent tokens extents f e := by
  refine ⟨?_, ⟨t, ?_, hline⟩, hccn⟩
  · rw [hplace]
    exact h.matches_of_closing hsplit hcode htext hinnermost
  · rw [hplace, hsplit, List.getElem?_append_right le_rfl, Nat.sub_self]
    rfl

include h hsplit hrun hfeed in
/-- The brace that closes the innermost function. -/
theorem Delimits.close (hinner : inner = []) (hcode : t.isCode = true) (htext : t.text = "\x7d")
    (houter : outer = "\x7b" :: outer') {bodies : List Body}
    (hbody : s.braces.bodies = body :: bodies) (hinnermost : body.braceDepth = outer'.count "\x7b")
    (hbelow : ∀ lower ∈ bodies, lower.braceDepth < body.braceDepth) {f : FunctionMeasure}
    (hfunctions : s'.braces.ledger.functions = s.braces.ledger.functions ++ [f])
    (hline : f.endLine = t.line) (hccn : s.braces.ledger.decisions.head? = some (f.ccn - 1))
    (hdecisions : s'.braces.ledger.decisions = s.braces.ledger.decisions.tail)
    (hbodies : s'.braces.bodies = bodies) (hdepth : s'.braces.depth = outer'.count "\x7b")
    (hskips : s'.Skips []) :
    Delimits tokens (before ++ [t]) s' [] outer' := by
  subst hinner houter
  have hclosing : isClosing t.text = true := by
    rw [htext]
    decide
  have hpartner : "\x7b" = partner t.text := by
    rw [htext]
    decide
  have hnone : decidesAt (.of .go) tokens (Survey.of .go before).place = false := by
    rw [Survey.of_place, decidesAt_split hsplit, isDecision_of_brace (.inr htext)]
  have hordered := Survey.ordered_of .go before
  have hopened := h.bodies
  rw [hbody] at hopened
  obtain ⟨opening, rest, hencl, hrest, hopenings⟩ := List.forall₂_cons_left_iff.1 hopened
  obtain ⟨hclosed, hopens⟩ := opens_of_feed hfeed _ hfunctions
  rw [hdecisions, List.length_tail, h.decisions, List.length_map, hopenings] at hopens
  have hopens : (go s).opens (.of .go) t = false := by
    rw [hopens]
    simp
    omega
  rw [← hrun, passBefore, ← Survey.of_pass] at hclosed hopens
  -- the innermost course becomes the extent that ends here
  obtain ⟨e, hextents, hopening, hplace⟩ :=
    Survey.extents_step_of_singleton hclosed hopens hopenings
  have hopenings' : (Survey.of .go (before ++ [t])).openings = rest := by
    rw [Survey.of_concat, Survey.openings_step, hopens, hclosed, hopenings]
    rfl
  rw [← Survey.of_concat] at hextents
  rw [← hopening] at hopenings hencl
  have hcount : ownDecisions (.of .go) tokens (Survey.of .go (before ++ [t])).extents e =
      decisionsSoFar (.of .go) tokens (Survey.of .go before) e.opening :=
    ownDecisions_close hordered hopenings hextents hplace
  refine ⟨?_, hdepth, hskips, ?_, ?_, ?_⟩
  · rw [afterAll_concat, h.brackets, hpartner]
    exact after_of_isClosing _ hcode hclosing
  · rw [hbodies, hopenings']
    refine ((List.forall₂_and_left _ _).2 ⟨hbelow, hrest⟩).imp ?_
    rintro lower opening ⟨hlt, hencl⟩
    rw [hpartner] at hencl
    exact hencl.pop_outer hcode hclosing fun _ => by omega
  · rw [hdecisions, h.decisions, hopenings, List.map_cons, List.tail_cons,
      decisionsSoFar_close (by simp) hopenings hopenings' hextents hplace hnone]
  · rw [hfunctions, hextents]
    -- the extents so far keep their decisions, because the new one closes after them
    have hold := forall₂_and_right h.functions fun d hd => (hordered.closed d hd).2.le
    have hkept : List.Forall₂ (BracedExtent tokens ((Survey.of .go before).extents ++ [e]))
        s.braces.ledger.functions (Survey.of .go before).extents :=
      hold.imp fun g d hd => hd.1.append (by rw [hplace]; exact hd.2)
    have hnew : BracedExtent tokens ((Survey.of .go before).extents ++ [e]) f e := by
      rw [hextents] at hcount
      rw [h.decisions, hopenings] at hccn
      have hhead : (decisionsSoFar (.of .go) tokens (Survey.of .go before) e.opening : Int) = f.ccn - 1 :=
        Option.some.inj hccn
      refine hencl.bracedExtent hsplit hcode htext hinnermost ?_ hline (by omega)
      rw [hplace, Survey.of_place]
    exact List.rel_append hkept (.cons hnew .nil)

end Token

/-! ## Every token -/

/-- What a signature skips is said by its phase and by the signature. -/
theorem skips_congr (hphase : s'.phase = s.phase) (hsignature : s'.signature = s.signature)
    (h : s.Skips inner) : s'.Skips inner := by
  unfold Go.Skips at h ⊢
  rw [hphase, hsignature]
  exact h

/-- Where all bodies are blocks, each lies below the ones inside it. -/
theorem pairwise_braceDepth (h : (go s).ScopesAgree) :
    s.braces.bodies.Pairwise fun upper lower => lower.braceDepth < upper.braceDepth := by
  obtain ⟨hnested, hblocks⟩ := h
  refine hnested.below_upper.imp_of_mem ?_
  intro upper lower _ hlower hbelow
  exact hbelow.2 (hblocks lower hlower)

/-- The bodies lie below each other, so if a closing brace does not close the innermost, it closes none. -/
theorem innermost_of_closes (h : (go s).ScopesAgree) {depth : Nat} (hdepth : s.braces.depth = depth + 1)
    (hinnermost : ¬ s.braces.bodies.head?.any (·.braceDepth == depth) = true) :
    ∀ body ∈ s.braces.bodies, body.braceDepth ≠ depth := by
  have hpairwise := pairwise_braceDepth h
  obtain ⟨hnested, hblocks⟩ := h
  cases hbodies : s.braces.bodies with
  | nil => simp
  | cons first bodies =>
    have hlies := hnested.below_depth
    rw [hbodies] at hinnermost hpairwise hlies hblocks
    have hfirst : first.braceDepth ≠ depth := by simpa using hinnermost
    have hlt := (hlies first List.mem_cons_self).2 (hblocks first List.mem_cons_self)
    intro body hbody
    rcases List.mem_cons.1 hbody with rfl | hlower
    · exact hfirst
    · have hbelow := (List.pairwise_cons.1 hpairwise).1 body hlower
      omega

section Source

variable {source : String} (h : Delimits (sourceTokens .go source) before s inner outer)
  (hsplit : sourceTokens .go source = before ++ t :: after) (hrun : passBefore .go before = go s)

include h hsplit hrun

theorem Delimits.newline (ht : t.isNewline = true) :
    ∃ s' inner' outer', (go s).feed (.of .go) t = go s' ∧
      Delimits (sourceTokens .go source) (before ++ [t]) s' inner' outer' := by
  have hfeed : (go s).feed (.of .go) t =
      go ((s.mapLedger Ledger.nextLine).readNewline t.implicit) := by
    rw [feed_of_isNewline _ _ ht, mapLedger, Recognizer.read, Go.read, if_pos ht]
  have hskips : (s.mapLedger Ledger.nextLine).Skips inner := h.skips
  have hbraces := Go.readNewline_braces (s.mapLedger Ledger.nextLine) t.implicit
  have hneutral : (t.isCode && isOpening t.text) = false ∧ (t.isCode && isClosing t.text) = false := by
    rw [Token.isCode_of_isNewline ht]
    exact ⟨rfl, rfl⟩
  refine ⟨_, inner, outer, hfeed, h.stay hsplit hrun hfeed ?_ ?_ ?_ ?_ ?_ ?_ ?_⟩
  · rw [hbraces]
    rfl
  · have hnone : isDecision (.of .go) t = false := by
      rw [isDecision, Token.isCode_of_isNewline ht]
      rfl
    rw [hbraces, hnone, Ledger.decisions_uncounted]
    rfl
  · rw [hbraces]
    rfl
  · rw [hbraces]
    exact h.depth_eq
  · exact Go.readNewline_skips hskips t.implicit
  · exact after_of_neutral _ hneutral
  · exact fun body _ opening hencl => hencl.pass hneutral

/-- A token that opens and closes no function, seen from the state before it counts as a decision. -/
theorem Delimits.stay_taken (ht : t.isNewline = false)
    (hledger : (s.readAnnounced t).braces.ledger = s.braces.ledger.announce t.lineSpan)
    (hbodies : (s.readAnnounced t).braces.bodies = s.braces.bodies)
    (hdepth : (s.readAnnounced t).braces.depth = outer'.count "\x7b")
    (hskips : (s.readAnnounced t).Skips inner')
    (hbrackets : Brackets.after (inner ++ outer) t = some (inner' ++ outer'))
    (hencloses : ∀ body ∈ s.braces.bodies, ∀ opening, Encloses before inner outer body opening →
      Encloses (before ++ [t]) inner' outer' body opening) :
    Delimits (sourceTokens .go source) (before ++ [t]) (s.taken t) inner' outer' := by
  obtain ⟨hphase, hsignature, htbodies, htdepth, htfunctions, htdecisions⟩ := s.taken_spec ht
  rw [hledger] at htfunctions htdecisions
  exact h.stay hsplit hrun (s.feed_eq_taken ht) htfunctions htdecisions (htbodies.trans hbodies)
    (htdepth.trans hdepth) (skips_congr hphase hsignature hskips) hbrackets hencloses

/-- A token that opens and closes no function because it leaves the braces alone. -/
theorem Delimits.stay_passes (ht : t.isNewline = false)
    (hpasses : Go.Passes (s.mapLedger (·.announce t.lineSpan)) (s.readAnnounced t) inner')
    (hcount : outer'.count "\x7b" = outer.count "\x7b")
    (hbrackets : Brackets.after (inner ++ outer) t = some (inner' ++ outer'))
    (hencloses : ∀ body ∈ s.braces.bodies, ∀ opening, Encloses before inner outer body opening →
      Encloses (before ++ [t]) inner' outer' body opening) :
    Delimits (sourceTokens .go source) (before ++ [t]) (s.taken t) inner' outer' := by
  refine h.stay_taken hsplit hrun ht ?_ ?_ ?_ hpasses.skips hbrackets hencloses
  · rw [hpasses.braces_eq]
    rfl
  · rw [hpasses.braces_eq]
    rfl
  · rw [hpasses.braces_eq, hcount]
    exact h.depth_eq

/-- A token that is no bracket. -/
theorem Delimits.neutral (ht : t.isNewline = false)
    (hneutral : (t.isCode && isOpening t.text) = false ∧ (t.isCode && isClosing t.text) = false) :
    Delimits (sourceTokens .go source) (before ++ [t]) (s.taken t) inner outer := by
  have hpasses : Go.Passes (s.mapLedger (·.announce t.lineSpan)) (s.readAnnounced t) inner := by
    unfold Go.readAnnounced
    cases hcode : t.isCode with
    | false => exact ⟨h.skips, rfl⟩
    | true =>
      rw [hcode, Bool.true_and, Bool.true_and] at hneutral
      exact Go.readCode_neutral h.skips hneutral.1 hneutral.2
  exact h.stay_passes hsplit hrun ht hpasses rfl (after_of_neutral _ hneutral)
    fun body _ opening hencl => hencl.pass hneutral

/-- An opening bracket. -/
theorem Delimits.openingBracket (ht : t.isNewline = false) (hcode : t.isCode = true)
    (hopening : isOpening t.text = true) :
    ∃ inner' outer',
      Delimits (sourceTokens .go source) (before ++ [t]) (s.taken t) inner' outer' := by
  have hread : s.readAnnounced t = (s.mapLedger (·.announce t.lineSpan)).readCode t.text := if_pos hcode
  have hopens : Go.Opens (s.mapLedger (·.announce t.lineSpan)) t.text inner (s.readAnnounced t) := by
    rw [hread]
    exact Go.readCode_opening h.skips hopening
  cases hopens with
  | skipped hpasses =>
    exact ⟨t.text :: inner, outer, h.stay_passes hsplit hrun ht hpasses rfl
      (after_of_isOpening _ hcode hopening) fun body _ opening hencl => hencl.push_inner hcode hopening⟩
  | bracket hinner htext hpasses =>
    subst hinner
    exact ⟨[], t.text :: outer, h.stay_passes hsplit hrun ht hpasses (List.count_cons_of_ne htext)
      (after_of_isOpening _ hcode hopening) fun body _ opening hencl => hencl.push_outer hcode hopening⟩
  | block hinner htext hskips hbraces =>
    subst hinner
    refine ⟨[], t.text :: outer, h.stay_taken hsplit hrun ht (by rw [hbraces]; rfl)
      (by rw [hbraces]; rfl) ?_ hskips (after_of_isOpening _ hcode hopening)
      fun body _ opening hencl => hencl.push_outer hcode hopening⟩
    rw [hbraces, htext, List.count_cons_self]
    exact congrArg (· + 1) h.depth_eq
  | body hinner htext hskips f hf hbraces =>
    obtain ⟨hphase, hsignature, htbodies, htdepth, htfunctions, htdecisions⟩ := s.taken_spec ht
    rw [hbraces] at htbodies htdepth htfunctions htdecisions
    refine ⟨[], t.text :: outer, h.open hsplit hrun (s.feed_eq_taken ht) hinner hcode htext ?_ ?_
      htbodies htdepth (skips_congr hphase hsignature hskips)⟩
    · rw [htfunctions]
      exact Ledger.recordDecisions_functions _ _
    · rw [htdecisions, isDecision_of_brace (.inl htext), Ledger.decisions_uncounted]
      exact Braces.decisions_openBody _ hf

end Source

/-- A closing brace with a body to close. -/
theorem Delimits.closeBody {source : String}
    (h : Delimits (sourceTokens .go source) before s [] ("\x7b" :: outer))
    (hsplit : sourceTokens .go source = before ++ t :: after) (hrun : passBefore .go before = go s)
    (ht : t.isNewline = false) (hcode : t.isCode = true) (htext : t.text = "\x7d")
    (hagrees : (go s).ScopesAgree)
    (hinnermost : s.braces.bodies.head?.any (·.braceDepth == outer.count "\x7b") = true)
    (hskips : (s.readAnnounced t).Skips [])
    (hbraces : (s.readAnnounced t).braces =
      ({ (s.mapLedger (·.announce t.lineSpan)).braces with depth := outer.count "\x7b" } :
        Braces).closeBody) :
    Delimits (sourceTokens .go source) (before ++ [t]) (s.taken t) [] outer := by
  obtain ⟨hphase, hsignature, htbodies, htdepth, htfunctions, htdecisions⟩ := s.taken_spec ht
  rw [hbraces] at htbodies htdepth htfunctions htdecisions
  rw [isDecision_of_brace (.inr htext), Ledger.decisions_uncounted] at htdecisions
  have hpairwise := pairwise_braceDepth hagrees
  have hlength := hagrees.1.length_bodies
  cases hbodies : s.braces.bodies with
  | nil =>
    rw [hbodies] at hinnermost
    cases hinnermost
  | cons body bodies =>
    rw [hbodies] at hinnermost hpairwise hlength
    have hbelow : ∀ lower ∈ bodies, lower.braceDepth < body.braceDepth :=
      (List.pairwise_cons.1 hpairwise).1
    -- there are as many functions as bodies, so a function closes with the body
    cases hframes : s.braces.ledger.frames with
    | nil =>
      rw [Ledger.depth, hframes] at hlength
      cases hlength
    | cons g frames =>
      obtain ⟨f, hfunctions, _, _, _, hccn, _⟩ := Ledger.closeFunction_of_frames_eq_cons
        (show (s.braces.ledger.announce t.lineSpan).frames = g :: frames from hframes) none
      have hclosed := htfunctions.trans hfunctions
      refine h.close hsplit hrun (s.feed_eq_taken ht) rfl hcode htext rfl hbodies ?_ hbelow hclosed ?_ ?_
        ?_ ?_ htdepth (skips_congr hphase hsignature hskips)
      · simpa using hinnermost
      · -- among braces functions end on the present line
        have hmem : f ∈ (passBefore .go before).closedBy (.of .go) t := by
          rw [hrun, (opens_of_feed (s.feed_eq_taken ht) _ hclosed).1]
          exact List.mem_singleton_self f
        have hend := endLine_of_mem_closedBy hmem
        rw [ht, if_neg (by simp), hrun] at hend
        have hline := (ledger_line_before .go hsplit).2 ht
        rw [← passBefore, hrun] at hline
        exact hend.trans hline
      · rw [Ledger.decisions, hframes, hccn]
        simp
      · rw [htdecisions]
        show (Ledger.closeFunction _).frames.map _ = (List.map _ _).tail
        rw [Ledger.closeFunction_frames, List.map_tail]
        rfl
      · rw [htbodies]
        show s.braces.bodies.tail = bodies
        rw [hbodies]
        rfl

section Source

variable {source : String} (h : Delimits (sourceTokens .go source) before s inner outer)
  (hsplit : sourceTokens .go source = before ++ t :: after) (hrun : passBefore .go before = go s)

include h hsplit hrun

/-- A closing bracket. -/
theorem Delimits.closingBracket (ht : t.isNewline = false) (hcode : t.isCode = true)
    (hclosing : isClosing t.text = true) (hagrees : (go s).ScopesAgree)
    {stack : List String} (hstack : inner ++ outer = partner t.text :: stack) :
    ∃ inner' outer',
      Delimits (sourceTokens .go source) (before ++ [t]) (s.taken t) inner' outer' := by
  have hread : s.readAnnounced t = (s.mapLedger (·.announce t.lineSpan)).readCode t.text := if_pos hcode
  have hcloses : Go.Closes (s.mapLedger (·.announce t.lineSpan)) t.text inner (s.readAnnounced t) := by
    rw [hread]
    refine Go.readCode_closing h.skips (fun b hb => ?_) hclosing
    -- what the signature skips lies on top, so if it skips anything the bracket closes that
    cases inner with
    | nil => cases hb
    | cons c inner =>
      obtain rfl := Option.some.inj hb
      exact (List.cons.inj hstack).1
  cases hcloses with
  | skipped b rest hinner hpasses =>
    subst hinner
    obtain rfl : b = partner t.text := (List.cons.inj hstack).1
    exact ⟨rest, outer, h.stay_passes hsplit hrun ht hpasses rfl (after_of_isClosing _ hcode hclosing)
      fun body _ opening hencl => hencl.pop_inner hcode hclosing⟩
  | bracket hinner htext hpasses =>
    subst hinner
    obtain rfl : outer = partner t.text :: stack := hstack
    have hother : partner t.text ≠ "\x7b" := by
      simp only [isClosing, Bool.or_eq_true, beq_iff_eq] at hclosing
      rcases hclosing.resolve_right htext with hround | hsquare
      · rw [hround]
        decide
      · rw [hsquare]
        decide
    exact ⟨[], stack, h.stay_passes hsplit hrun ht hpasses (List.count_cons_of_ne hother).symm
      (after_of_isClosing _ hcode hclosing)
      fun body _ opening hencl => hencl.pop_outer hcode hclosing fun hbrace => absurd hbrace hother⟩
  | brace hinner htext hskips hbraces =>
    subst hinner
    obtain rfl : outer = partner t.text :: stack := hstack
    have hpartner : partner t.text = "\x7b" := by
      rw [htext]
      decide
    have hdepth : s.braces.depth = stack.count "\x7b" + 1 := by
      rw [h.depth_eq, hpartner, List.count_cons_self]
    rw [Braces.closeBrace_of_blocks (b := (s.mapLedger (·.announce t.lineSpan)).braces) hdepth
      hagrees.2] at hbraces
    by_cases hinnermost : (s.mapLedger (·.announce t.lineSpan)).braces.bodies.head?.any
      (·.braceDepth == stack.count "\x7b") = true
    · rw [if_pos hinnermost] at hbraces
      rw [hpartner] at h
      exact ⟨[], stack, h.closeBody hsplit hrun ht hcode htext hagrees hinnermost hskips hbraces⟩
    · rw [if_neg hinnermost] at hbraces
      have hother := innermost_of_closes hagrees hdepth hinnermost
      refine ⟨[], stack, h.stay_taken hsplit hrun ht (by rw [hbraces]; rfl) (by rw [hbraces]; rfl)
        (by rw [hbraces]) hskips (after_of_isClosing _ hcode hclosing) fun body hbody opening hencl =>
          hencl.pop_outer hcode hclosing fun _ => (hother body hbody).symm⟩

end Source

/-! ## A text -/

variable {source : String}

/-- In a well nested text the brackets so far are those that the present signature skips and, below them,
those among which the braces are counted. -/
theorem exists_delimits (hnested : WellNested (sourceTokens .go source))
    (hsplit : sourceTokens .go source = before ++ after) :
    ∃ s inner outer, passBefore .go before = go s ∧
      Delimits (sourceTokens .go source) before s inner outer := by
  refine forall_beginning (P := fun before => ∃ s inner outer, passBefore .go before = go s ∧
    Delimits (sourceTokens .go source) before s inner outer) ?_ ?_ hsplit
  · exact ⟨Go.start 1, [], [], rfl, rfl, rfl, rfl, .nil, rfl, .nil⟩
  · rintro before t after hsplit ⟨s, inner, outer, hrun, h⟩
    have hagrees : (go s).ScopesAgree := by
      rw [← hrun]
      exact scopesAgree_run _ (scopesAgree_start .go 1) (sound_start .go 1) before
    obtain ⟨stack, hstack⟩ : ∃ stack, Brackets.after (inner ++ outer) t = some stack := by
      rw [WellNested, hsplit, List.append_cons, afterAll, List.foldlM_append, ← afterAll,
        afterAll_concat, h.brackets] at hnested
      obtain ⟨stack, hstack, _⟩ := Option.bind_eq_some_iff.1 hnested
      exact ⟨stack, hstack⟩
    have hfeed : passBefore .go (before ++ [t]) = (go s).feed (.of .go) t := by
      rw [passBefore, run_append, ← passBefore, hrun]
      rfl
    rw [hfeed]
    cases ht : t.isNewline with
    | true =>
      obtain ⟨s', inner', outer', hs', h'⟩ := h.newline hsplit hrun ht
      exact ⟨s', inner', outer', hs', h'⟩
    | false =>
      rw [s.feed_eq_taken ht]
      rcases after_cases hstack with ⟨hneutral, _⟩ | ⟨hcode, hopening, _⟩ | ⟨hcode, hclosing, hpop⟩
      · exact ⟨_, inner, outer, rfl, h.neutral hsplit hrun ht hneutral⟩
      · obtain ⟨inner', outer', h'⟩ := h.openingBracket hsplit hrun ht hcode hopening
        exact ⟨_, inner', outer', rfl, h'⟩
      · obtain ⟨inner', outer', h'⟩ := h.closingBracket hsplit hrun ht hcode hclosing hagrees hpop
        exact ⟨_, inner', outer', rfl, h'⟩

/-- The pass over a well nested text succeeds, and each function has the extent between its braces. -/
theorem recognize_braces (hnested : WellNested (sourceTokens .go source)) :
    (recognize .go source).2 = none ∧
      List.Forall₂ (BracedExtent (sourceTokens .go source) (extents .go source))
        (recognize .go source).1.ledger.functions (extents .go source) := by
  obtain ⟨s, inner, outer, hrun, h⟩ := exists_delimits hnested (List.append_nil _).symm
  have hopen := h.brackets
  rw [show afterAll [] _ = some [] from hnested] at hopen
  obtain ⟨rfl, rfl⟩ := List.append_eq_nil_iff.1 (Option.some.inj hopen).symm
  have hdepth : s.braces.depth = 0 := h.depth_eq
  have hfinish : recognize .go source = (go s, none) := by
    rw [recognize, ← passBefore, hrun, finish, Go.finish, Braces.openAtEnd?, if_pos hdepth]
  have hframes := recognize_frames_eq_nil (show (recognize .go source).2 = none by rw [hfinish])
  rw [hfinish] at hframes ⊢
  -- no body is open any more, so all extents have closed
  have hrunning : (Survey.of .go (sourceTokens .go source)).running = [] := by
    have hlength := (length_extents (List.append_nil (sourceTokens .go source)).symm).1
    rw [hrun, Ledger.depth, show (go s).ledger.frames = [] from hframes] at hlength
    exact List.eq_nil_of_length_eq_zero hlength
  have hextents : extents .go source = (Survey.of .go (sourceTokens .go source)).extents := by
    rw [extents, Survey.allExtents, hrunning, List.map_nil, List.append_nil]
  rw [hextents]
  exact ⟨rfl, h.functions⟩

/-- A Go text whose brackets are well nested is measured function by function. A function is opened by a
brace and closed by the brace that matches it, on whose line it ends; its decisions are those between the
two braces that are not between the braces of a function inside. The place where an extent closes is
where its function closes in the pass. -/
theorem braces_delimit (filename : String) (hnested : WellNested (sourceTokens .go source)) :
    ∃ a, ofSource .go filename source = (a, none) ∧ a.mode = .function ∧
      List.Forall₂ (BracedExtent (sourceTokens .go source) (extents .go source))
        a.functions (extents .go source) ∧
      ∀ before after, sourceTokens .go source = before ++ after →
        ((start .go).run (.of .go) before).ledger.functions =
          a.functions.take
            ((extents .go source).countP fun e => decide (e.closing < before.length)) := by
  obtain ⟨hsucc, hbraced⟩ := recognize_braces hnested
  obtain ⟨a, ha, hmode⟩ : ∃ a, byFunction .go filename source = .ok a ∧ a.mode = .function := by
    unfold byFunction
    split
    · rename_i e he
      rw [he] at hsucc
      cases hsucc
    · exact ⟨_, rfl, rfl⟩
  have hreports := byFunction_reports ha
  refine ⟨a, by rw [ofSource, ha], hmode, ?_, ?_⟩
  · rw [hreports.functions_eq]
    exact hbraced
  · rw [hreports.functions_eq]
    exact fun before after => functions_closed_before hsucc

/-- A Go function with braces in its parameters and its result, and with a literal inside. -/
def literalInside : String :=
  "func F[K any](x interface\x7b\x7d) struct\x7b n int \x7d \x7b\n if x && y \x7b\n  go func() \x7b for \x7b\x7d \x7d()\n \x7d\n\x7d\n"

/-- The measures of that text. -/
def literalInsideMeasured : Analysis where
  totalCcn := 5
  nloc := 5
  tokenCount := 36
  decisionPoints := 3
  functions := [⟨"(anonymous)", 3, 3, 2, 1, 0, 5, 1⟩, ⟨"F", 1, 5, 3, 5, 1, 14, 0⟩]
  language := some .go
  filename := ""

/-- The outer function goes from the third opening brace to the last closing one, and the loop of the
literal is none of its decisions. -/
theorem braces_delimit_literalInside :
    WellNested (sourceTokens .go literalInside) ∧
      ofSource .go "" literalInside = (literalInsideMeasured, none) ∧
      ∃ e : Extent, e.opening = 17 ∧ e.closing = 39 ∧
        BracedExtent (sourceTokens .go literalInside) (extents .go literalInside)
          ⟨"F", 1, 5, 3, 5, 1, 14, 0⟩ e := by
  have hnested : WellNested (sourceTokens .go literalInside) := by
    decide +kernel
  have hmeasured : ofSource .go "" literalInside = (literalInsideMeasured, none) := by
    decide +kernel
  have hextents : extents .go literalInside = [⟨⟨29, [33, 32, 31, 30, 29]⟩, 33⟩,
      ⟨⟨17, [39, 37, 35, 34, 28, 27, 26, 25, 23, 22, 21, 20, 19, 17]⟩, 39⟩] := by
    decide +kernel
  obtain ⟨a, ha, _, hbraced, _⟩ := braces_delimit "" hnested
  rw [hmeasured] at ha
  obtain rfl := (Prod.mk.inj ha).1
  rw [hextents] at hbraced ⊢
  exact ⟨hnested, hmeasured, _, rfl, rfl,
    (List.forall₂_cons.1 (List.forall₂_cons.1 hbraced).2).1⟩

end Analysis

end Cyclomatic
