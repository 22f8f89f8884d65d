import Mathlib
import Cyclomatic.Proofs.Ledger.Outline
import Cyclomatic.Proofs.Recognizer.Openings
import Cyclomatic.Proofs.Recognizer.Script

/-!
# Snapshots

A snapshot shows a pass over TypeScript or JavaScript tokens without its lines and decisions: the phase, the
groups with their entries, the open braces, and the names and numbers of parameters of the functions. That is
enough to follow how parameters are counted. What is read is followed on the snapshot alone: entries begin
and end, and groups open and close (`Snapshot.beginEntry`, `Snapshot.endEntry`, `Snapshot.push`,
`Snapshot.pop`).
-/

namespace Cyclomatic.Recognizer

/-! ## Without lines and decisions -/

def Group.bare (g : Group) : Group :=
  { g with startLine := 0, decisions := 0 }

def ScriptPhase.bare : ScriptPhase → ScriptPhase
  | .statement => .statement
  | .functionHead name _ => .functionHead name 0
  | .typeParameters name _ depth => .typeParameters name 0 depth
  | .returnType g depth tokens => .returnType g.bare depth tokens
  | .arrowBody f => .arrowBody { f with startLine := 0, decisionCount := 0 }

/-- What is seen of a pass. -/
structure Snapshot where
  phase : ScriptPhase := .statement
  /-- The open groups, innermost first. -/
  groups : List Group := []
  /-- The parenthesis that the last token closed. -/
  closedGroup : Option Group := none
  /-- The number of open braces. -/
  depth : Nat := 0
  /-- The names and numbers of parameters of the functions. -/
  signatures : List (String × Int) := []
deriving DecidableEq, Repr

namespace Snapshot

/-- The current entry of the innermost group holds a token. -/
def beginEntry (x : Snapshot) : Snapshot :=
  { x with groups := x.groups.modify 0 fun g => { g with entryBegun := true } }

/-- An entry of the innermost group ends, if the group stands directly among the open braces. -/
def endEntry (x : Snapshot) : Snapshot :=
  { x with groups := x.groups.modify 0 fun g => if g.braceDepth = x.depth then g.endEntry else g }

/-- A group opens. -/
def push (x : Snapshot) (g : Group) : Snapshot :=
  { x with groups := g :: x.beginEntry.groups }

/-- The innermost group closes. Only a parenthesis waits for the next token. -/
def pop (x : Snapshot) (text : String) : Snapshot :=
  match x.groups with
  | [] => x
  | g :: gs =>
    { x with
      groups := gs
      closedGroup := if text = ")" ∧ g.isParenthesis then some g.endEntry else x.closedGroup }

end Snapshot

/-- Expressions that close are nothing to the braces and the signatures. -/
@[simp] theorem closeExpressions_depth (b : Braces) (brackets : Nat) :
    (b.closeExpressions brackets).depth = b.depth :=
  Braces.closeWhile_depth _ _

/-- Expressions that close keep their signatures. -/
@[simp] theorem closeExpressions_signatures (b : Braces) (brackets : Nat) :
    (b.closeExpressions brackets).ledger.signatures = b.ledger.signatures := by
  rw [Ledger.signatures, Braces.outlines_closeExpressions, Ledger.signatures]

namespace Script

variable {s : Script} {t : Token}

def snapshot (s : Script) : Snapshot where
  phase := s.phase.bare
  groups := s.groups.map (·.bare)
  closedGroup := s.closedGroup.map (·.bare)
  depth := s.braces.depth
  signatures := s.braces.ledger.signatures

/-! ## What is not seen -/

@[simp] theorem snapshot_record (s : Script) (count : Nat) :
    (s.record count).snapshot = s.snapshot := by
  have hledger : (s.mapLedger (·.recordDecisions count)).snapshot = s.snapshot := by
    simp [snapshot, mapLedger]
  unfold record
  split
  · rename_i g gs hgroups
    split
    · simp [snapshot, hgroups, Group.bare]
    · exact hledger
  · exact hledger

@[simp] theorem snapshot_release (s : Script) (g : Group) : (s.release g).snapshot = s.snapshot :=
  snapshot_record s _

@[simp] theorem snapshot_settleQuestion (s : Script) (t : Token) :
    (s.settleQuestion t).snapshot = s.snapshot := by
  unfold settleQuestion
  split
  · split
    · rfl
    · exact snapshot_record { s with question := false } 1
  · rfl

@[simp] theorem snapshot_countDecision (s : Script) (text : String) :
    (s.countDecision text).snapshot = s.snapshot := by
  unfold countDecision
  split
  · rfl
  · exact snapshot_record s 1

@[simp] theorem snapshot_forgetName (s : Script) : s.forgetName.snapshot = s.snapshot := rfl

@[simp] theorem snapshot_takeName (s : Script) : s.takeName.snapshot = s.snapshot := by
  unfold takeName
  split
  · split <;> rfl
  · rfl

@[simp] theorem snapshot_declare (s : Script) (text : String) :
    (s.declare text).snapshot = s.snapshot := by
  unfold declare
  split
  · split <;> rfl
  · rfl

@[simp] theorem snapshot_closeExpressions (s : Script) (brackets : Nat) :
    (s.closeExpressions brackets).snapshot = s.snapshot := by
  simp [snapshot, closeExpressions]

/-- The ledger may move on, and announce and credit tokens. -/
theorem snapshot_mapLedger {f : Ledger → Ledger} (hf : ∀ l : Ledger, (f l).signatures = l.signatures) :
    (s.mapLedger f).snapshot = s.snapshot := by
  simp [snapshot, mapLedger, hf]

/-! ## Entries and groups -/

/-- Beginning an entry is seen as such. -/
@[simp] theorem snapshot_beginEntry (s : Script) :
    s.beginEntry.snapshot = s.snapshot.beginEntry := by
  unfold beginEntry
  split
  · rename_i hgroups
    simp [snapshot, Snapshot.beginEntry, hgroups]
  · rename_i g gs hgroups
    simp [snapshot, Snapshot.beginEntry, hgroups, Group.bare]

/-- A group that opens is seen without its line and decisions. -/
@[simp] theorem snapshot_pushGroup (s : Script) (g : Group) :
    (s.pushGroup g).snapshot = s.snapshot.push g.bare := by
  have hbegin := snapshot_beginEntry s
  have hgroups : s.beginEntry.groups.map (·.bare) = s.snapshot.beginEntry.groups :=
    congrArg (·.groups) hbegin
  have hkeeps := beginEntry_keeps s
  simp [pushGroup, Snapshot.push, snapshot, hkeeps.phase_eq, hkeeps.closedGroup_eq, hgroups]

/-- A group that closes is seen; where its decisions go is not. -/
@[simp] theorem snapshot_closeGroup (s : Script) (text : String) :
    (s.closeGroup text).snapshot = s.snapshot.pop text := by
  unfold closeGroup Snapshot.pop
  cases hgroups : s.groups with
  | nil => simp [snapshot, hgroups]
  | cons g gs =>
    by_cases hwaits : text = ")" ∧ g.isParenthesis = true
    · simp [snapshot, closeExpressions, hgroups, hwaits, Group.endEntry, Group.bare]
    · have hended : ¬(text = ")" ∧ g.endEntry.isParenthesis = true) := hwaits
      dsimp only
      rw [if_neg hended, snapshot_release, snapshot_closeExpressions]
      simp [snapshot, hgroups, hwaits, Group.bare]

/-- Of a comma the end of an entry is seen. -/
@[simp] theorem snapshot_readComma (s : Script) : s.readComma.snapshot = s.snapshot.endEntry := by
  unfold readComma Snapshot.endEntry
  dsimp only
  have hname (x : Script) : (if x.canName then x.forgetName else x).snapshot = x.snapshot := by
    split <;> rfl
  rw [hname, snapshot_closeExpressions]
  cases hgroups : s.groups with
  | nil => simp [snapshot, hgroups]
  | cons g gs =>
    by_cases hdepth : g.braceDepth = s.braces.depth
    · simp [snapshot, hgroups, hdepth, Group.endEntry, Group.bare]
    · simp [snapshot, hgroups, hdepth, Group.bare]

/-- A colon without a group before it is part of the current entry. -/
theorem snapshot_readColon_none (s : Script) : (s.readColon none).snapshot = s.snapshot.beginEntry := by
  unfold readColon
  dsimp only
  split
  · exact snapshot_beginEntry s
  · split
    · exact snapshot_beginEntry s
    · rw [snapshot_takeName, snapshot_beginEntry]

/-! ## Tokens -/

/-- The tokens of ordinary code that are more than a part of the current entry. -/
def shapingTexts : List String :=
  ["function", "(", "[", ")", "]", "\x7b", "\x7d", "=>", ",", ";"]

/-- A name other than `function` shapes nothing. -/
theorem not_mem_shapingTexts_of_isName {text : String} (hname : isName text = true)
    (hne : text ≠ "function") : text ∉ shapingTexts := by
  intro h
  simp only [shapingTexts, List.mem_cons, List.not_mem_nil, or_false] at h
  rcases h with h | rfl | rfl | rfl | rfl | rfl | rfl | rfl | rfl | rfl
  · exact hne h
  all_goals exact absurd hname (by decide)

theorem snapshot_ite {c : Prop} [Decidable c] {x y : Script} {o : Snapshot}
    (hx : c → x.snapshot = o) (hy : ¬c → y.snapshot = o) : (if c then x else y).snapshot = o := by
  split
  · exact hx ‹_›
  · exact hy ‹_›

/-- A token that shapes nothing is part of the current entry. -/
theorem snapshot_readStatement_plain (ht : t.isCode = true) (hplain : t.text ∉ shapingTexts) :
    (s.readStatement none t).snapshot = s.snapshot.beginEntry := by
  simp only [shapingTexts, List.mem_cons, List.not_mem_nil, or_false, not_or] at hplain
  obtain ⟨hfunction, hparen, hsquare, hparen', hsquare', hbrace, hbrace', harrow, hcomma, hsemi⟩ := hplain
  have hbegin : (s.declare t.text).beginEntry.snapshot = s.snapshot.beginEntry := by
    rw [snapshot_beginEntry, snapshot_declare]
  -- of the kinds of tokens that are tried, only those that begin an entry are left
  unfold readStatement
  dsimp only
  refine snapshot_ite (fun h => by simp [ht] at h) fun _ => ?_
  refine snapshot_ite (fun h => absurd h hfunction) fun _ => ?_
  refine snapshot_ite (fun _ => hbegin) fun _ => ?_
  refine snapshot_ite (fun h => absurd h hparen) fun _ => ?_
  refine snapshot_ite (fun h => absurd h hsquare) fun _ => ?_
  refine snapshot_ite (fun h => absurd h (not_or.2 ⟨hparen', hsquare'⟩)) fun _ => ?_
  refine snapshot_ite (fun h => absurd h hbrace) fun _ => ?_
  refine snapshot_ite (fun h => absurd h hbrace') fun _ => ?_
  refine snapshot_ite (fun h => absurd h harrow) fun _ => ?_
  refine snapshot_ite (fun _ => ?_) fun _ => ?_
  · rw [snapshot_readColon_none, snapshot_declare]
  refine snapshot_ite (fun _ => ?_) fun _ => ?_
  · rw [snapshot_takeName, hbegin]
  refine snapshot_ite (fun h => absurd h hcomma) fun _ => ?_
  refine snapshot_ite (fun h => absurd h hsemi) fun _ => ?_
  exact snapshot_ite (fun _ => hbegin) fun _ => hbegin

/-- What is read of the punctuation among parameters. -/
theorem snapshot_readStatement_punctuation (ht : t.isCode = true) :
    (t.text = "," → (s.readStatement none t).snapshot = s.snapshot.endEntry) ∧
      (t.text = "[" → (s.readStatement none t).snapshot = s.snapshot.push
        { startLine := 0, braceDepth := s.snapshot.depth, isParenthesis := false }) ∧
      (t.text = ")" ∨ t.text = "]" →
        (s.readStatement none t).snapshot = s.snapshot.pop t.text) := by
  have hdeclare (text : String) : (s.declare text).snapshot = s.snapshot := snapshot_declare s text
  refine ⟨fun h => ?_, fun h => ?_, fun h => ?_⟩
  · have hread : s.readStatement none t = (s.declare ",").readComma := by
      simp only [readStatement, ht, h]
      rfl
    rw [hread, snapshot_readComma, hdeclare]
  · have hread : s.readStatement none t = (s.declare "[").openSquare := by
      simp only [readStatement, ht, h]
      rfl
    have hdepth : (s.declare "[").braces.depth = s.snapshot.depth := congrArg (·.depth) (hdeclare "[")
    rw [hread, openSquare, snapshot_pushGroup, hdeclare, ← hdepth]
    rfl
  · have hread : s.readStatement none t = (s.declare t.text).closeGroup t.text := by
      rcases h with h | h
      · simp only [readStatement, ht, h]
        rfl
      · simp only [readStatement, ht, h]
        rfl
    rw [hread, snapshot_closeGroup, hdeclare]

/-- The opening brace of the first function of all. -/
theorem snapshot_openBrace {g : Group} (hg : g.isCallable = true) (hname : g.opener.isEmpty = false)
    (hgroups : s.groups = []) (hempty : s.snapshot.signatures = []) :
    (s.openBrace (some g)).snapshot = { s.snapshot with
      depth := s.snapshot.depth + 1
      signatures := [(g.opener, (g.count : Int))] } := by
  have hbegin : s.beginEntry = s := by
    unfold beginEntry
    rw [hgroups]
  have hsignatures : (s.braces.openBody
      ⟨g.opener, g.count, g.startLine, g.decisions⟩).ledger.signatures = [(g.opener, (g.count : Int))] := by
    refine (Ledger.signatures_enterFunction hempty _).trans ?_
    simp [Signature.outline, FunctionOutline.signature, hname]
  unfold openBrace
  rw [hbegin]
  dsimp only
  rw [if_pos hg, ← hsignatures]
  rfl

/-- A closing brace. -/
theorem snapshot_closeBrace (s : Script) :
    { s with braces := s.braces.closeBrace }.snapshot =
      { s.snapshot with depth := s.snapshot.depth - 1 } := by
  simp [snapshot, Braces.closeBrace_depth, (Braces.ledger_closeBrace s.braces).signatures_eq]

/-! ## Whole tokens -/

/-- What is counted and remembered behind a token is not seen. -/
theorem snapshot_read (table : DecisionTable) (ht : t.isNewline = false) :
    (s.read table t).snapshot = (s.readToken t).snapshot := by
  unfold read
  rw [ht, if_neg Bool.false_ne_true]
  dsimp only
  split
  · exact snapshot_countDecision _ _
  · rfl

/-- Without a group that has just closed, the phase reads the token. -/
theorem exists_readPhase_none (hclosed : s.snapshot.closedGroup = none) (t : Token) :
    ∃ x : Script, x.snapshot = s.snapshot ∧ s.readToken t = x.readPhase none t := by
  have hsettled := snapshot_settleQuestion s t
  have hnone : (s.settleQuestion t).closedGroup = none := by
    rw [← hsettled] at hclosed
    exact Option.map_eq_none_iff.1 hclosed
  refine ⟨s.settleQuestion t, hsettled, ?_⟩
  unfold readToken
  dsimp only
  rw [hnone]

/-- A token that can make the group before it the parameters of a function is read with the group. -/
theorem exists_readPhase_some {g : Group} (hclosed : s.snapshot.closedGroup = some g)
    (ht : keepsSignature t = true) :
    ∃ x : Script, ∃ g' : Group, x.snapshot = { s.snapshot with closedGroup := none } ∧ g'.bare = g ∧
      s.readToken t = x.readPhase (some g') t := by
  have hsettled := snapshot_settleQuestion s t
  obtain ⟨g', hsome, hbare⟩ : ∃ g', (s.settleQuestion t).closedGroup = some g' ∧ g'.bare = g := by
    rw [← hsettled] at hclosed
    exact Option.map_eq_some_iff.1 hclosed
  refine ⟨{ s.settleQuestion t with closedGroup := none }, g', ?_, hbare, ?_⟩
  · rw [← hsettled]
    rfl
  · unfold readToken
    dsimp only
    rw [hsome]
    exact if_pos ht

/-- A snapshot of ordinary code shows ordinary code. -/
theorem phase_of_statement (h : s.snapshot.phase = .statement) : s.phase = .statement := by
  cases hphase : s.phase with
  | statement => rfl
  | _ =>
    rw [show s.snapshot.phase = s.phase.bare from rfl, hphase] at h
    cases h

/-- A snapshot of a function's head shows one, on some line. -/
theorem phase_of_functionHead {name : String} (h : s.snapshot.phase = .functionHead name 0) :
    ∃ line, s.phase = .functionHead name line := by
  cases hphase : s.phase with
  | functionHead name' line =>
    rw [show s.snapshot.phase = s.phase.bare from rfl, hphase] at h
    obtain ⟨rfl, _⟩ := ScriptPhase.functionHead.inj h
    exact ⟨line, rfl⟩
  | _ =>
    rw [show s.snapshot.phase = s.phase.bare from rfl, hphase] at h
    cases h

/-- A line break is not seen, unless it ends a return type. -/
theorem snapshot_readNewline (h : ∀ g depth tokens, s.snapshot.phase ≠ .returnType g depth tokens)
    (implicit : Bool) : (s.readNewline implicit).snapshot = s.snapshot := by
  have hend : s.endLine.snapshot = s.snapshot := by
    unfold endLine
    split
    · exact snapshot_closeExpressions { s with nameLocked := false } 0
    · rfl
  unfold readNewline
  split
  · rfl
  · split
    · rfl
    · rename_i g tokens hphase
      refine absurd ?_ (h g.bare 0 (tokens + 1))
      rw [show s.snapshot.phase = s.phase.bare from rfl, hphase]
      rfl
    · exact hend

end Script

end Cyclomatic.Recognizer
