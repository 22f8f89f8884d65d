import Mathlib
import Cyclomatic.Proofs.Braces
import Cyclomatic.Recognizer.Script

/-!
# Readings of TypeScript and JavaScript tokens

A decision may wait on an open group, on the group that has just closed, on the signature of a return
type or of an arrow, or on a question mark. `Script.held` is the number of decisions that wait. A reading
hands decisions on, and none is lost or handed on twice: what it counts in the ledger and what waits
afterwards is what waited before and what it added (`Script.Hands`).

The main statements say this of a token (`Script.read_hands`), of a line break
(`Script.readNewline_hands`) and of the end of the input (`Script.finish_settles`). They need one fact about
the states of a pass: a group that has just closed waits in ordinary code only (`Script.Sound`).
-/

namespace Cyclomatic.Recognizer

/-! ## The decisions that wait -/

/-- The decisions that wait on a group, if there is one. -/
def heldBy : Option Group → Nat
  | none => 0
  | some g => g.decisions

/-- The decisions that wait on a list of groups. -/
def groupsHeld (gs : List Group) : Nat :=
  (gs.map Group.decisions).sum

/-- The decisions that wait on the signature that a phase keeps. -/
def ScriptPhase.held : ScriptPhase → Nat
  | .returnType g _ _ => g.decisions
  | .arrowBody f => f.decisionCount
  | _ => 0

@[simp] theorem heldBy_none : heldBy none = 0 := rfl

@[simp] theorem heldBy_some (g : Group) : heldBy (some g) = g.decisions := rfl

@[simp] theorem groupsHeld_nil : groupsHeld [] = 0 := rfl

@[simp] theorem groupsHeld_cons (g : Group) (gs : List Group) :
    groupsHeld (g :: gs) = g.decisions + groupsHeld gs := by
  simp [groupsHeld]

@[simp] theorem Group.endEntry_decisions (g : Group) : g.endEntry.decisions = g.decisions := rfl

namespace Script

/-- The decisions that wait on groups and signatures. -/
def waiting (s : Script) : Nat :=
  groupsHeld s.groups + heldBy s.closedGroup + s.phase.held

/-- The decisions that wait in a state, on a question mark included. -/
def held (s : Script) : Nat :=
  s.waiting + s.question.toNat

/-- A group that has just closed waits in ordinary code only. -/
def Sound (s : Script) : Prop :=
  s.closedGroup = none ∨ s.phase = .statement

/-- `Hands R added s s'`: from `s` to `s'` decisions are handed on, `added` of them new. `R` says what
happens to the braces while some of the decisions are counted; the others wait. -/
def Hands (R : Nat → Braces → Braces → Prop) (added : Nat) (s s' : Script) : Prop :=
  ∃ k, R k s.braces s'.braces ∧ k + s'.waiting = s.waiting + added

/-- Decisions are counted, and nothing else happens to the braces. -/
def Counted (k : Nat) (b c : Braces) : Prop :=
  c = b.record k

variable {R : Nat → Braces → Braces → Prop} {m n : Nat} {s s' s'' : Script}

/-- Counting decisions is a reading that opens no function. -/
theorem Hands.settles (h : Hands Counted n s s') : Hands Braces.Settles n s s' := by
  obtain ⟨k, hk, he⟩ := h
  refine ⟨k, ?_, he⟩
  rw [hk]
  exact Braces.settles_record s.braces k

/-- A reading that opens no function is a reading. -/
theorem Hands.reads (h : Hands Braces.Settles n s s') : Hands Braces.Reads n s s' := by
  obtain ⟨k, hk, he⟩ := h
  exact ⟨k, .settles hk, he⟩

/-- Decisions may be counted one after the other. -/
theorem Hands.trans_counted (h : Hands Counted m s s') (h' : Hands Counted n s' s'') :
    Hands Counted (m + n) s s'' := by
  obtain ⟨k, hk, he⟩ := h
  obtain ⟨l, hl, he'⟩ := h'
  refine ⟨k + l, ?_, by omega⟩
  rw [Counted, hl, hk, Braces.record_record]

/-- Readings that open no function may follow each other. -/
theorem Hands.trans (h : Hands Braces.Settles m s s') (h' : Hands Braces.Settles n s' s'') :
    Hands Braces.Settles (m + n) s s'' := by
  obtain ⟨k, hk, he⟩ := h
  obtain ⟨l, hl, he'⟩ := h'
  exact ⟨k + l, hk.trans hl, by omega⟩

/-- Functions may close after a reading, but the reading opens its function first. -/
theorem Hands.trans_settles (h : Hands Braces.Reads m s s') (h' : Hands Braces.Settles n s' s'') :
    Hands Braces.Reads (m + n) s s'' := by
  obtain ⟨k, hk, he⟩ := h
  obtain ⟨l, hl, he'⟩ := h'
  exact ⟨k + l, hk.trans_settles hl, by omega⟩

/-- Decisions may be counted before a reading. -/
theorem Hands.trans_reads (h : Hands Counted m s s') (h' : Hands Braces.Reads n s' s'') :
    Hands Braces.Reads (m + n) s s'' := by
  obtain ⟨k, hk, he⟩ := h
  obtain ⟨l, hl, he'⟩ := h'
  rw [hk] at hl
  exact ⟨k + l, hl.record_before k, by omega⟩

/-- A change that leaves the braces alone counts nothing. -/
theorem hands_of_braces_eq (hb : s'.braces = s.braces) (hw : s'.waiting = s.waiting + n) :
    Hands Counted n s s' :=
  ⟨0, by rw [Counted, hb, Braces.record_zero], by omega⟩

/-- Names, flags and entries do not matter for the decisions. -/
theorem Hands.same (h : Hands R n s s') (hb : s''.braces = s'.braces)
    (hw : s''.waiting = s'.waiting) : Hands R n s s'' := by
  obtain ⟨k, hk, he⟩ := h
  exact ⟨k, by rw [hb]; exact hk, by rw [hw]; exact he⟩

/-- Both ways of a choice hand on the decisions. -/
theorem Hands.ite {c : Prop} [Decidable c] (h : Hands R n s s') (h' : Hands R n s s'') :
    Hands R n s (if c then s' else s'') := by
  split
  · exact h
  · exact h'

/-- A change of the braces alone hands on what it counts. -/
theorem hands_braces (b : Braces) (h : Braces.Settles 0 s.braces b) :
    Hands Braces.Settles 0 s { s with braces := b } :=
  ⟨0, h, Nat.zero_add _⟩

/-! ## What stays as it is -/

/-- From `s` to `s'` neither the phase, nor the group that has just closed, nor the question mark
changes. -/
structure Keeps (s s' : Script) : Prop where
  phase_eq : s'.phase = s.phase
  closedGroup_eq : s'.closedGroup = s.closedGroup
  question_eq : s'.question = s.question

theorem Keeps.refl (s : Script) : Keeps s s := ⟨rfl, rfl, rfl⟩

theorem Keeps.trans (h : Keeps s s') (h' : Keeps s' s'') : Keeps s s'' :=
  ⟨h'.phase_eq.trans h.phase_eq, h'.closedGroup_eq.trans h.closedGroup_eq,
    h'.question_eq.trans h.question_eq⟩

/-- With the same phase and closed group, only the open groups can hand on decisions. -/
theorem Keeps.waiting_eq (h : Keeps s s') (hg : groupsHeld s'.groups = groupsHeld s.groups + n) :
    s'.waiting = s.waiting + n := by
  rw [waiting, waiting, h.phase_eq, h.closedGroup_eq, hg]
  omega

/-! ## Registers -/

theorem forgetName_keeps (s : Script) : Keeps s s.forgetName := ⟨rfl, rfl, rfl⟩

theorem forgetName_hands (s : Script) : Hands Counted 0 s s.forgetName :=
  hands_of_braces_eq rfl rfl

theorem takeName_keeps (s : Script) : Keeps s s.takeName := by
  unfold takeName
  split
  · split <;> exact ⟨rfl, rfl, rfl⟩
  · exact .refl s

theorem takeName_hands (s : Script) : Hands Counted 0 s s.takeName := by
  unfold takeName
  split
  · split <;> exact hands_of_braces_eq rfl rfl
  · exact hands_of_braces_eq rfl rfl

theorem declare_keeps (s : Script) (text : String) : Keeps s (s.declare text) := by
  unfold declare
  split
  · split <;> exact ⟨rfl, rfl, rfl⟩
  · exact .refl s

theorem declare_hands (s : Script) (text : String) : Hands Counted 0 s (s.declare text) := by
  unfold declare
  split
  · split <;> exact hands_of_braces_eq rfl rfl
  · exact hands_of_braces_eq rfl rfl

theorem beginEntry_keeps (s : Script) : Keeps s s.beginEntry := by
  unfold beginEntry
  split <;> exact ⟨rfl, rfl, rfl⟩

@[simp] theorem beginEntry_braces (s : Script) : s.beginEntry.braces = s.braces := by
  unfold beginEntry
  split <;> rfl

@[simp] theorem beginEntry_groupsHeld (s : Script) :
    groupsHeld s.beginEntry.groups = groupsHeld s.groups := by
  unfold beginEntry
  split
  · rfl
  · rename_i g gs hg
    rw [hg, groupsHeld_cons, groupsHeld_cons]

theorem beginEntry_hands (s : Script) : Hands Counted 0 s s.beginEntry :=
  hands_of_braces_eq (beginEntry_braces s)
    ((beginEntry_keeps s).waiting_eq (beginEntry_groupsHeld s))

/-! ## Counting -/

/-- Wherever decisions go, the phase and the closed group stay. -/
theorem record_keeps (s : Script) (count : Nat) : Keeps s (s.record count) := by
  unfold record
  split
  · split <;> exact ⟨rfl, rfl, rfl⟩
  · exact ⟨rfl, rfl, rfl⟩

/-- New decisions go to the innermost group or to the ledger. -/
theorem record_hands (s : Script) (count : Nat) : Hands Counted count s (s.record count) := by
  have hledger : Hands Counted count s (s.mapLedger (·.recordDecisions count)) :=
    ⟨count, rfl, Nat.add_comm _ _⟩
  unfold record
  split
  · rename_i g gs hg
    split
    · refine hands_of_braces_eq rfl (Keeps.waiting_eq ⟨rfl, rfl, rfl⟩ ?_)
      rw [hg, groupsHeld_cons, groupsHeld_cons]
      dsimp only
      omega
    · exact hledger
  · exact hledger

@[simp] theorem record_inCase (s : Script) (count : Nat) :
    (s.record count).inCase = s.inCase := by
  unfold record
  split
  · split <;> rfl
  · rfl

@[simp] theorem record_ternaries (s : Script) (count : Nat) :
    (s.record count).ternaries = s.ternaries := by
  unfold record
  split
  · split <;> rfl
  · rfl

theorem release_keeps (s : Script) (g : Group) : Keeps s (s.release g) :=
  record_keeps s g.decisions

/-- The decisions that a group held are handed on. -/
theorem release_hands (s : Script) (g : Group) : Hands Counted g.decisions s (s.release g) :=
  record_hands s g.decisions

/-- Expressions that close hand on nothing: their decisions are in the ledger. -/
theorem closeExpressions_hands (s : Script) (brackets : Nat) :
    Hands Braces.Settles 0 s (s.closeExpressions brackets) :=
  hands_braces _ ((Braces.Settles.refl _).closeWhile _)

/-! ## Brackets -/

theorem pushGroup_keeps (s : Script) (g : Group) : Keeps s (s.pushGroup g) :=
  (beginEntry_keeps s).trans ⟨rfl, rfl, rfl⟩

/-- A group that opens brings the decisions that wait on it. -/
theorem pushGroup_hands (s : Script) (g : Group) :
    Hands Counted g.decisions s (s.pushGroup g) := by
  refine hands_of_braces_eq (beginEntry_braces s) ((pushGroup_keeps s g).waiting_eq ?_)
  show groupsHeld (g :: s.beginEntry.groups) = groupsHeld s.groups + g.decisions
  rw [groupsHeld_cons, beginEntry_groupsHeld]
  omega

theorem openParameters_keeps (s : Script) (name : String) (functionLine : Int) :
    Keeps s (s.openParameters name functionLine) :=
  have hname : Keeps s { s with assignedName := "" } := ⟨rfl, rfl, rfl⟩
  hname.trans (pushGroup_keeps _ _)

/-- Nothing waits on parameters that have just opened. -/
theorem openParameters_hands (s : Script) (name : String) (functionLine : Int) :
    Hands Counted 0 s (s.openParameters name functionLine) :=
  have hname : Hands Counted 0 s { s with assignedName := "" } := hands_of_braces_eq rfl rfl
  hname.trans_counted (pushGroup_hands _ _)

theorem openParenthesis_keeps (s : Script) : Keeps s s.openParenthesis := by
  unfold openParenthesis
  dsimp only
  split
  · split
    · exact (forgetName_keeps s).trans (pushGroup_keeps _ _)
    · exact pushGroup_keeps s _
  · exact pushGroup_keeps s _

theorem openParenthesis_hands (s : Script) : Hands Counted 0 s s.openParenthesis := by
  unfold openParenthesis
  dsimp only
  split
  · split
    · exact (forgetName_hands s).trans_counted (pushGroup_hands s.forgetName _)
    · exact pushGroup_hands s _
  · exact pushGroup_hands s _

theorem openSquare_keeps (s : Script) : Keeps s s.openSquare :=
  pushGroup_keeps s _

theorem openSquare_hands (s : Script) : Hands Counted 0 s s.openSquare :=
  pushGroup_hands s _

/-- The decisions of a group that closes wait on it for one more token, or go to its surroundings. -/
theorem closeGroup_hands (s : Script) (text : String) (hs : s.closedGroup = none) :
    Hands Braces.Settles 0 s (s.closeGroup text) := by
  unfold closeGroup
  split
  · exact (hands_of_braces_eq rfl rfl).settles
  · rename_i g gs hg
    have hpop : ({ s with groups := gs } : Script).waiting + g.decisions = s.waiting := by
      simp only [waiting, hg, groupsHeld_cons]
      omega
    obtain ⟨k, hk, he⟩ := closeExpressions_hands { s with groups := gs } (gs.length + 1)
    dsimp only
    split
    · refine ⟨k, hk, ?_⟩
      simp only [waiting, closeExpressions, hs, heldBy_none, heldBy_some,
        Group.endEntry_decisions] at he hpop ⊢
      omega
    · obtain ⟨j, hj, he'⟩ := (release_hands
        ({ s with groups := gs }.closeExpressions (gs.length + 1)) g.endEntry).settles
      refine ⟨k + j, hk.trans hj, ?_⟩
      rw [Group.endEntry_decisions] at he'
      omega

/-- A closing bracket leaves the phase and the question mark alone. -/
theorem closeGroup_frame (s : Script) (text : String) :
    (s.closeGroup text).phase = s.phase ∧ (s.closeGroup text).question = s.question := by
  unfold closeGroup
  split
  · exact ⟨rfl, rfl⟩
  · rename_i g gs _
    dsimp only
    split
    · exact ⟨rfl, rfl⟩
    · have hrelease := release_keeps
        ({ s with groups := gs }.closeExpressions (gs.length + 1)) g.endEntry
      exact ⟨hrelease.phase_eq, hrelease.question_eq⟩

/-! ## Functions -/

/-- An opening brace hands on the decisions of the group before it: to the function that it opens, or
to the surroundings. -/
theorem openBrace_hands (s : Script) (closed : Option Group) :
    Hands Braces.Reads (heldBy closed) s (s.openBrace closed) := by
  unfold openBrace
  dsimp only
  have hbegin := beginEntry_hands s
  have hblock (x : Script) : Hands Braces.Settles 0 x { x with braces := x.braces.openBlock }.forgetName :=
    (hands_braces _ (Braces.Settles.refl _).openBlock).trans (forgetName_hands _).settles
  cases closed with
  | none => exact (hbegin.settles.trans (hblock _)).reads
  | some g =>
    dsimp only
    split
    · have hbody : Hands Braces.Reads g.decisions s.beginEntry
          { s.beginEntry with
            braces := s.beginEntry.braces.openBody ⟨g.opener, g.count, g.startLine, g.decisions⟩
            }.forgetName :=
        ⟨g.decisions,
          Braces.reads_openBody s.beginEntry.braces ⟨g.opener, g.count, g.startLine, g.decisions⟩,
          Nat.add_comm _ _⟩
      simpa using hbegin.trans_reads hbody
    · have hrelease := (hbegin.trans_counted (release_hands s.beginEntry g)).settles
      simpa using (hrelease.trans (hblock _)).reads

/-- Without a group before it, an opening brace opens no function. -/
theorem openBrace_none_hands (s : Script) : Hands Braces.Settles 0 s (s.openBrace none) :=
  ((beginEntry_hands s).settles.trans
    (hands_braces _ (Braces.Settles.refl s.beginEntry.braces).openBlock)).trans
      (forgetName_hands _).settles

/-- A brace leaves the phase, the closed group and the question mark alone. -/
theorem openBrace_keeps (s : Script) (closed : Option Group) : Keeps s (s.openBrace closed) := by
  unfold openBrace
  dsimp only
  cases closed with
  | none => exact (beginEntry_keeps s).trans ⟨rfl, rfl, rfl⟩
  | some g =>
    dsimp only
    split
    · exact (beginEntry_keeps s).trans ⟨rfl, rfl, rfl⟩
    · exact ((beginEntry_keeps s).trans (release_keeps _ g)).trans ⟨rfl, rfl, rfl⟩

/-- An arrow takes the decisions of the group before it into its signature. -/
theorem startArrow_hands (s : Script) (closed : Option Group) (hs : s.phase = .statement) :
    Hands Counted (heldBy closed) s (s.startArrow closed) := by
  have hbraces : (s.startArrow closed).braces = s.braces := rfl
  apply hands_of_braces_eq hbraces
  cases closed with
  | none => simp [waiting, startArrow, forgetName, ScriptPhase.held, hs]
  | some g => simp [waiting, startArrow, forgetName, ScriptPhase.held, hs]

/-! ## Punctuation -/

/-- A colon hands the decisions of the group before it to its surroundings, or keeps them for the
signature whose return type begins. -/
theorem readColon_hands (s : Script) (closed : Option Group) (hs : s.phase = .statement) :
    Hands Counted (heldBy closed) s (s.readColon closed) := by
  have hbegin := beginEntry_hands s
  have hphase : s.beginEntry.phase = .statement := (beginEntry_keeps s).phase_eq.trans hs
  unfold readColon
  dsimp only
  cases closed with
  | none =>
    dsimp only
    split
    · exact hbegin.same rfl rfl
    · split
      · exact hbegin.same rfl rfl
      · exact hbegin.trans_counted (takeName_hands _)
  | some g =>
    have hrelease : Hands Counted g.decisions s (s.beginEntry.release g) := by
      simpa using hbegin.trans_counted (release_hands s.beginEntry g)
    dsimp only
    -- the flags that decide about the release are those that choose what the colon means
    cases hcase : s.beginEntry.inCase with
    | true =>
      simp only [Bool.true_or, if_true, release, record_inCase, hcase]
      exact hrelease.same rfl rfl
    | false =>
      by_cases hternary : 0 < s.beginEntry.ternaries
      · simp only [hternary, decide_true, Bool.false_or, Bool.true_or, if_true, release,
          record_inCase, record_ternaries, hcase, Bool.false_eq_true, if_false]
        exact hrelease.same rfl rfl
      · cases hcontrol : g.isControl with
        | true =>
          simp only [hternary, decide_false, Bool.false_or, if_true, release, record_inCase,
            record_ternaries, hcase, Bool.false_eq_true, if_false]
          exact hrelease.trans_counted (takeName_hands _)
        | false =>
          simp only [hternary, decide_false, Bool.false_or, hcase, Bool.false_eq_true, if_false]
          have hwaiting : ({ s.beginEntry with phase := .returnType g 0 0 } : Script).waiting =
              s.beginEntry.waiting + g.decisions := by
            simp only [waiting, hphase, ScriptPhase.held]
            omega
          have htype : Hands Counted g.decisions s.beginEntry
              { s.beginEntry with phase := .returnType g 0 0 } := by
            exact hands_of_braces_eq rfl hwaiting
          have hboth := hbegin.trans_counted htype
          rw [Nat.zero_add] at hboth
          exact hboth.same rfl rfl

/-- A colon changes neither the closed group nor the question mark. -/
theorem readColon_frame (s : Script) (closed : Option Group) :
    (s.readColon closed).closedGroup = s.closedGroup ∧
      (s.readColon closed).question = s.question := by
  have hbegin := beginEntry_keeps s
  unfold readColon
  dsimp only
  cases closed with
  | none =>
    dsimp only
    split
    · exact ⟨hbegin.closedGroup_eq, hbegin.question_eq⟩
    · split
      · exact ⟨hbegin.closedGroup_eq, hbegin.question_eq⟩
      · have hname := hbegin.trans (takeName_keeps _)
        exact ⟨hname.closedGroup_eq, hname.question_eq⟩
  | some g =>
    dsimp only
    -- whether or not the group is released, the frame is that of the first token
    generalize hx : (if (s.beginEntry.inCase || decide (0 < s.beginEntry.ternaries) ||
      g.isControl) = true then s.beginEntry.release g else s.beginEntry) = x
    have hkeeps : Keeps s x := by
      rw [← hx]
      split
      · exact hbegin.trans (release_keeps _ g)
      · exact hbegin
    split
    · exact ⟨hkeeps.closedGroup_eq, hkeeps.question_eq⟩
    · split
      · exact ⟨hkeeps.closedGroup_eq, hkeeps.question_eq⟩
      · split
        · have hname := hkeeps.trans (takeName_keeps x)
          exact ⟨hname.closedGroup_eq, hname.question_eq⟩
        · exact ⟨hkeeps.closedGroup_eq, hkeeps.question_eq⟩

/-- A comma ends an entry, which no decision waits on, and then closes expressions. -/
theorem readComma_cases (s : Script) :
    ∃ gs, groupsHeld gs = groupsHeld s.groups ∧
      (s.readComma = { s with groups := gs }.closeExpressions gs.length ∨
        s.readComma = ({ s with groups := gs }.closeExpressions gs.length).forgetName) := by
  cases hg : s.groups with
  | nil =>
    refine ⟨[], rfl, ?_⟩
    simp only [readComma, hg]
    split
    · exact .inr rfl
    · exact .inl rfl
  | cons g gs =>
    refine ⟨if g.braceDepth = s.braces.depth then g.endEntry :: gs else g :: gs, ?_, ?_⟩
    · split <;> simp
    · simp only [readComma, hg]
      generalize (if g.braceDepth = s.braces.depth then g.endEntry :: gs else g :: gs) = x
      split
      · exact .inr rfl
      · exact .inl rfl

theorem readComma_keeps (s : Script) : Keeps s s.readComma := by
  obtain ⟨gs, _, h | h⟩ := readComma_cases s
  · rw [h]
    exact ⟨rfl, rfl, rfl⟩
  · rw [h]
    exact ⟨rfl, rfl, rfl⟩

/-- A comma hands on nothing. -/
theorem readComma_hands (s : Script) : Hands Braces.Settles 0 s s.readComma := by
  obtain ⟨gs, hgs, h⟩ := readComma_cases s
  have hentry : Hands Counted 0 s { s with groups := gs } :=
    hands_of_braces_eq rfl (Keeps.waiting_eq ⟨rfl, rfl, rfl⟩ hgs)
  have hclose := hentry.settles.trans (closeExpressions_hands { s with groups := gs } gs.length)
  rcases h with h | h
  · rw [h]
    exact hclose
  · rw [h]
    exact hclose.same rfl rfl

theorem readSemicolon_keeps (s : Script) : Keeps s s.readSemicolon := ⟨rfl, rfl, rfl⟩

/-- A semicolon hands on nothing: it only closes expressions. -/
theorem readSemicolon_hands (s : Script) : Hands Braces.Settles 0 s s.readSemicolon :=
  (closeExpressions_hands s s.groups.length).same rfl rfl

/-! ## Ordinary code -/

/-- After reading from `s`, the closed group waits in ordinary code only, and the question mark is as it
was. -/
structure Framed (s s' : Script) : Prop where
  sound : s'.Sound
  question_eq : s'.question = s.question

theorem Framed.ite {c : Prop} [Decidable c] (h : Framed s s') (h' : Framed s s'') :
    Framed s (if c then s' else s'') := by
  split
  · exact h
  · exact h'

/-- A state in ordinary code in which no group has just closed. -/
def Ready (s : Script) : Prop :=
  s.phase = .statement ∧ s.closedGroup = none

/-- A state remains ready while the phase and the closed group stay. -/
theorem Ready.keeps (hs : s.Ready) (h : Keeps s s') : s'.Ready :=
  ⟨h.phase_eq.trans hs.1, h.closedGroup_eq.trans hs.2⟩

/-- A closing brace hands on nothing. -/
theorem closeBrace_hands (s : Script) :
    Hands Braces.Settles 0 s { s with braces := s.braces.closeBrace }.forgetName :=
  (hands_braces _ (Braces.Settles.refl s.braces).closeBrace).same rfl rfl

/-- In ordinary code, without a group before it, a token opens no function. -/
theorem readStatement_hands (s : Script) (t : Token) (hs : s.Ready) :
    Hands Braces.Settles 0 s (s.readStatement none t) := by
  have hdeclare := declare_hands s t.text
  have hready := hs.keeps (declare_keeps s t.text)
  have hbegin := hdeclare.trans_counted (beginEntry_hands (s.declare t.text))
  have hfunction : Hands Counted 0 s { s with phase := .functionHead "" s.line } := by
    refine hands_of_braces_eq rfl ?_
    rw [waiting, waiting, hs.1]
    rfl
  -- one choice for each kind of token, in the order in which they are tried
  refine .ite ((beginEntry_hands s).same rfl rfl).settles ?_
  refine .ite hfunction.settles ?_
  refine .ite (hbegin.same rfl rfl).settles ?_
  refine .ite (hdeclare.trans_counted (openParenthesis_hands _)).settles ?_
  refine .ite (hdeclare.trans_counted (openSquare_hands _)).settles ?_
  refine .ite (hdeclare.settles.trans (closeGroup_hands _ _ hready.2)) ?_
  refine .ite (hdeclare.settles.trans (openBrace_none_hands _)) ?_
  refine .ite (hdeclare.settles.trans (closeBrace_hands _)) ?_
  refine .ite (hdeclare.trans_counted (startArrow_hands _ none hready.1)).settles ?_
  refine .ite (hdeclare.trans_counted (readColon_hands _ none hready.1)).settles ?_
  refine .ite (hbegin.trans_counted (takeName_hands _)).settles ?_
  refine .ite (hdeclare.settles.trans (readComma_hands _)) ?_
  refine .ite (hdeclare.settles.trans (readSemicolon_hands _)) ?_
  exact .ite (hbegin.same rfl rfl).settles hbegin.settles

theorem Ready.framed (hs : s.Ready) (h : Keeps s s') : Framed s s' :=
  ⟨.inl (hs.keeps h).2, h.question_eq⟩

/-- Ordinary code is left in a sound state, and with the question mark as it was. -/
theorem readStatement_framed (s : Script) (closed : Option Group) (t : Token) (hs : s.Ready) :
    Framed s (s.readStatement closed t) := by
  have hdeclare := declare_keeps s t.text
  have hready := hs.keeps hdeclare
  have hbegin := hdeclare.trans (beginEntry_keeps (s.declare t.text))
  have hclose := closeGroup_frame (s.declare t.text) t.text
  have hcolon := readColon_frame (s.declare t.text) closed
  -- only a closing parenthesis leaves a closed group behind, and it stays in ordinary code
  refine .ite (hs.framed ((beginEntry_keeps s).trans ⟨rfl, rfl, rfl⟩)) ?_
  refine .ite ⟨.inl hs.2, rfl⟩ ?_
  refine .ite (hs.framed (hbegin.trans ⟨rfl, rfl, rfl⟩)) ?_
  refine .ite (hs.framed (hdeclare.trans (openParenthesis_keeps _))) ?_
  refine .ite (hs.framed (hdeclare.trans (openSquare_keeps _))) ?_
  refine .ite ⟨.inr (hclose.1.trans hready.1), hclose.2.trans hdeclare.question_eq⟩ ?_
  refine .ite (hs.framed (hdeclare.trans (openBrace_keeps _ closed))) ?_
  refine .ite (hs.framed (hdeclare.trans ⟨rfl, rfl, rfl⟩)) ?_
  refine .ite ⟨.inl hready.2, hdeclare.question_eq⟩ ?_
  refine .ite ⟨.inl (hcolon.1.trans hready.2), hcolon.2.trans hdeclare.question_eq⟩ ?_
  refine .ite (hs.framed (hbegin.trans (takeName_keeps _))) ?_
  refine .ite (hs.framed (hdeclare.trans (readComma_keeps _))) ?_
  refine .ite (hs.framed (hdeclare.trans (readSemicolon_keeps _))) ?_
  exact .ite (hs.framed (hbegin.trans ⟨rfl, rfl, rfl⟩)) (hs.framed hbegin)

/-- The three tokens that can still make the group before them the parameters of a function. -/
theorem keepsSignature_iff (t : Token) :
    keepsSignature t = true ↔
      t.isCode = true ∧ (t.text = "\x7b" ∨ t.text = "=>" ∨ t.text = ":") := by
  simp [keepsSignature]

/-- What the three tokens do in ordinary code. -/
theorem readStatement_signature (s : Script) (closed : Option Group) {t : Token}
    (hcode : t.isCode = true) :
    (t.text = "\x7b" → s.readStatement closed t = (s.declare "\x7b").openBrace closed) ∧
      (t.text = "=>" → s.readStatement closed t = (s.declare "=>").startArrow closed) ∧
      (t.text = ":" → s.readStatement closed t = (s.declare ":").readColon closed) := by
  refine ⟨?_, ?_, ?_⟩ <;>
  · intro h
    simp only [readStatement, hcode, h]
    rfl

/-- In ordinary code such a token hands on the decisions of the group before it. -/
theorem readStatement_some_hands (s : Script) (g : Group) (t : Token) (hs : s.Ready)
    (ht : keepsSignature t = true) :
    Hands Braces.Reads g.decisions s (s.readStatement (some g) t) := by
  obtain ⟨hcode, htext⟩ := (keepsSignature_iff t).1 ht
  obtain ⟨hbrace, harrow, hcolon⟩ := readStatement_signature s (some g) hcode
  have hdeclare (text : String) := declare_hands s text
  have hready (text : String) := hs.keeps (declare_keeps s text)
  rcases htext with h | h | h
  · rw [hbrace h]
    simpa using (hdeclare "\x7b").trans_reads (openBrace_hands _ (some g))
  · rw [harrow h]
    simpa using ((hdeclare "=>").trans_counted
      (startArrow_hands _ (some g) (hready "=>").1)).settles.reads
  · rw [hcolon h]
    simpa using ((hdeclare ":").trans_counted
      (readColon_hands _ (some g) (hready ":").1)).settles.reads

/-- Any other token takes no notice of the group before it. -/
theorem readStatement_ignores (s : Script) (closed : Option Group) (t : Token)
    (ht : keepsSignature t = false) : s.readStatement closed t = s.readStatement none t := by
  cases hcode : t.isCode with
  | false => simp [readStatement, hcode]
  | true =>
    simp only [keepsSignature, hcode, Bool.true_and, List.contains_cons, List.contains_nil,
      Bool.or_false, Bool.or_eq_false_iff, beq_eq_false_iff_ne] at ht
    obtain ⟨hbrace, harrow, hcolon⟩ := ht
    simp only [readStatement, if_neg hbrace, if_neg harrow, if_neg hcolon]

/-! ## The other phases -/

/-- A phase that ends gives back the decisions of the signature that it kept. -/
theorem hands_of_statement (h : Hands R s.phase.held { s with phase := .statement } s') :
    Hands R 0 s s' := by
  obtain ⟨k, hk, he⟩ := h
  refine ⟨k, hk, ?_⟩
  simp only [waiting, ScriptPhase.held] at he ⊢
  omega

/-- A phase may give way to another that keeps as many decisions. -/
theorem setPhase_hands (s : Script) (phase : ScriptPhase) (h : phase.held = s.phase.held) :
    Hands Braces.Settles 0 s { s with phase } := by
  refine Hands.settles (hands_of_braces_eq rfl ?_)
  simp only [waiting, h]
  omega

/-- The tokens of a function's head hand on nothing. -/
theorem readFunctionHead_hands (s : Script) (name : String) (functionLine : Int) (t : Token)
    (hphase : s.phase = .functionHead name functionLine) (hs : s.closedGroup = none) :
    Hands Braces.Settles 0 s (s.readFunctionHead name functionLine t) := by
  have hheld : s.phase.held = 0 := by rw [hphase]; rfl
  have hstatement : Hands Braces.Settles 0 s ({ s with phase := .statement }.readStatement none t) := by
    apply hands_of_statement
    rw [hheld]
    exact readStatement_hands _ t ⟨rfl, hs⟩
  have hopen : Hands Counted 0 s
      ({ s with phase := .statement, declaring := false }.openParameters name functionLine) := by
    apply hands_of_statement
    rw [hheld]
    have hdeclaring : Hands Counted 0 { s with phase := .statement }
        { s with phase := .statement, declaring := false } := hands_of_braces_eq rfl rfl
    exact hdeclaring.trans_counted (openParameters_hands _ name functionLine)
  have htype : Hands Braces.Settles 0 s { s with phase := .typeParameters name functionLine 1 } :=
    setPhase_hands s _ hheld.symm
  have hname : Hands Braces.Settles 0 s { s with phase := .functionHead t.text functionLine } :=
    setPhase_hands s _ hheld.symm
  refine .ite hstatement ?_
  refine .ite (hands_of_braces_eq rfl rfl).settles ?_
  exact .ite htype (.ite hname (.ite hopen.settles hstatement))

theorem readFunctionHead_framed (s : Script) (name : String) (functionLine : Int) (t : Token)
    (hs : s.closedGroup = none) : Framed s (s.readFunctionHead name functionLine t) := by
  have hstatement : Framed s ({ s with phase := .statement }.readStatement none t) := by
    have hread := readStatement_framed { s with phase := .statement } none t ⟨rfl, hs⟩
    exact ⟨hread.sound, hread.question_eq⟩
  have hopen := openParameters_keeps { s with phase := .statement, declaring := false }
    name functionLine
  refine .ite hstatement ?_
  refine .ite ⟨.inl hs, rfl⟩ ?_
  refine .ite ⟨.inl hs, rfl⟩ ?_
  refine .ite ⟨.inl hs, rfl⟩ ?_
  exact .ite ⟨.inl (hopen.closedGroup_eq.trans hs), hopen.question_eq⟩ hstatement

/-- Type parameters hand on nothing. -/
theorem readTypeParameters_hands (s : Script) (name : String) (functionLine : Int) (depth : Nat)
    (text : String) (hphase : s.phase = .typeParameters name functionLine depth) :
    Hands Braces.Settles 0 s (s.readTypeParameters name functionLine depth text) := by
  have hheld : s.phase.held = 0 := by rw [hphase]; rfl
  have htype (d : Nat) : Hands Braces.Settles 0 s
      { s with phase := .typeParameters name functionLine d } :=
    setPhase_hands s _ hheld.symm
  have hend : Hands Braces.Settles 0 s { s with phase := .functionHead name functionLine } :=
    setPhase_hands s _ hheld.symm
  exact .ite (htype _) (.ite (.ite hend (htype _)) (hands_of_braces_eq rfl rfl).settles)

theorem readTypeParameters_framed (s : Script) (name : String) (functionLine : Int) (depth : Nat)
    (text : String) (hs : s.closedGroup = none) :
    Framed s (s.readTypeParameters name functionLine depth text) := by
  have hany (phase : ScriptPhase) : Framed s { s with phase } := ⟨.inl hs, rfl⟩
  refine .ite (hany _) ?_
  exact .ite (.ite (hany _) (hany _)) ⟨.inl hs, rfl⟩

/-- The decisions of a signature with a return type go to its body, to its arrow or, if it was none, to
its surroundings. -/
theorem readReturnType_hands (s : Script) (g : Group) (depth tokens : Nat) (t : Token)
    (hphase : s.phase = .returnType g depth tokens) (hs : s.closedGroup = none) :
    Hands Braces.Reads 0 s (s.readReturnType g depth tokens t) := by
  have hheld : s.phase.held = g.decisions := by rw [hphase]; rfl
  have hready : Ready { s with phase := .statement } := ⟨rfl, hs⟩
  have hnone : Hands Braces.Reads 0 s
      (({ s with phase := .statement }.release g).readStatement none t) := by
    apply hands_of_statement
    rw [hheld]
    have hrelease := release_hands { s with phase := .statement } g
    exact (hrelease.settles.trans
      (readStatement_hands _ t (hready.keeps (release_keeps _ g)))).reads
  have harrow : Hands Braces.Reads 0 s ({ s with phase := .statement }.startArrow (some g)) := by
    apply hands_of_statement
    rw [hheld]
    exact (startArrow_hands _ (some g) rfl).settles.reads
  have hon (d : Nat) : Hands Braces.Reads 0 s { s with phase := .returnType g d (tokens + 1) } :=
    (setPhase_hands s _ (by rw [hphase]; rfl)).reads
  unfold readReturnType
  dsimp only
  split
  · -- the body opens, and its brace can use the group
    rename_i hbrace
    apply hands_of_statement
    rw [hheld]
    apply readStatement_some_hands _ g t hready
    rw [keepsSignature_iff]
    exact ⟨hbrace.2.1, .inl hbrace.2.2⟩
  · exact .ite harrow (.ite hnone (.ite (hon _) (.ite (hon _) (hon _))))

theorem readReturnType_framed (s : Script) (g : Group) (depth tokens : Nat) (t : Token)
    (hs : s.closedGroup = none) : Framed s (s.readReturnType g depth tokens t) := by
  have hready : Ready { s with phase := .statement } := ⟨rfl, hs⟩
  have hany (phase : ScriptPhase) : Framed s { s with phase } := ⟨.inl hs, rfl⟩
  have hbrace : Framed s ({ s with phase := .statement }.readStatement (some g) t) := by
    have hread := readStatement_framed { s with phase := .statement } (some g) t hready
    exact ⟨hread.sound, hread.question_eq⟩
  have hnone : Framed s (({ s with phase := .statement }.release g).readStatement none t) := by
    have hrelease := release_keeps { s with phase := .statement } g
    have hread := readStatement_framed _ none t (hready.keeps hrelease)
    exact ⟨hread.sound, hread.question_eq.trans hrelease.question_eq⟩
  exact .ite hbrace (.ite ⟨.inl hs, rfl⟩ (.ite hnone (.ite (hany _) (.ite (hany _) (hany _)))))

/-- The token after an arrow opens its function, and then only closes. -/
theorem readArrowBody_hands (s : Script) (f : Signature) (t : Token)
    (hphase : s.phase = .arrowBody f) (hs : s.closedGroup = none) :
    Hands Braces.Reads 0 s (s.readArrowBody f t) := by
  have hheld : s.phase.held = f.decisionCount := by rw [hphase]; rfl
  apply hands_of_statement
  rw [hheld]
  apply Hands.ite
  · have hbegin := beginEntry_hands { s with phase := .statement }
    have hbody (x : Script) :
        Hands Braces.Reads f.decisionCount x { x with braces := x.braces.openBody f } :=
      ⟨f.decisionCount, Braces.reads_openBody _ f, Nat.add_comm _ _⟩
    simpa only [Nat.zero_add] using hbegin.trans_reads (hbody _)
  · have hexpression : Hands Braces.Reads f.decisionCount { s with phase := .statement }
        { s with
          phase := .statement
          braces := s.braces.openExpression f s.groups.length } :=
      ⟨f.decisionCount, Braces.reads_openExpression _ f _, Nat.add_comm _ _⟩
    exact hexpression.trans_settles (readStatement_hands _ t ⟨rfl, hs⟩)

theorem readArrowBody_framed (s : Script) (f : Signature) (t : Token)
    (hs : s.closedGroup = none) : Framed s (s.readArrowBody f t) := by
  unfold readArrowBody
  dsimp only
  apply Framed.ite
  · have hbegin := beginEntry_keeps { s with phase := .statement }
    exact ⟨.inl (hbegin.closedGroup_eq.trans hs), hbegin.question_eq⟩
  · have hread := readStatement_framed
      { s with
        phase := .statement
        braces := s.braces.openExpression f s.groups.length } none t ⟨rfl, hs⟩
    exact ⟨hread.sound, hread.question_eq⟩

/-! ## Tokens -/

/-- In every phase a token hands on the decisions of the group before it, if it can use the group or
none wait on it. -/
theorem readPhase_hands (s : Script) (closed : Option Group) (t : Token)
    (hs : s.closedGroup = none) (hclosed : closed = none ∨ s.phase = .statement)
    (ht : keepsSignature t = true ∨ heldBy closed = 0) :
    Hands Braces.Reads (heldBy closed) s (s.readPhase closed t) := by
  unfold readPhase
  cases hphase : s.phase with
  | statement =>
    have hready : s.Ready := ⟨hphase, hs⟩
    cases closed with
    | none => exact (readStatement_hands s t hready).reads
    | some g =>
      cases hkeeps : keepsSignature t with
      | true => exact readStatement_some_hands s g t hready hkeeps
      | false =>
        -- the token takes no notice of the group, but nothing waits on it either
        have hzero : heldBy (some g) = 0 := ht.resolve_left (by simp [hkeeps])
        rw [hzero]
        dsimp only
        rw [readStatement_ignores s (some g) t hkeeps]
        exact (readStatement_hands s t hready).reads
  | functionHead name functionLine =>
    obtain rfl : closed = none := hclosed.resolve_right (by simp [hphase])
    exact (readFunctionHead_hands s name functionLine t hphase hs).reads
  | typeParameters name functionLine depth =>
    obtain rfl : closed = none := hclosed.resolve_right (by simp [hphase])
    exact (readTypeParameters_hands s name functionLine depth t.text hphase).reads
  | returnType g depth tokens =>
    obtain rfl : closed = none := hclosed.resolve_right (by simp [hphase])
    exact readReturnType_hands s g depth tokens t hphase hs
  | arrowBody f =>
    obtain rfl : closed = none := hclosed.resolve_right (by simp [hphase])
    exact readArrowBody_hands s f t hphase hs

/-- Every phase is left in a sound state. -/
theorem readPhase_framed (s : Script) (closed : Option Group) (t : Token)
    (hs : s.closedGroup = none) : Framed s (s.readPhase closed t) := by
  unfold readPhase
  cases hphase : s.phase with
  | statement => exact readStatement_framed s closed t ⟨hphase, hs⟩
  | functionHead name functionLine => exact readFunctionHead_framed s name functionLine t hs
  | typeParameters name functionLine depth =>
    exact readTypeParameters_framed s name functionLine depth t.text hs
  | returnType g depth tokens => exact readReturnType_framed s g depth tokens t hs
  | arrowBody f => exact readArrowBody_framed s f t hs

/-- Whether a token makes the question mark before it an optional marker. -/
def isOptional (s : Script) (t : Token) : Bool :=
  s.question && (t.isCode && marksOptional t.text)

/-- A question mark is a decision unless the next token makes it an optional marker. -/
theorem settleQuestion_hands (s : Script) (t : Token) :
    ∃ n, Hands Counted n s (s.settleQuestion t) ∧
      n + (s.isOptional t).toNat = s.question.toNat := by
  unfold settleQuestion isOptional
  cases hq : s.question with
  | false => exact ⟨0, hands_of_braces_eq rfl rfl, rfl⟩
  | true =>
    cases hm : (t.isCode && marksOptional t.text) with
    | true => exact ⟨0, hands_of_braces_eq rfl rfl, rfl⟩
    | false =>
      have hrecord := record_hands { s with question := false } 1
      exact ⟨1, (hrecord.same rfl rfl : Hands Counted 1 s _), rfl⟩

/-- Settling a question mark leaves none open, and the phase and the closed group alone. -/
theorem settleQuestion_frame (s : Script) (t : Token) :
    (s.settleQuestion t).phase = s.phase ∧
      (s.settleQuestion t).closedGroup = s.closedGroup ∧
      (s.settleQuestion t).question = false := by
  unfold settleQuestion
  split
  · split
    · exact ⟨rfl, rfl, rfl⟩
    · have hrecord := record_keeps { s with question := false } 1
      exact ⟨hrecord.phase_eq, hrecord.closedGroup_eq, hrecord.question_eq⟩
  · rename_i hq
    exact ⟨rfl, rfl, Bool.eq_false_iff.2 hq⟩

/-- A token hands on the decisions of the group that has just closed. -/
theorem readToken_hands (s : Script) (t : Token) (hs : s.Sound) :
    ∃ n, Hands Braces.Reads n s (s.readToken t) ∧
      n + (s.isOptional t).toNat = s.question.toNat := by
  obtain ⟨n, hsettle, hn⟩ := settleQuestion_hands s t
  obtain ⟨hphase, hgroup, _⟩ := settleQuestion_frame s t
  refine ⟨n, ?_, hn⟩
  unfold readToken
  dsimp only
  generalize s.settleQuestion t = x at hsettle hphase hgroup
  cases hx : x.closedGroup with
  | none =>
    exact hsettle.trans_reads
      (readPhase_hands x none t hx (.inl rfl) (.inr rfl))
  | some g =>
    have hstatement : x.phase = .statement := by
      rw [hphase]
      exact hs.resolve_left (by rw [← hgroup, hx]; simp)
    -- the group is taken off the state, and its decisions with it
    have htake : ({ x with closedGroup := none } : Script).waiting + g.decisions = x.waiting := by
      simp only [waiting, hx, heldBy_none, heldBy_some]
      omega
    have htaken {y : Script}
        (h : Hands Braces.Reads g.decisions { x with closedGroup := none } y) :
        Hands Braces.Reads 0 x y := by
      obtain ⟨k, hk, he⟩ := h
      exact ⟨k, hk, by omega⟩
    refine hsettle.trans_reads (htaken ?_)
    cases hkeeps : keepsSignature t with
    | true =>
      simp only [if_true]
      exact readPhase_hands _ (some g) t rfl (.inr hstatement) (.inl hkeeps)
    | false =>
      simp only [Bool.false_eq_true, if_false]
      have hrelease := release_keeps { x with closedGroup := none } g
      exact (release_hands { x with closedGroup := none } g).trans_reads
        (readPhase_hands _ (some { g with decisions := 0 }) t hrelease.closedGroup_eq
          (.inr (hrelease.phase_eq.trans hstatement)) (.inr rfl))

/-- A token leaves a sound state and no open question mark. -/
theorem readToken_frame (s : Script) (t : Token) :
    (s.readToken t).Sound ∧ (s.readToken t).question = false := by
  obtain ⟨_, _, hquestion⟩ := settleQuestion_frame s t
  unfold readToken
  dsimp only
  generalize s.settleQuestion t = x at hquestion
  cases hx : x.closedGroup with
  | none =>
    have hread := readPhase_framed x none t hx
    exact ⟨hread.sound, hread.question_eq.trans hquestion⟩
  | some g =>
    dsimp only
    split
    · have hread := readPhase_framed { x with closedGroup := none } (some g) t rfl
      exact ⟨hread.sound, hread.question_eq.trans hquestion⟩
    · have hrelease := release_keeps { x with closedGroup := none } g
      have hread := readPhase_framed _ (some { g with decisions := 0 }) t hrelease.closedGroup_eq
      exact ⟨hread.sound, (hread.question_eq.trans hrelease.question_eq).trans hquestion⟩

/-- A decision token is counted, put aside on a group, or waits as a question mark. -/
theorem countDecision_hands (s : Script) (text : String) (hq : s.question = false) :
    ∃ n, Hands Counted n s (s.countDecision text) ∧
      n + (s.countDecision text).question.toNat = 1 := by
  unfold countDecision
  split
  · exact ⟨0, hands_of_braces_eq rfl rfl, rfl⟩
  · refine ⟨1, record_hands s 1, ?_⟩
    rw [(record_keeps s 1).question_eq, hq]
    rfl

/-- Counting a decision keeps the state sound. -/
theorem countDecision_sound (s : Script) (text : String) (hs : s.Sound) :
    (s.countDecision text).Sound := by
  unfold countDecision
  split
  · exact hs
  · have hrecord := record_keeps s 1
    rw [Sound, hrecord.closedGroup_eq, hrecord.phase_eq]
    exact hs

/-- A token that is no line break is a reading. The decisions that wait and the token itself, if it is a
decision, are counted or wait afterwards; only a question mark that turns out to be an optional marker
is dropped. -/
theorem read_hands (table : DecisionTable) (s : Script) (t : Token) (hs : s.Sound)
    (ht : t.isNewline = false) :
    ∃ k, Braces.Reads k s.braces (s.read table t).braces ∧
      k + (s.read table t).held + (s.isOptional t).toNat =
        s.held + (t.isCode && table.decides t.text).toNat := by
  obtain ⟨n, ⟨k, hk, he⟩, hn⟩ := readToken_hands s t hs
  obtain ⟨_, hquestion⟩ := readToken_frame s t
  unfold read
  rw [if_neg (by simp [ht])]
  dsimp only
  cases hdec : (t.isCode && table.decides t.text) with
  | false =>
    refine ⟨k, hk, ?_⟩
    simp only [Bool.false_eq_true, if_false, held, waiting, Bool.toNat_false] at he ⊢
    rw [hquestion, Bool.toNat_false]
    omega
  | true =>
    -- the token is counted after it is read, and so for the function that it opens
    obtain ⟨m, ⟨j, hj, hej⟩, hm⟩ := countDecision_hands (s.readToken t) t.text hquestion
    refine ⟨k + j, ?_, ?_⟩
    · have hcount : Braces.Settles j (s.readToken t).braces
          ((s.readToken t).countDecision t.text).braces := by
        rw [hj]
        exact Braces.settles_record _ j
      exact hk.trans_settles hcount
    · simp only [if_true, held, waiting, Bool.toNat_true] at he hej ⊢
      omega

/-- Any token leaves a sound state. -/
theorem read_sound (table : DecisionTable) (s : Script) (t : Token) (ht : t.isNewline = false) :
    (s.read table t).Sound := by
  obtain ⟨hsound, _⟩ := readToken_frame s t
  unfold read
  rw [if_neg (by simp [ht])]
  dsimp only
  split
  · exact countDecision_sound _ t.text hsound
  · exact hsound

/-- A token waits as a question mark exactly if it is one and a decision. -/
theorem read_question (table : DecisionTable) (s : Script) (t : Token) (ht : t.isNewline = false) :
    (s.read table t).question = (t.isCode && table.decides t.text && t.text == "?") := by
  obtain ⟨_, hquestion⟩ := readToken_frame s t
  unfold read
  rw [if_neg (by simp [ht])]
  dsimp only
  cases hdec : (t.isCode && table.decides t.text) with
  | false => simpa using hquestion
  | true =>
    unfold countDecision
    by_cases htext : t.text = "?"
    · simp [htext]
    · have hbeq : (t.text == "?") = false := beq_eq_false_iff_ne.2 htext
      simpa [htext, hbeq, (record_keeps (s.readToken t) 1).question_eq] using hquestion

/-! ## Line breaks and the end -/

/-- The end of a line hands on nothing. -/
theorem endLine_hands (s : Script) : Hands Braces.Settles 0 s s.endLine := by
  have hname : Hands Counted 0 s { s with nameLocked := false } := hands_of_braces_eq rfl rfl
  exact .ite (hname.settles.trans (closeExpressions_hands _ 0)) (hands_of_braces_eq rfl rfl).settles

theorem endLine_keeps (s : Script) : Keeps s s.endLine := by
  unfold endLine
  split <;> exact ⟨rfl, rfl, rfl⟩

/-- A line break hands on the decisions of a signature whose return type it ends. -/
theorem readNewline_hands (s : Script) (implicit : Bool) :
    Hands Braces.Settles 0 s (s.readNewline implicit) := by
  have hstay : Hands Braces.Settles 0 s s := (hands_of_braces_eq rfl rfl).settles
  refine .ite hstay ?_
  split
  · exact hstay
  · rename_i g tokens hphase
    apply hands_of_statement
    have hheld : s.phase.held = g.decisions := by rw [hphase]; rfl
    rw [hheld]
    exact (release_hands { s with phase := .statement } g).settles.trans (endLine_hands _)
  · exact endLine_hands s

/-- A line break leaves a sound state. -/
theorem readNewline_framed (s : Script) (implicit : Bool) (hs : s.Sound) :
    Framed s (s.readNewline implicit) := by
  have hkeeps {x : Script} (h : Keeps s x) : Framed s x := by
    refine ⟨?_, h.question_eq⟩
    rw [Sound, h.closedGroup_eq, h.phase_eq]
    exact hs
  refine .ite (hkeeps (.refl s)) ?_
  split
  · exact hkeeps (.refl s)
  · rename_i g tokens hphase
    have hrelease := (release_keeps { s with phase := .statement } g).trans (endLine_keeps _)
    exact ⟨.inr hrelease.phase_eq, hrelease.question_eq⟩
  · exact hkeeps (endLine_keeps s)

/-- A question mark waits beyond the end of its line. -/
theorem readNewline_question (s : Script) (implicit : Bool) :
    (s.readNewline implicit).question = s.question := by
  unfold readNewline
  split
  · rfl
  · split
    · rfl
    · rename_i g tokens _
      exact ((release_keeps { s with phase := .statement } g).trans (endLine_keeps _)).question_eq
    · exact (endLine_keeps s).question_eq

/-- The end of the input hands on the decisions of a group that has just closed. -/
theorem releaseClosed_hands (s : Script) : Hands Counted 0 s s.releaseClosed := by
  unfold releaseClosed
  cases hg : s.closedGroup with
  | none => exact hands_of_braces_eq rfl rfl
  | some g =>
    obtain ⟨k, hk, he⟩ := release_hands s g
    have hgroup := (release_keeps s g).closedGroup_eq
    refine ⟨k, hk, ?_⟩
    simp only [waiting, hgroup, hg, heldBy_none, heldBy_some] at he ⊢
    omega

/-- After that no group waits as the one that has just closed. -/
theorem releaseClosed_frame (s : Script) :
    s.releaseClosed.closedGroup = none ∧ s.releaseClosed.phase = s.phase := by
  unfold releaseClosed
  split
  · rename_i g _
    exact ⟨rfl, (release_keeps s g).phase_eq⟩
  · rename_i hg
    exact ⟨hg, rfl⟩

/-- The end of the input hands on the decisions of a signature with a return type. -/
theorem releaseReturnType_hands (s : Script) : Hands Counted 0 s s.releaseReturnType := by
  unfold releaseReturnType
  cases hphase : s.phase with
  | returnType g depth tokens =>
    obtain ⟨k, hk, he⟩ := release_hands s g
    have hkeeps := (release_keeps s g).phase_eq
    refine ⟨k, hk, ?_⟩
    simp only [waiting, hkeeps, hphase, ScriptPhase.held] at he ⊢
    omega
  | statement => exact hands_of_braces_eq rfl rfl
  | functionHead name functionLine => exact hands_of_braces_eq rfl rfl
  | typeParameters name functionLine depth => exact hands_of_braces_eq rfl rfl
  | arrowBody f => exact hands_of_braces_eq rfl rfl

/-- The decisions of an arrow whose body has not started. -/
def arrowHeld (s : Script) : Nat :=
  match s.phase with
  | .arrowBody f => f.decisionCount
  | _ => 0

/-- The decisions that no end of the input settles: those of an arrow whose body never started, and a
question mark that nothing follows. -/
def unsettled (s : Script) : Nat :=
  s.arrowHeld + s.question.toNat

/-- After that only the signature of an arrow can hold decisions. -/
theorem releaseReturnType_frame (s : Script) :
    s.releaseReturnType.closedGroup = s.closedGroup ∧ s.releaseReturnType.phase.held = s.arrowHeld := by
  unfold releaseReturnType arrowHeld
  cases hphase : s.phase with
  | returnType g depth tokens => exact ⟨(release_keeps s g).closedGroup_eq, rfl⟩
  | statement => exact ⟨rfl, by rw [hphase]; rfl⟩
  | functionHead name functionLine => exact ⟨rfl, by rw [hphase]; rfl⟩
  | typeParameters name functionLine depth => exact ⟨rfl, by rw [hphase]; rfl⟩
  | arrowBody f => exact ⟨rfl, by rw [hphase]; rfl⟩

/-- A pass ends well exactly if no bracket and no brace is open. -/
theorem finish_succeeds_iff (s : Script) : s.finish.2 = none ↔
    s.releaseClosed.releaseReturnType.groups = [] ∧
      s.releaseClosed.releaseReturnType.braces.depth = 0 := by
  have hdepth : (s.releaseClosed.releaseReturnType.closeExpressions 0).braces.depth =
      s.releaseClosed.releaseReturnType.braces.depth := Braces.closeWhile_depth _ _
  have hgroups : (s.releaseClosed.releaseReturnType.closeExpressions 0).groups =
      s.releaseClosed.releaseReturnType.groups := rfl
  unfold finish Braces.openAtEnd?
  dsimp only
  rw [hdepth, hgroups]
  cases s.releaseClosed.releaseReturnType.groups with
  | nil => simp
  | cons g gs => simp

/-- The end of the input hands on the decisions that wait on a closed group or a return type, and then,
if no brace is open, closes all bodies. -/
theorem finish_settles (s : Script) (hsucc : s.finish.2 = none) :
    ∃ k, Braces.Settles k s.braces s.finish.1.braces ∧ k + s.unsettled = s.held ∧
      (s.braces.WellNested → s.finish.1.braces.bodies = []) := by
  obtain ⟨hgroups, hdepth⟩ := (finish_succeeds_iff s).1 hsucc
  obtain ⟨hclosed, hphase⟩ := releaseClosed_frame s
  obtain ⟨hclosed', hheld⟩ := releaseReturnType_frame s.releaseClosed
  obtain ⟨k, hk, he⟩ := (releaseClosed_hands s).trans_counted (releaseReturnType_hands _)
  have hcounted : Braces.Settles k s.braces s.releaseClosed.releaseReturnType.braces := by
    rw [hk]
    exact Braces.settles_record s.braces k
  refine ⟨k, hcounted.closeWhile _, ?_, ?_⟩
  · -- only the arrow and the question mark are left
    have harrow : s.releaseClosed.arrowHeld = s.arrowHeld := by rw [arrowHeld, hphase, arrowHeld]
    have hleft : s.releaseClosed.releaseReturnType.waiting = s.arrowHeld := by
      rw [waiting, hgroups, hclosed', hclosed, hheld, harrow]
      simp
    rw [hleft] at he
    rw [unsettled, held]
    omega
  · intro hnested
    exact (hnested.settles hcounted).closeExpressions_bodies hdepth

end Script

end Cyclomatic.Recognizer
