import Mathlib
import Cyclomatic.Proofs.Brackets
import Cyclomatic.Proofs.OpenBrackets
import Cyclomatic.Proofs.Recognizer.ScriptPass
import Cyclomatic.Proofs.ScopeStack
import Cyclomatic.Proofs.Token

/-!
# The outermost group

In a pass over TypeScript or JavaScript a token opens a group, closes the innermost one, or leaves the groups
open that are open. A body that is an expression remembers how many groups were open when it began
(`Script.Nests`). So a group stays the outermost one while the brackets inside it are balanced, as far as they
are counted (`Recognizer.run_within`), and the parenthesis that closes it closes every expression that began
inside it (`Script.Within.read_closing`).
-/

namespace Cyclomatic

/-- Outside all braces the expressions that began inside enough brackets are all that can be open. -/
theorem Braces.WellNested.closeExpressions_eq_nil {b : Braces} {brackets : Nat}
    (h : (b.closeExpressions brackets).WellNested) (hdepth : b.depth = 0)
    (hinside : ∀ body ∈ b.bodies, body.isExpression = true → brackets ≤ body.bracketDepth) :
    (b.closeExpressions brackets).bodies = [] := by
  cases hbodies : (b.closeExpressions brackets).bodies with
  | nil => rfl
  | cons body rest =>
    have hmem : body ∈ (b.closeExpressions brackets).bodies := by
      rw [hbodies]
      exact List.mem_cons_self
    obtain ⟨hle, hlt⟩ := h.below_depth body hmem
    rw [closeExpressions, closeWhile_bodies] at hmem hbodies
    rw [closeExpressions, closeWhile_depth, hdepth] at hle hlt
    have hexpression : body.isExpression = true := by
      rw [← Bool.not_eq_false]
      exact fun hblock => absurd (hlt hblock) (Nat.not_lt_zero _)
    have hzero : body.braceDepth = b.depth := by omega
    have hinside := hinside body ((List.dropWhile_sublist _).subset hmem) hexpression
    -- the first body that is left would have been closed
    have hleft := List.head?_dropWhile_not (fun body : Body =>
      body.isExpression && body.braceDepth == b.depth && decide (brackets ≤ body.bracketDepth)) b.bodies
    rw [hbodies] at hleft
    simp [hexpression, hzero, hinside] at hleft

namespace Recognizer

/-- The group as it was when it opened. -/
def Group.asOpened (g : Group) : Group :=
  { g with count := 0, entryBegun := false, decisions := 0 }

namespace Script

variable {s s' x : Script} {t : Token}

/-- The open groups as they were when they opened, innermost first. -/
def openedGroups (s : Script) : List Group :=
  s.groups.map (·.asOpened)

/-! ## What opens and closes no group -/

/-- No group opens or closes, and no body opens. -/
structure Rests (s s' : Script) : Prop where
  groups_eq : s'.openedGroups = s.openedGroups
  bodies_subset : s'.braces.bodies ⊆ s.braces.bodies

/-- A state with the same open groups and bodies rests. -/
theorem rests_of_eq (hgroups : s'.openedGroups = s.openedGroups)
    (hbodies : s'.braces.bodies = s.braces.bodies) : Rests s s' :=
  ⟨hgroups, by rw [hbodies]; exact List.Subset.refl _⟩

theorem Rests.refl (s : Script) : Rests s s :=
  rests_of_eq rfl rfl

theorem Rests.trans (h : Rests s x) (h' : Rests x s') : Rests s s' :=
  ⟨h'.groups_eq.trans h.groups_eq, List.Subset.trans h'.bodies_subset h.bodies_subset⟩

/-- Registers are of no account. -/
theorem Rests.of_eq (h : Rests x s') (hgroups : x.openedGroups = s.openedGroups)
    (hbodies : x.braces.bodies = s.braces.bodies) : Rests s s' :=
  (rests_of_eq hgroups hbodies).trans h

theorem takeName_rests (s : Script) : Rests s s.takeName := by
  unfold takeName
  split
  · split <;> exact rests_of_eq rfl rfl
  · exact .refl s

theorem declare_rests (s : Script) (text : String) : Rests s (s.declare text) := by
  unfold declare
  split
  · split <;> exact rests_of_eq rfl rfl
  · exact .refl s

theorem beginEntry_rests (s : Script) : Rests s s.beginEntry := by
  unfold beginEntry
  split
  · exact .refl s
  · rename_i g gs hgroups
    exact rests_of_eq (by simp [openedGroups, hgroups, Group.asOpened]) rfl

/-- Recording decisions opens and closes no group. -/
theorem record_rests (s : Script) (count : Nat) : Rests s (s.record count) := by
  unfold record
  split
  · rename_i g gs hgroups
    split
    · exact rests_of_eq (by simp [openedGroups, hgroups, Group.asOpened]) rfl
    · exact rests_of_eq rfl rfl
  · exact rests_of_eq rfl rfl

theorem release_rests (s : Script) (g : Group) : Rests s (s.release g) :=
  record_rests s g.decisions

/-- Expressions that close leave the groups alone, and the bodies that remain were there before. -/
theorem closeExpressions_rests (s : Script) (brackets : Nat) : Rests s (s.closeExpressions brackets) := by
  refine ⟨rfl, ?_⟩
  show (s.braces.closeExpressions brackets).bodies ⊆ _
  rw [Braces.closeExpressions, Braces.closeWhile_bodies]
  exact List.dropWhile_subset _

/-- A comma opens and closes no group. -/
theorem readComma_rests (s : Script) : Rests s s.readComma := by
  have hended (gs : List Group) (hgs : gs.map (·.asOpened) = s.openedGroups) :
      Rests s ({ s with groups := gs }.closeExpressions gs.length) := by
    have hgroups : Rests s { s with groups := gs } := rests_of_eq hgs rfl
    exact hgroups.trans (closeExpressions_rests _ _)
  unfold readComma
  dsimp only
  refine Rests.trans (hended _ ?_) (iteInduction (fun _ => rests_of_eq rfl rfl) fun _ => .refl _)
  unfold openedGroups
  cases s.groups with
  | nil => rfl
  | cons g gs =>
    dsimp only
    split <;> rfl

theorem readColon_rests (s : Script) (closed : Option Group) : Rests s (s.readColon closed) := by
  have hbegin := beginEntry_rests s
  unfold readColon
  dsimp only
  cases closed with
  | none =>
    refine hbegin.trans (iteInduction (fun _ => rests_of_eq rfl rfl) fun _ => ?_)
    exact iteInduction (fun _ => rests_of_eq rfl rfl) fun _ => takeName_rests _
  | some g =>
    have hreleased (c : Bool) : Rests s (if c then s.beginEntry.release g else s.beginEntry) :=
      iteInduction (fun _ => hbegin.trans (release_rests _ g)) fun _ => hbegin
    refine (hreleased _).trans (iteInduction (fun _ => rests_of_eq rfl rfl) fun _ => ?_)
    refine iteInduction (fun _ => rests_of_eq rfl rfl) fun _ => ?_
    exact iteInduction (fun _ => takeName_rests _) fun _ => rests_of_eq rfl rfl

theorem settleQuestion_rests (s : Script) (t : Token) : Rests s (s.settleQuestion t) := by
  have hcounted := record_rests { s with question := false } 1
  refine iteInduction (fun _ => ?_) fun _ => .refl s
  exact iteInduction (fun _ => rests_of_eq rfl rfl) fun _ => ⟨hcounted.groups_eq, hcounted.bodies_subset⟩

theorem readNewline_rests (s : Script) (implicit : Bool) : Rests s (s.readNewline implicit) := by
  have hend (x : Script) : Rests x x.endLine := by
    have hclosed := closeExpressions_rests { x with nameLocked := false } 0
    exact iteInduction (fun _ => ⟨hclosed.groups_eq, hclosed.bodies_subset⟩) fun _ => .refl x
  refine iteInduction (fun _ => .refl s) fun _ => ?_
  split
  · exact .refl s
  · rename_i g _ _
    exact ((release_rests { s with phase := .statement } g).trans (hend _)).of_eq rfl rfl
  · exact hend s

/-! ## Tokens -/

/-- A group opens, or the innermost one closes, or neither. A body that opens is a block, or remembers the
number of the groups that are open. -/
structure Nests (s s' : Script) : Prop where
  groups : s'.openedGroups = s.openedGroups ∨ (∃ g, s'.openedGroups = g :: s.openedGroups) ∨
    s'.openedGroups = s.openedGroups.tail
  bodies : ∀ body ∈ s'.braces.bodies, body ∈ s.braces.bodies ∨ body.isExpression = false ∨
    body.bracketDepth = s.openedGroups.length

theorem Rests.nests (h : Rests s s') : Nests s s' :=
  ⟨.inl h.groups_eq, fun _ hbody => .inl (h.bodies_subset hbody)⟩

/-- Nothing else than the open groups and bodies is of account after what rests. -/
theorem Rests.nests_of_eq (h : Rests s x) (hgroups : s'.openedGroups = x.openedGroups)
    (hbodies : s'.braces.bodies = x.braces.bodies) : Nests s s' :=
  (h.trans (rests_of_eq hgroups hbodies)).nests

theorem nests_of_eq (hgroups : s'.openedGroups = s.openedGroups)
    (hbodies : s'.braces.bodies = s.braces.bodies) : Nests s s' :=
  (rests_of_eq hgroups hbodies).nests

/-- What rests first counts for nothing. -/
theorem Rests.trans_nests (h : Rests s x) (h' : Nests x s') : Nests s s' := by
  refine ⟨h.groups_eq ▸ h'.groups, fun body hbody => ?_⟩
  rw [← h.groups_eq]
  exact (h'.bodies body hbody).imp_left fun hx => h.bodies_subset hx

/-- What rests last counts for nothing. -/
theorem Nests.trans_rests (h : Nests s x) (h' : Rests x s') : Nests s s' :=
  ⟨h'.groups_eq ▸ h.groups, fun body hbody => h.bodies body (h'.bodies_subset hbody)⟩

/-- Only the open groups and bodies of the first state are of account. -/
theorem Nests.of_eq (h : Nests x s') (hgroups : x.openedGroups = s.openedGroups)
    (hbodies : x.braces.bodies = s.braces.bodies) : Nests s s' :=
  (rests_of_eq hgroups hbodies).trans_nests h

/-- A group that opens lies inside those that are open. -/
theorem pushGroup_nests (s : Script) (g : Group) : Nests s (s.pushGroup g) := by
  refine (beginEntry_rests s).trans_nests ⟨.inr (.inl ⟨g.asOpened, rfl⟩), fun _ hbody => .inl hbody⟩

/-- The parameters of a function open one group. -/
theorem openParameters_nests (s : Script) (name : String) (functionLine : Int) :
    Nests s (s.openParameters name functionLine) :=
  (pushGroup_nests { s with assignedName := "" } _).of_eq rfl rfl

/-- A parenthesis opens one group. -/
theorem openParenthesis_nests (s : Script) : Nests s s.openParenthesis := by
  unfold openParenthesis
  dsimp only
  split
  · exact iteInduction (fun _ => (pushGroup_nests s.forgetName _).of_eq rfl rfl) fun _ => pushGroup_nests s _
  · exact pushGroup_nests s _

/-- A closing bracket closes the innermost group, and the expressions that began inside it. -/
theorem closeGroup_nests (s : Script) (text : String) : Nests s (s.closeGroup text) := by
  unfold closeGroup
  split
  · exact (Rests.refl s).nests
  · rename_i g gs hgroups
    dsimp only
    have htail : Nests s { s with groups := gs } := by
      refine ⟨.inr (.inr ?_), fun _ hbody => .inl hbody⟩
      rw [openedGroups, openedGroups, hgroups]
      rfl
    have hclosed := htail.trans_rests (closeExpressions_rests { s with groups := gs } (gs.length + 1))
    refine iteInduction (fun _ => ?_) fun _ => hclosed.trans_rests (release_rests _ _)
    exact hclosed.trans_rests (rests_of_eq rfl rfl)

/-- A brace opens a block or a body that is no expression, and no group. -/
theorem openBrace_nests (s : Script) (closed : Option Group) : Nests s (s.openBrace closed) := by
  have hbegin := beginEntry_rests s
  unfold openBrace
  dsimp only
  split
  · refine iteInduction (fun _ => hbegin.trans_nests ⟨.inl rfl, fun body hbody => ?_⟩) fun _ => ?_
    · rcases List.mem_cons.1 hbody with rfl | hbody
      · exact .inr (.inl rfl)
      · exact .inl hbody
    · exact (hbegin.trans (release_rests _ _)).nests_of_eq rfl rfl
  · exact hbegin.nests_of_eq rfl rfl

/-- A closing brace closes bodies, and no group. -/
theorem closeBrace_nests (s : Script) : Nests s { s with braces := s.braces.closeBrace }.forgetName :=
  ⟨.inl rfl, fun _ hbody => .inl ((Braces.closeBrace_bodies_suffix s.braces).subset hbody)⟩

/-- Ordinary code opens a group, closes the innermost one, or rests. -/
theorem readStatement_nests (s : Script) (closed : Option Group) (t : Token) :
    Nests s (s.readStatement closed t) := by
  have hdeclared := declare_rests s t.text
  have hbegin := hdeclared.trans (beginEntry_rests _)
  -- in the order in which the kinds of tokens are tried
  unfold readStatement
  dsimp only
  refine iteInduction (fun _ => (beginEntry_rests s).nests_of_eq rfl rfl) fun _ => ?_
  refine iteInduction (fun _ => nests_of_eq rfl rfl) fun _ => ?_
  refine iteInduction (fun _ => hbegin.nests_of_eq rfl rfl) fun _ => ?_
  refine iteInduction (fun _ => hdeclared.trans_nests (openParenthesis_nests _)) fun _ => ?_
  refine iteInduction (fun _ => hdeclared.trans_nests (pushGroup_nests _ _)) fun _ => ?_
  refine iteInduction (fun _ => hdeclared.trans_nests (closeGroup_nests _ _)) fun _ => ?_
  refine iteInduction (fun _ => hdeclared.trans_nests (openBrace_nests _ closed)) fun _ => ?_
  refine iteInduction (fun _ => hdeclared.trans_nests (closeBrace_nests _)) fun _ => ?_
  refine iteInduction (fun _ => hdeclared.nests_of_eq rfl rfl) fun _ => ?_
  refine iteInduction (fun _ => (hdeclared.trans (readColon_rests _ closed)).nests) fun _ => ?_
  refine iteInduction (fun _ => (hbegin.trans (takeName_rests _)).nests) fun _ => ?_
  refine iteInduction (fun _ => (hdeclared.trans (readComma_rests _)).nests) fun _ => ?_
  refine iteInduction (fun _ => ?_) fun _ => ?_
  · exact (hdeclared.trans (closeExpressions_rests _ _)).nests_of_eq rfl rfl
  exact iteInduction (fun _ => hbegin.nests_of_eq rfl rfl) fun _ => hbegin.nests

/-- So does a token in any phase. -/
theorem readPhase_nests (s : Script) (closed : Option Group) (t : Token) : Nests s (s.readPhase closed t) := by
  have hended (c : Option Group) : Nests s ({ s with phase := .statement }.readStatement c t) :=
    (readStatement_nests { s with phase := .statement } c t).of_eq rfl rfl
  have hphase (p : ScriptPhase) : Nests s { s with phase := p } := nests_of_eq rfl rfl
  unfold readPhase
  cases s.phase with
  | statement => exact readStatement_nests s closed t
  | functionHead name functionLine =>
    refine iteInduction (fun _ => hended none) fun _ => iteInduction (fun _ => (Rests.refl s).nests) fun _ => ?_
    refine iteInduction (fun _ => hphase _) fun _ => iteInduction (fun _ => hphase _) fun _ => ?_
    refine iteInduction (fun _ => ?_) fun _ => hended none
    exact (openParameters_nests { s with phase := .statement, declaring := false } name
      functionLine).of_eq rfl rfl
  | typeParameters name functionLine depth =>
    refine iteInduction (fun _ => hphase _) fun _ => iteInduction (fun _ => ?_) fun _ => (Rests.refl s).nests
    exact iteInduction (fun _ => hphase _) fun _ => hphase _
  | returnType g depth tokens =>
    refine iteInduction (fun _ => hended (some g)) fun _ => iteInduction (fun _ => ?_) fun _ => ?_
    · exact nests_of_eq rfl rfl
    refine iteInduction (fun _ => ?_) fun _ => ?_
    · have hreleased := release_rests { s with phase := .statement } g
      exact (hreleased.trans_nests (readStatement_nests _ none t)).of_eq rfl rfl
    exact iteInduction (fun _ => hphase _) fun _ => iteInduction (fun _ => hphase _) fun _ => hphase _
  | arrowBody f =>
    refine iteInduction (fun _ => ?_) fun _ => ?_
    · have hbegin := beginEntry_rests { s with phase := .statement }
      refine ⟨.inl hbegin.groups_eq, fun body hbody => ?_⟩
      rcases List.mem_cons.1 hbody with rfl | hbody
      · exact .inr (.inl rfl)
      · exact .inl (hbegin.bodies_subset hbody)
    · have hread := readStatement_nests
        { s with phase := .statement, braces := s.braces.openExpression f s.groups.length } none t
      refine ⟨hread.groups, fun body hbody => ?_⟩
      rcases hread.bodies body hbody with hbody | hbody
      · rcases List.mem_cons.1 hbody with rfl | hbody
        · exact .inr (.inr (List.length_map _).symm)
        · exact .inl hbody
      · exact .inr hbody

/-- Settling what waits for the token rests. -/
theorem readToken_nests (s : Script) (t : Token) : Nests s (s.readToken t) := by
  have hsettled := settleQuestion_rests s t
  unfold readToken
  dsimp only
  generalize s.settleQuestion t = q at hsettled
  split
  · exact hsettled.trans_nests (readPhase_nests q none t)
  · rename_i g _
    refine iteInduction (fun _ => ?_) fun _ => ?_
    · exact hsettled.trans_nests ((readPhase_nests { q with closedGroup := none } (some g) t).of_eq rfl rfl)
    · have hreleased := release_rests { q with closedGroup := none } g
      exact hsettled.trans_nests ((hreleased.trans_nests (readPhase_nests _ _ t)).of_eq rfl rfl)

/-- A token opens a group, closes the innermost one, or rests. -/
theorem read_nests (table : DecisionTable) (s : Script) (t : Token) : Nests s (s.read table t) := by
  refine iteInduction (fun _ => (readNewline_rests s t.implicit).nests) fun _ => ?_
  refine (readToken_nests s t).trans_rests (Rests.trans (x := if _ then _ else _) ?_ (rests_of_eq rfl rfl))
  refine iteInduction (fun _ => iteInduction (fun _ => rests_of_eq rfl rfl) fun _ => ?_) fun _ => .refl _
  exact record_rests _ 1

/-! ## Inside a group -/

/-- The outermost open group has opened as `base`, and all open expressions began inside it. -/
structure Within (base : Group) (s : Script) : Prop where
  outermost : s.openedGroups.getLast? = some base
  inside : ∀ body ∈ s.braces.bodies, body.isExpression = true → 1 ≤ body.bracketDepth

variable {base : Group}

/-- A group remains the outermost one while nothing opens or closes. -/
theorem Within.rests (h : Within base s) (hs : Rests s s') : Within base s' :=
  ⟨hs.groups_eq ▸ h.outermost, fun body hbody => h.inside body (hs.bodies_subset hbody)⟩

/-- The outermost group remains so until none is left. -/
theorem Within.nests (h : Within base s) (hs : Nests s s') (hne : s'.groups ≠ []) : Within base s' := by
  obtain ⟨g, gs, hgroups⟩ : ∃ g gs, s.openedGroups = g :: gs := by
    refine List.exists_cons_of_ne_nil fun hnil => ?_
    have houtermost := h.outermost
    rw [hnil] at houtermost
    cases houtermost
  have hne' : s'.openedGroups ≠ [] := fun hnil => hne (List.map_eq_nil_iff.1 hnil)
  refine ⟨?_, fun body hbody hexpression => ?_⟩
  · have houtermost := h.outermost
    rcases hs.groups with he | ⟨top, he⟩ | he
    · rw [he, houtermost]
    · rw [he, hgroups, List.getLast?_cons_cons, ← hgroups, houtermost]
    · rw [hgroups] at he houtermost
      rw [List.tail_cons] at he
      obtain ⟨below, rest, rfl⟩ := List.exists_cons_of_ne_nil (he ▸ hne')
      rw [he, ← houtermost, List.getLast?_cons_cons]
  · rcases hs.bodies body hbody with hold | hblock | hdepth
    · exact h.inside body hold hexpression
    · rw [hblock] at hexpression
      cases hexpression
    · rw [hdepth, hgroups]
      exact Nat.succ_pos _

/-- What a closing parenthesis closes, if it is not hidden: the innermost group, after at most an expression has
begun that ends with it. -/
theorem Within.readPhase_closing (h : Within base s) (closed : Option Group) (ht : t.IsText ")")
    (hvisible : s.hides ")" = false) :
    ∃ x, s.readPhase closed t = x.closeGroup ")" ∧ Within base x ∧ x.openings = s.openings := by
  -- as a statement a parenthesis only closes a group
  have hname : isName ")" = false := by decide
  have hstatement {y : Script} (hy : Within base y) (hopen : y.openings = s.openings) (c : Option Group) :
      ∃ x, y.readStatement c t = x.closeGroup ")" ∧ Within base x ∧ x.openings = s.openings := by
    refine ⟨y.declare ")", ?_, hy.rests (declare_rests y _), (declare_openings y _).trans hopen⟩
    simp [readStatement, ht.1, ht.2, isDeclaring]
  have hphase (p : ScriptPhase) : Within base { s with phase := p } := h.rests (rests_of_eq rfl rfl)
  unfold readPhase
  rw [hides] at hvisible
  cases hp : s.phase with
  | statement => exact hstatement h rfl closed
  | functionHead name functionLine =>
    dsimp only [readFunctionHead]
    rw [if_neg (by simp [ht.1]), ht.2, if_neg (by decide), if_neg (by decide), if_neg (by simp [hname]),
      if_neg (by decide)]
    exact hstatement (hphase .statement) rfl none
  | typeParameters name functionLine depth =>
    rw [hp] at hvisible
    cases hvisible
  | returnType g depth tokens =>
    rw [hp] at hvisible
    obtain rfl : depth = 0 := by simpa using hvisible
    dsimp only [readReturnType]
    rw [if_neg (by simp [ht.2]), if_neg (by simp [ht.2]), if_pos ⟨rfl, ht.1, by rw [ht.2]; rfl⟩]
    exact hstatement ((hphase .statement).rests (release_rests _ g)) (release_openings _ g) none
  | arrowBody f =>
    dsimp only [readArrowBody]
    rw [if_neg (by simp [ht.2])]
    have hbegun : Within base
        { s with phase := .statement, braces := s.braces.openExpression f s.groups.length } := by
      refine ⟨h.outermost, fun body hbody hexpression => ?_⟩
      rcases List.mem_cons.1 hbody with rfl | hbody
      · have hne : s.groups ≠ [] := fun hnil => by
          have houtermost := h.outermost
          rw [openedGroups, hnil] at houtermost
          cases houtermost
        exact List.length_pos_iff.2 hne
      · exact h.inside body hbody hexpression
    exact hstatement hbegun rfl none

/-- What waits for the token is settled and released first, and opens or closes nothing. -/
theorem Within.readToken_closing (h : Within base s) (ht : t.IsText ")") (hvisible : s.hides ")" = false) :
    ∃ x, s.readToken t = x.closeGroup ")" ∧ Within base x ∧ x.openings = s.openings := by
  have hsettled := h.rests (settleQuestion_rests s t)
  have hsettledOpen := settleQuestion_openings s t
  have hphase := (settleQuestion_frame s t).1
  unfold readToken
  dsimp only
  generalize s.settleQuestion t = q at hsettled hsettledOpen hphase
  rw [← hides_congr hphase] at hvisible
  split
  · rw [← hsettledOpen]
    exact hsettled.readPhase_closing none ht hvisible
  · rename_i g _
    have hkeeps := release_keeps { q with closedGroup := none } g
    have hreleased : Within base ({ q with closedGroup := none }.release g) :=
      hsettled.rests ((release_rests { q with closedGroup := none } g).of_eq rfl rfl)
    rw [if_neg (by simp [keepsSignature, ht.2]), ← hsettledOpen]
    obtain ⟨x, hx, hwithin, hopen⟩ := hreleased.readPhase_closing (some { g with decisions := 0 }) ht
      ((hides_congr hkeeps.phase_eq _).trans hvisible)
    exact ⟨x, hx, hwithin, hopen.trans (release_openings _ g)⟩

/-- The parenthesis that closes the outermost group, outside all braces: nothing is left open, and the group
waits for the next token. -/
theorem Within.read_closing (h : Within base s) (hbase : base.isParenthesis = true)
    (hopen : s.openings = { groups := 1 }) {table : DecisionTable} (htable : table.decides ")" = false)
    (ht : t.IsText ")") (hvisible : s.hides ")" = false) (hnested : (s.read table t).braces.WellNested) :
    (∃ g ∈ (s.read table t).closedGroup, g.asOpened = base) ∧ (s.read table t).groups = [] ∧
      (s.read table t).braces.bodies = [] := by
  obtain ⟨x, hx, hwithin, hopened⟩ := h.readToken_closing ht hvisible
  rw [hopen] at hopened
  obtain ⟨hdepth, hlength⟩ := Openings.mk.inj hopened
  obtain ⟨g, hg⟩ := List.length_eq_one_iff.1 hlength
  have hgbase : g.asOpened = base := by
    have houtermost := hwithin.outermost
    rw [openedGroups, hg] at houtermost
    exact Option.some.inj houtermost
  have hparenthesis : g.endEntry.isParenthesis = true := by
    rw [← hgbase] at hbase
    exact hbase
  have hclosed : x.closeGroup ")" =
      { { x with groups := [] }.closeExpressions 1 with closedGroup := some g.endEntry } := by
    rw [closeGroup, hg]
    exact if_pos ⟨rfl, hparenthesis⟩
  have hend : s.read table t =
      { { { x with groups := [] }.closeExpressions 1 with closedGroup := some g.endEntry } with
        previous := some t.text } := by
    rw [← hclosed, ← hx]
    simp [Script.read, Token.isNewline_of_isCode ht.1, ht.1, ht.2, htable]
  rw [hend] at hnested ⊢
  refine ⟨⟨g.endEntry, rfl, hgbase⟩, rfl, ?_⟩
  exact Braces.WellNested.closeExpressions_eq_nil hnested hdepth hwithin.inside

end Script

/-! ## Passes -/

/-- Tokens that leave open what is open around them, and behind which a parenthesis closes it: their brackets
are balanced, but for those that a signature inside them hides, and no signature hides the parenthesis. -/
structure BalancedInside (table : DecisionTable) (r : Recognizer) (ts : List Token) : Prop where
  nested : WellNested (codeTokens (r.counted table ts))
  visible : (r.run table ts).hides ")" = false

instance (table : DecisionTable) (r : Recognizer) (ts : List Token) : Decidable (BalancedInside table r ts) :=
  decidable_of_iff (WellNested (codeTokens (r.counted table ts)) ∧ (r.run table ts).hides ")" = false)
    ⟨fun h => ⟨h.1, h.2⟩, fun h => ⟨h.nested, h.visible⟩⟩

open Script

variable {s : Script} {base : Group}

/-- Announcing and crediting a token is nothing to the groups. -/
theorem feed_nests (table : DecisionTable) (s : Script) (t : Token) :
    ∃ s', (script s).feed table t = script s' ∧ Nests s s' := by
  cases ht : t.isNewline with
  | true =>
    have hread := readNewline_rests (s.mapLedger Ledger.nextLine) t.implicit
    exact ⟨_, feed_script_newline ht, hread.nests.of_eq rfl rfl⟩
  | false =>
    have hread := read_nests table (s.mapLedger (·.announce t.lineSpan)) t
    exact ⟨_, feed_script_token ht, hread.groups, hread.bodies⟩

/-- While the counted brackets are balanced, nothing around them closes. -/
theorem run_within (table : DecisionTable) {o : Openings} (ho : 0 < o.groups) (h : Within base s)
    {stack stack' : List String} (hopen : s.openings = o.inside stack) {ts : List Token}
    (hts : Brackets.afterAll stack (codeTokens ((script s).counted table ts)) = some stack') :
    ∃ s', (script s).run table ts = script s' ∧ Within base s' ∧ s'.openings = o.inside stack' := by
  induction ts generalizing s stack with
  | nil =>
    obtain rfl := Option.some.inj hts
    exact ⟨s, rfl, h, hopen⟩
  | cons t ts ih =>
    obtain ⟨x, hx, hnests⟩ := feed_nests table s t
    have hfeed := openings_feed table (script s) t
    rw [hx] at hfeed
    have hne {next : List String} (hopen : x.openings = o.inside next) : x.groups ≠ [] := by
      have hgroups : x.groups.length = o.groups + next.count "(" + next.count "[" := congrArg (·.groups) hopen
      exact List.length_pos_iff.1 (by omega)
    rw [run_cons, hx]
    rw [counted, hx] at hts
    split at hts
    · rename_i hcounted
      rw [if_pos hcounted] at hfeed
      obtain ⟨next, hnext, hrest⟩ := Option.bind_eq_some_iff.1 hts
      have hopen' : x.openings = o.inside next := by
        rw [← o.inside_after rfl hnext, ← hopen]
        exact hfeed
      exact ih (h.nests hnests (hne hopen')) hopen' hrest
    · rename_i hcounted
      rw [if_neg hcounted] at hfeed
      have hopen' : x.openings = o.inside stack := hfeed.trans hopen
      exact ih (h.nests hnests (hne hopen')) hopen' hts

/-- Behind the parenthesis that closes it the only open group waits for the next token, and nothing is open. -/
theorem run_closing {table : DecisionTable} (htable : table.decides ")" = false) (h : Within base s)
    (hbase : base.isParenthesis = true) (hopen : s.openings = { groups := 1 }) (hs : (script s).Sound)
    (hscopes : s.braces.WellNested) {ts : List Token} (hts : BalancedInside table (script s) ts) {t : Token}
    (ht : t.IsText ")") :
    ∃ s', (script s).run table (ts ++ [t]) = script s' ∧ (∃ g ∈ s'.closedGroup, g.asOpened = base) ∧
      s'.groups = [] ∧ s'.braces.ledger.depth = 0 := by
  have hinside : s.openings = Openings.inside { groups := 1 } [] := hopen
  obtain ⟨x, hx, hwithin, hopened⟩ := run_within table Nat.one_pos h hinside hts.nested
  have hvisible : x.hides ")" = false := by
    have hvisible := hts.visible
    rw [hx] at hvisible
    exact hvisible
  have hrun : (script s).run table (ts ++ [t]) =
      script (((x.mapLedger (·.announce t.lineSpan)).read table t).mapLedger (·.credit)) := by
    rw [run_append, hx, run_cons, run_nil, feed_script_token (Token.isNewline_of_isCode ht.1)]
  have hend : (script s).ScopesAgree → ((script s).run table (ts ++ [t])).ScopesAgree :=
    fun hscopes => scopesAgree_run table hscopes hs _
  rw [hrun] at hend
  have hnested := hend hscopes
  have hannounced : Within base (x.mapLedger (·.announce t.lineSpan)) :=
    ⟨hwithin.outermost, hwithin.inside⟩
  obtain ⟨hgroup, hgroups, hbodies⟩ := hannounced.read_closing hbase hopened htable ht hvisible
    (hnested.congr rfl le_rfl (Ledger.credit_depth _ 1).symm)
  refine ⟨_, hrun, hgroup, hgroups, ?_⟩
  rw [← hnested.length_bodies]
  exact congrArg List.length hbodies

end Recognizer

end Cyclomatic
