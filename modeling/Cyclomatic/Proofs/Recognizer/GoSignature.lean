import Mathlib
import Cyclomatic.Proofs.Brackets
import Cyclomatic.Proofs.Recognizer.Go

/-!
# Brackets in Go signatures

While a signature is read, brackets are passed over in four ways: type parameters count square brackets,
parameter lists count all brackets, and among the results the brackets of groups and the braces of types
are counted apart. `Go.Skips` says what brackets of the present signature are open. In well nested tokens
each way ends with the bracket that began it, so a signature that is given up has left no bracket open, and
the braces outside signatures are exactly those that are counted (`Go.readCode_neutral`,
`Go.readCode_opening`, `Go.readCode_closing`).
-/

namespace Cyclomatic

/-! ## Parameter lists -/

namespace ParameterList

variable (p : ParameterList) {text : String}

/-- An opening bracket leads deeper into the list. -/
theorem feed_opening (h : isOpening text = true) :
    (p.feed text).1 = false ∧ (p.feed text).2.depth = p.depth + 1 := by
  rw [feed, if_pos h]
  split
  · rename_i hone
    exact ⟨rfl, hone.symm⟩
  · exact ⟨rfl, rfl⟩

/-- A closing bracket leads out of the list, and closes it where nothing else is open. -/
theorem feed_closing (h : isClosing text = true) :
    (p.feed text).1 = decide (p.depth - 1 ≤ 0) ∧ (p.feed text).2.depth = p.depth - 1 := by
  rw [feed, if_neg (by simp [Brackets.isOpening_of_isClosing h]), if_pos h]
  split
  · rename_i hle
    exact ⟨(decide_eq_true hle).symm, rfl⟩
  · rename_i hle
    exact ⟨(decide_eq_false hle).symm, rfl⟩

/-- Any other token leaves the depth of the list alone. -/
theorem feed_neutral (h : isOpening text = false) (h' : isClosing text = false) :
    (p.feed text).1 = false ∧ (p.feed text).2.depth = p.depth := by
  rw [feed, if_neg (by simp [h]), if_neg (by simp [h'])]
  split <;> exact ⟨rfl, rfl⟩

end ParameterList

namespace Recognizer.Go

open Brackets

/-! ## What a signature skips -/

/-- The brackets that type parameters count. -/
def isTypeBracket (b : String) : Bool :=
  b == "["

/-- The brackets that a type among the results counts. -/
def isTypeBrace (b : String) : Bool :=
  b == "\x7b"

/-- The brackets that the results count. -/
def isGroupBracket (b : String) : Bool :=
  b == "(" || b == "["

/-- A signature in which no bracket of results or type parameters is open. -/
def Blank (g : GoSignature) : Prop :=
  g.bracketDepth = 0 ∧ g.typeBraceDepth = 0

/-- `s.Skips inner`: the brackets of the present signature that are open are `inner`, innermost first. -/
def Skips (s : Go) (inner : List String) : Prop :=
  match s.phase with
  | .outside => inner = []
  | .afterFunc | .afterName => inner = [] ∧ Blank s.signature ∧ s.signature.parameters.depth = 0
  | .typeParameters =>
    Region isTypeBracket s.signature.bracketDepth inner ∧ s.signature.bracketDepth ≠ 0 ∧
      s.signature.typeBraceDepth = 0 ∧ s.signature.parameters.depth = 0
  | .firstGroup | .parameters =>
    inner ≠ [] ∧ s.signature.parameters.depth = inner.length ∧ Blank s.signature
  | .afterFirstGroup | .afterCandidate => inner = [] ∧ Blank s.signature
  | .results =>
    ∃ types groups, inner = types ++ groups ∧
      Region isTypeBrace s.signature.typeBraceDepth types ∧
      Region isGroupBracket s.signature.bracketDepth groups

variable {s s₀ s' : Go} {inner : List String} {text : String}

/-- A token that leaves the braces alone. -/
structure Passes (s s' : Go) (inner : List String) : Prop where
  skips : s'.Skips inner
  braces_eq : s'.braces = s.braces

/-- What an opening bracket can do: it is skipped, or it stands outside signatures, and a brace there is
counted or opens a body. -/
inductive Opens (s : Go) (text : String) (inner : List String) (s' : Go) : Prop
  | skipped (h : Passes s s' (text :: inner))
  | bracket (hinner : inner = []) (htext : text ≠ "\x7b") (h : Passes s s' [])
  | block (hinner : inner = []) (htext : text = "\x7b") (hs : s'.Skips [])
      (hbraces : s'.braces = s.braces.openBlock)
  | body (hinner : inner = []) (htext : text = "\x7b") (hs : s'.Skips []) (f : Signature)
      (hf : f.decisionCount = 0) (hbraces : s'.braces = s.braces.openBody f)

/-- What a closing bracket can do: it closes one that was skipped, or it stands outside signatures, and a
brace there is counted. -/
inductive Closes (s : Go) (text : String) (inner : List String) (s' : Go) : Prop
  | skipped (b : String) (rest : List String) (hinner : inner = b :: rest) (h : Passes s s' rest)
  | bracket (hinner : inner = []) (htext : text ≠ "\x7d") (h : Passes s s' [])
  | brace (hinner : inner = []) (htext : text = "\x7d") (hs : s'.Skips [])
      (hbraces : s'.braces = s.braces.closeBrace)

/-! Of the state in which a token is read only the braces matter. -/

theorem Passes.of_braces_eq (h : Passes s₀ s' inner) (hbraces : s₀.braces = s.braces) :
    Passes s s' inner :=
  ⟨h.skips, h.braces_eq.trans hbraces⟩

theorem Opens.of_braces_eq (h : Opens s₀ text inner s') (hbraces : s₀.braces = s.braces) :
    Opens s text inner s' := by
  cases h with
  | skipped h => exact .skipped (h.of_braces_eq hbraces)
  | bracket hinner htext h => exact .bracket hinner htext (h.of_braces_eq hbraces)
  | block hinner htext hs hopened => exact .block hinner htext hs (hbraces ▸ hopened)
  | body hinner htext hs f hf hopened => exact .body hinner htext hs f hf (hbraces ▸ hopened)

theorem Closes.of_braces_eq (h : Closes s₀ text inner s') (hbraces : s₀.braces = s.braces) :
    Closes s text inner s' := by
  cases h with
  | skipped b rest hinner h => exact .skipped b rest hinner (h.of_braces_eq hbraces)
  | bracket hinner htext h => exact .bracket hinner htext (h.of_braces_eq hbraces)
  | brace hinner htext hs hclosed => exact .brace hinner htext hs (hbraces ▸ hclosed)

/-! ## Outside signatures -/

/-- No bracket is a name or a keyword. -/
theorem isName_of_isOpening (h : isOpening text = true) :
    isName text = false ∧ text ≠ "func" ∧ text ≠ "\x7d" := by
  simp only [isOpening, Bool.or_eq_true, beq_iff_eq] at h
  rcases h with (rfl | rfl) | rfl <;> exact ⟨by decide, by decide, by decide⟩

/-- No closing bracket is a name or a keyword either. -/
theorem isName_of_isClosing (h : isClosing text = true) :
    isName text = false ∧ isTypeLiteral text = false ∧ text ≠ "func" ∧ text ≠ "(" ∧ text ≠ "[" ∧
      text ≠ "\x7b" := by
  simp only [isClosing, Bool.or_eq_true, beq_iff_eq] at h
  rcases h with (rfl | rfl) | rfl <;>
    exact ⟨by decide, by decide, by decide, by decide, by decide, by decide⟩

/-- What neither opens nor closes is none of the six brackets. -/
theorem ne_of_neutral (h : isOpening text = false) (h' : isClosing text = false) :
    text ≠ "(" ∧ text ≠ "[" ∧ text ≠ "\x7b" ∧ text ≠ ")" ∧ text ≠ "]" ∧ text ≠ "\x7d" := by
  refine ⟨?_, ?_, ?_, ?_, ?_, ?_⟩ <;> rintro rfl <;> simp [isOpening, isClosing] at h h'

/-- A token other than a brace may begin a signature, but leaves the braces alone. -/
theorem outside_passes (hs : s.phase = .outside) (hopen : text ≠ "\x7b") (hclose : text ≠ "\x7d") :
    Passes s (s.outside text) [] := by
  unfold outside
  rw [if_neg hopen, if_neg hclose]
  split
  · exact ⟨⟨rfl, ⟨rfl, rfl⟩, rfl⟩, rfl⟩
  · refine ⟨?_, rfl⟩
    rw [Skips, hs]

/-- Outside signatures an opening bracket is counted if it is a brace. -/
theorem outside_opens (hs : s.phase = .outside) (h : isOpening text = true) :
    Opens s text [] (s.outside text) := by
  by_cases hopen : text = "\x7b"
  · subst hopen
    refine .block rfl rfl ?_ rfl
    rw [Skips, show (s.outside "\x7b").phase = s.phase from rfl, hs]
  · exact .bracket rfl hopen (outside_passes hs hopen (isName_of_isOpening h).2.2)

/-- Outside signatures a closing bracket is counted if it is a brace. -/
theorem outside_closes (hs : s.phase = .outside) (h : isClosing text = true) :
    Closes s text [] (s.outside text) := by
  by_cases hclose : text = "\x7d"
  · subst hclose
    refine .brace rfl rfl ?_ rfl
    rw [Skips, show (s.outside "\x7d").phase = s.phase from rfl, hs]
  · exact .bracket rfl hclose (outside_passes hs (isName_of_isClosing h).2.2.2.2.2 hclose)

/-- A signature that is given up between brackets leaves its token to the outside. -/
theorem abandon_passes (s : Go) (hopen : text ≠ "\x7b") (hclose : text ≠ "\x7d") :
    Passes s (s.abandon text) [] :=
  (outside_passes (s := s.reset) rfl hopen hclose).of_braces_eq rfl

/-- An opening bracket at which a signature is given up is counted if it is a brace. -/
theorem abandon_opens (s : Go) (h : isOpening text = true) : Opens s text [] (s.abandon text) :=
  (outside_opens (s := s.reset) rfl h).of_braces_eq rfl

theorem abandon_closes (s : Go) (h : isClosing text = true) : Closes s text [] (s.abandon text) :=
  (outside_closes (s := s.reset) rfl h).of_braces_eq rfl

/-- The brace of a body is counted. -/
theorem openBody_opens (s : Go) : Opens s "\x7b" [] s.openBody :=
  .body rfl rfl rfl ⟨s.signature.name, s.signature.parameterCount, s.signature.startLine, 0⟩ rfl rfl

/-! ## Parameters -/

/-- A parameter list that its last bracket has not closed yet. -/
def InGroup (s : Go) (inner : List String) : Prop :=
  inner ≠ [] ∧ s.signature.parameters.depth = inner.length ∧ Blank s.signature

/-- In a parameter list the open brackets are those of the list. -/
theorem skips_group_iff (hphase : s.phase = .firstGroup ∨ s.phase = .parameters) :
    s.Skips inner ↔ s.InGroup inner := by
  rcases hphase with hphase | hphase <;> rw [Skips, hphase, InGroup]

/-- Behind a parameter list no bracket is open. -/
theorem skips_nil_of_blank (hphase : s.phase = .afterFirstGroup ∨ s.phase = .results)
    (h : Blank s.signature) : s.Skips [] := by
  obtain ⟨hgroups, htypes⟩ := h
  rcases hphase with hphase | hphase <;> rw [Skips, hphase]
  · exact ⟨rfl, hgroups, htypes⟩
  · refine ⟨[], [], rfl, ?_, ?_⟩
    · rw [htypes]
      exact .nil _
    · rw [hgroups]
      exact .nil _

/-- A token of a parameter list: the list goes on, or its last bracket has closed. -/
theorem feedParameters_cases (s : Go) (text : String) (next : GoPhase) :
    (s.feedParameters text next).braces = s.braces ∧
      (Blank s.signature → Blank (s.feedParameters text next).signature) ∧
      (s.feedParameters text next).signature.parameters.depth =
        (s.signature.parameters.feed text).2.depth ∧
      (s.feedParameters text next).phase =
        if (s.signature.parameters.feed text).1 then next else s.phase := by
  unfold feedParameters
  dsimp only
  split <;> exact ⟨rfl, id, rfl, rfl⟩

variable {next : GoPhase}

/-- In a parameter list a token that is no bracket is passed over. -/
theorem feedParameters_neutral (h : s.Skips inner)
    (hgroup : s.phase = .firstGroup ∨ s.phase = .parameters) (hopening : isOpening text = false)
    (hclosing : isClosing text = false) : Passes s (s.feedParameters text next) inner := by
  obtain ⟨hinner, hlength, hsignature⟩ := (skips_group_iff hgroup).1 h
  obtain ⟨hbraces, hblank, hdepth, hphase⟩ := feedParameters_cases s text next
  obtain ⟨hstay, hsame⟩ := s.signature.parameters.feed_neutral hopening hclosing
  rw [hstay] at hphase
  refine ⟨(skips_group_iff (hphase ▸ hgroup)).2 ⟨hinner, ?_, hblank hsignature⟩, hbraces⟩
  rw [hdepth, hsame, hlength]

/-- In a parameter list an opening bracket is skipped. -/
theorem feedParameters_opening (h : s.Skips inner)
    (hgroup : s.phase = .firstGroup ∨ s.phase = .parameters) (hopening : isOpening text = true) :
    Passes s (s.feedParameters text next) (text :: inner) := by
  obtain ⟨-, hlength, hsignature⟩ := (skips_group_iff hgroup).1 h
  obtain ⟨hbraces, hblank, hdepth, hphase⟩ := feedParameters_cases s text next
  obtain ⟨hstay, hmore⟩ := s.signature.parameters.feed_opening hopening
  rw [hstay] at hphase
  refine ⟨(skips_group_iff (hphase ▸ hgroup)).2 ⟨by simp, ?_, hblank hsignature⟩, hbraces⟩
  rw [hdepth, hmore, hlength]
  simp

/-- The list ends with the bracket that began it. -/
theorem feedParameters_closing (h : s.Skips inner)
    (hgroup : s.phase = .firstGroup ∨ s.phase = .parameters)
    (hnext : next = .afterFirstGroup ∨ next = .results) (hclosing : isClosing text = true) :
    Closes s text inner (s.feedParameters text next) := by
  obtain ⟨hinner, hlength, hsignature⟩ := (skips_group_iff hgroup).1 h
  obtain ⟨b, rest, rfl⟩ := List.exists_cons_of_ne_nil hinner
  obtain ⟨hbraces, hblank, hdepth, hphase⟩ := feedParameters_cases s text next
  obtain ⟨hclosed, hless⟩ := s.signature.parameters.feed_closing hclosing
  rw [hlength, List.length_cons] at hclosed hless
  refine .skipped b rest rfl ⟨?_, hbraces⟩
  cases rest with
  | nil =>
    rw [hclosed] at hphase
    exact skips_nil_of_blank (hphase ▸ hnext) (hblank hsignature)
  | cons c rest =>
    have hopen : (decide (((c :: rest).length + 1 : Nat) - 1 ≤ (0 : Int))) = false := by
      rw [decide_eq_false_iff_not, List.length_cons]
      omega
    rw [hclosed, hopen] at hphase
    refine (skips_group_iff (hphase ▸ hgroup)).2 ⟨by simp, ?_, hblank hsignature⟩
    rw [hdepth, hless]
    push_cast
    omega

/-! ## Type parameters -/

/-- In type parameters a token that is no bracket is passed over. -/
theorem typeParameters_neutral (h : s.Skips inner) (hopening : isOpening text = false)
    (hclosing : isClosing text = false) : Passes s (s.typeParameters text) inner := by
  obtain ⟨_, hsquare, _, _, hsquare', _⟩ := ne_of_neutral hopening hclosing
  rw [typeParameters, if_neg hsquare, if_neg hsquare']
  exact ⟨h, rfl⟩

/-- In type parameters an opening bracket is skipped. -/
theorem typeParameters_opening (h : s.Skips inner) (hphase : s.phase = .typeParameters)
    (hopening : isOpening text = true) : Passes s (s.typeParameters text) (text :: inner) := by
  rw [Skips, hphase] at h
  obtain ⟨hregion, hdepth, htypes, hparameters⟩ := h
  unfold typeParameters
  split
  · rename_i htext
    refine ⟨?_, rfl⟩
    simp only [Skips, hphase]
    exact ⟨hregion.push (by simp [isTypeBracket, htext]), Nat.succ_ne_zero _, htypes, hparameters⟩
  · rename_i htext
    rw [if_neg (by rintro rfl; cases hopening)]
    refine ⟨?_, rfl⟩
    simp only [Skips, hphase]
    exact ⟨hregion.push_ignored hdepth (by simp [isTypeBracket, htext]), hdepth, htypes, hparameters⟩

/-- Type parameters end with the square bracket that began them. -/
theorem typeParameters_closing {b : String} (h : s.Skips (b :: inner))
    (hphase : s.phase = .typeParameters) (hb : b = partner text) (hclosing : isClosing text = true) :
    Passes s (s.typeParameters text) inner := by
  rw [Skips, hphase] at h
  obtain ⟨hregion, hdepth, htypes, hparameters⟩ := h
  obtain ⟨_, _, _, _, hsquare, _⟩ := isName_of_isClosing hclosing
  rw [typeParameters, if_neg hsquare]
  split
  · rename_i htext
    subst htext
    have hpop := hregion.pop (by rw [hb]; decide)
    refine ⟨?_, rfl⟩
    by_cases hlast : s.signature.bracketDepth - 1 = 0
    · rw [hlast] at hpop
      simp only [Skips, hlast, if_true]
      exact ⟨hpop.eq_nil, ⟨rfl, htypes⟩, hparameters⟩
    · simp only [Skips, if_neg hlast]
      exact ⟨hpop, hlast, htypes, hparameters⟩
  · rename_i htext
    refine ⟨?_, rfl⟩
    simp only [Skips, hphase]
    have hb' : isTypeBracket b = false := by
      simp only [isClosing, Bool.or_eq_true, beq_iff_eq] at hclosing
      rw [hb]
      rcases hclosing with (rfl | rfl) | rfl
      · decide
      · exact absurd rfl htext
      · decide
    exact ⟨hregion.pop_ignored hb', hdepth, htypes, hparameters⟩

/-! ## Results -/

/-- The results with the brackets that are open in them: those of a type, and those around it. -/
structure InResults (s : Go) (types groups : List String) : Prop where
  phase_eq : s.phase = .results
  types : Region isTypeBrace s.signature.typeBraceDepth types
  groups : Region isGroupBracket s.signature.bracketDepth groups

variable {types groups : List String}

/-- Among the results the open brackets are those of the type and then those of groups. -/
theorem skips_of_inResults (types groups : List String) (h : s.InResults types groups) :
    s.Skips (types ++ groups) := by
  rw [Skips, h.phase_eq]
  exact ⟨types, groups, rfl, h.types, h.groups⟩

/-- Outside a type with braces no bracket of a type is open. -/
theorem InResults.types_eq_nil (h : s.InResults types groups)
    (hdepth : ¬ 0 < s.signature.typeBraceDepth) : types = [] := by
  have hzero := h.types
  rw [Nat.eq_zero_of_not_pos hdepth] at hzero
  exact hzero.eq_nil

/-- At depth zero no bracket of a group is open. -/
theorem InResults.groups_eq_nil (h : s.InResults types groups)
    (hdepth : s.signature.bracketDepth = 0) : groups = [] := by
  have hzero := h.groups
  rw [hdepth] at hzero
  exact hzero.eq_nil

/-- Among the results a token that is no bracket is passed over. -/
theorem results_neutral (h : s.InResults types groups) (hopening : isOpening text = false)
    (hclosing : isClosing text = false) : Passes s (s.results text) (types ++ groups) := by
  obtain ⟨hround, hsquare, hbrace, hround', hsquare', hbrace'⟩ := ne_of_neutral hopening hclosing
  have hstay : Passes s s (types ++ groups) := ⟨skips_of_inResults types groups h, rfl⟩
  unfold results
  simp only [hround, hsquare, hbrace, hround', hsquare', hbrace', if_false, false_or, false_and]
  split
  · exact hstay
  · rename_i hdepth
    split
    · exact ⟨skips_of_inResults _ _ ⟨h.phase_eq, h.types, h.groups⟩, rfl⟩
    · split
      · -- the statement has ended between brackets
        rename_i hends
        rw [h.types_eq_nil hdepth, h.groups_eq_nil hends.1]
        exact abandon_passes s hbrace hbrace'
      · exact hstay

/-- Inside a type only braces are counted. -/
theorem results_opening_types (h : s.InResults types groups) (hdepth : 0 < s.signature.typeBraceDepth)
    (hopening : isOpening text = true) : Passes s (s.results text) (text :: (types ++ groups)) := by
  have hbrace' := (isName_of_isOpening hopening).2.2
  unfold results
  simp only [hdepth, if_true, hbrace', if_false]
  rw [← List.cons_append]
  split
  · rename_i htext
    exact ⟨skips_of_inResults _ _
      ⟨h.phase_eq, h.types.push (by simp [isTypeBrace, htext]), h.groups⟩, rfl⟩
  · rename_i htext
    exact ⟨skips_of_inResults _ _ ⟨h.phase_eq,
      h.types.push_ignored (Nat.pos_iff_ne_zero.1 hdepth) (by simp [isTypeBrace, htext]), h.groups⟩, rfl⟩

/-- Among the results an opening bracket is skipped, unless it is the brace of the body. -/
theorem results_opening (h : s.InResults types groups) (hopening : isOpening text = true) :
    Opens s text (types ++ groups) (s.results text) := by
  by_cases hdepth : 0 < s.signature.typeBraceDepth
  · exact .skipped (results_opening_types h hdepth hopening)
  · obtain rfl := h.types_eq_nil hdepth
    have hliteral : isTypeLiteral text = false := by
      simp only [isOpening, Bool.or_eq_true, beq_iff_eq] at hopening
      rcases hopening with (rfl | rfl) | rfl <;> decide
    unfold results
    simp only [hdepth, if_false, hliteral, Bool.false_eq_true]
    split
    · -- a brace begins a type, or a body, or is one of a group
      rename_i htext
      subst htext
      split
      · refine .skipped ⟨skips_of_inResults ["\x7b"] groups ⟨h.phase_eq, ?_, h.groups⟩, rfl⟩
        exact (Region.nil isTypeBrace).push (by decide)
      · split
        · rename_i hzero
          rw [h.groups_eq_nil hzero]
          exact openBody_opens s
        · rename_i hzero
          refine .skipped ⟨skips_of_inResults [] ("\x7b" :: groups)
            ⟨h.phase_eq, h.types, ?_⟩, rfl⟩
          exact h.groups.push_ignored hzero (by decide)
    · rename_i htext
      have hgroup : text = "(" ∨ text = "[" := by
        simp only [isOpening, Bool.or_eq_true, beq_iff_eq] at hopening
        exact hopening.resolve_right htext
      rw [if_pos hgroup]
      refine .skipped ⟨skips_of_inResults [] (text :: groups)
        ⟨h.phase_eq, h.types, ?_⟩, rfl⟩
      apply h.groups.push
      rcases hgroup with rfl | rfl <;> decide

/-- Inside a type a closing bracket closes one of the type. -/
theorem results_closing_types {b : String} (h : s.InResults (b :: types) groups)
    (hdepth : 0 < s.signature.typeBraceDepth) (hb : b = partner text)
    (hclosing : isClosing text = true) : Passes s (s.results text) (types ++ groups) := by
  have hbrace := (isName_of_isClosing hclosing).2.2.2.2.2
  unfold results
  simp only [hdepth, if_true, hbrace, if_false]
  split
  · rename_i htext
    refine ⟨skips_of_inResults _ _ ⟨h.phase_eq, h.types.pop ?_, h.groups⟩, rfl⟩
    rw [hb, htext]
    decide
  · rename_i htext
    refine ⟨skips_of_inResults _ _ ⟨h.phase_eq, h.types.pop_ignored ?_, h.groups⟩, rfl⟩
    simp only [isClosing, Bool.or_eq_true, beq_iff_eq] at hclosing
    rw [hb]
    rcases hclosing.resolve_right htext with rfl | rfl <;> decide

/-- Outside types a closing bracket closes one of a group, or ends the statement. -/
theorem results_closing_groups (h : s.InResults [] groups)
    (hdepth : ¬ 0 < s.signature.typeBraceDepth) (hb : ∀ b ∈ groups.head?, b = partner text)
    (hclosing : isClosing text = true) : Closes s text groups (s.results text) := by
  obtain ⟨_, hliteral, _, hround, hsquare, hbrace⟩ := isName_of_isClosing hclosing
  unfold results
  simp only [hdepth, hliteral, hround, hsquare, hbrace, if_false, Bool.false_eq_true, false_or]
  by_cases hzero : s.signature.bracketDepth = 0
  · -- no bracket is open, so the statement has ended
    have hends : isTerminator text = true := by
      simp only [isClosing, Bool.or_eq_true, beq_iff_eq] at hclosing
      rcases hclosing with (rfl | rfl) | rfl <;> decide
    rw [h.groups_eq_nil hzero]
    simp only [hzero, lt_irrefl, and_false, if_false, hends, and_self, if_true]
    exact abandon_closes s hclosing
  · cases groups with
    | nil => exact absurd h.groups.depth_eq hzero
    | cons b rest =>
      have hb := hb b rfl
      refine .skipped b rest rfl ?_
      simp only [hzero, false_and, if_false, Nat.pos_of_ne_zero hzero, and_true]
      split
      · rename_i htext
        refine ⟨skips_of_inResults [] rest ⟨h.phase_eq, h.types, h.groups.pop ?_⟩, rfl⟩
        rw [hb]
        rcases htext with rfl | rfl <;> decide
      · rename_i htext
        refine ⟨skips_of_inResults [] rest ⟨h.phase_eq, h.types, h.groups.pop_ignored ?_⟩, rfl⟩
        simp only [isClosing, Bool.or_eq_true, beq_iff_eq] at hclosing
        rw [hb]
        rcases hclosing.resolve_left htext with rfl
        decide

/-- Among the results a closing bracket closes the one that it matches, or ends the statement. -/
theorem results_closing (h : s.InResults types groups)
    (hb : ∀ b ∈ (types ++ groups).head?, b = partner text) (hclosing : isClosing text = true) :
    Closes s text (types ++ groups) (s.results text) := by
  by_cases hdepth : 0 < s.signature.typeBraceDepth
  · cases types with
    | nil =>
      have hzero := h.types.depth_eq
      rw [hzero] at hdepth
      exact absurd hdepth (lt_irrefl 0)
    | cons b types =>
      exact .skipped b (types ++ groups) rfl (results_closing_types h hdepth (hb b rfl) hclosing)
  · obtain rfl := h.types_eq_nil hdepth
    exact results_closing_groups h hdepth hb hclosing

/-- Results begin with no bracket open. -/
theorem inResults_begin (h : Blank s.signature) : { s with phase := .results }.InResults [] [] := by
  refine ⟨rfl, ?_, ?_⟩
  · rw [show ({ s with phase := .results } : Go).signature.typeBraceDepth = 0 from h.2]
    exact .nil _
  · rw [show ({ s with phase := .results } : Go).signature.bracketDepth = 0 from h.1]
    exact .nil _

/-- The first token of the results may be no bracket. -/
theorem beginResults_neutral (h : Blank s.signature) (hopening : isOpening text = false)
    (hclosing : isClosing text = false) : Passes s (s.beginResults text) [] :=
  (results_neutral (inResults_begin h) hopening hclosing).of_braces_eq rfl

/-- It may be an opening one, of a group, of a type or of the body. -/
theorem beginResults_opening (h : Blank s.signature) (hopening : isOpening text = true) :
    Opens s text [] (s.beginResults text) :=
  (results_opening (inResults_begin h) hopening).of_braces_eq rfl

/-- It may be a closing one, which ends the statement. -/
theorem beginResults_closing (h : Blank s.signature) (hclosing : isClosing text = true) :
    Closes s text [] (s.beginResults text) :=
  (results_closing (inResults_begin h) (by simp) hclosing).of_braces_eq rfl

/-! ## Between the groups -/

/-- A parameter list begins with its opening bracket. -/
theorem beginParameters_passes {phase : GoPhase} (hphase : phase = .firstGroup ∨ phase = .parameters)
    (h : Blank s.signature) (hdepth : s.signature.parameters.depth = 0) :
    Passes s (s.beginParameters "(" phase) ["("] := by
  obtain ⟨_, hone⟩ := s.signature.parameters.feed_opening (show isOpening "(" = true by decide)
  rw [hdepth] at hone
  exact ⟨(skips_group_iff hphase).2 ⟨by simp, hone, h⟩, rfl⟩

/-- After `func` a token that is no bracket is a name, or the signature is given up. -/
theorem afterFunc_neutral (h : Blank s.signature) (hdepth : s.signature.parameters.depth = 0)
    (hopening : isOpening text = false) (hclosing : isClosing text = false) :
    Passes s (s.afterFunc text) [] := by
  obtain ⟨hround, _, hbrace, _, _, hbrace'⟩ := ne_of_neutral hopening hclosing
  rw [afterFunc, if_neg hround, if_neg hbrace]
  split
  · exact ⟨⟨rfl, h, hdepth⟩, rfl⟩
  · exact abandon_passes s hbrace hbrace'

/-- After `func` a bracket begins the first group or the body, or the signature is given up. -/
theorem afterFunc_opening (h : Blank s.signature) (hdepth : s.signature.parameters.depth = 0)
    (hopening : isOpening text = true) : Opens s text [] (s.afterFunc text) := by
  unfold afterFunc
  split
  · rename_i htext
    subst htext
    exact .skipped (beginParameters_passes (.inl rfl) h hdepth)
  · rw [if_neg (by simp [(isName_of_isOpening hopening).1])]
    split
    · rename_i htext
      subst htext
      exact openBody_opens s
    · exact abandon_opens s hopening

/-- After `func` a closing bracket gives the signature up. -/
theorem afterFunc_closing (s : Go) (hclosing : isClosing text = true) :
    Closes s text [] (s.afterFunc text) := by
  obtain ⟨hname, _, _, hround, _, hbrace⟩ := isName_of_isClosing hclosing
  rw [afterFunc, if_neg hround, if_neg (by simp [hname]), if_neg hbrace]
  exact abandon_closes s hclosing

/-- After a name a token that is no bracket gives the signature up. -/
theorem afterName_neutral (s : Go) (hopening : isOpening text = false)
    (hclosing : isClosing text = false) : Passes s (s.afterName text) [] := by
  obtain ⟨hround, hsquare, hbrace, _, _, hbrace'⟩ := ne_of_neutral hopening hclosing
  rw [afterName, if_neg hsquare, if_neg hround]
  exact abandon_passes s hbrace hbrace'

/-- After a name a bracket begins type parameters or parameters, or the signature is given up. -/
theorem afterName_opening (h : Blank s.signature) (hdepth : s.signature.parameters.depth = 0)
    (hopening : isOpening text = true) : Opens s text [] (s.afterName text) := by
  unfold afterName
  split
  · rename_i htext
    subst htext
    refine .skipped ⟨⟨?_, Nat.one_ne_zero, h.2, hdepth⟩, rfl⟩
    exact (Region.nil isTypeBracket).push (by decide)
  · split
    · rename_i htext
      subst htext
      exact .skipped (beginParameters_passes (.inr rfl) h hdepth)
    · exact abandon_opens s hopening

/-- After a name a closing bracket gives the signature up. -/
theorem afterName_closing (s : Go) (hclosing : isClosing text = true) :
    Closes s text [] (s.afterName text) := by
  obtain ⟨_, _, _, hround, hsquare, _⟩ := isName_of_isClosing hclosing
  rw [afterName, if_neg hsquare, if_neg hround]
  exact abandon_closes s hclosing

/-- After the first group a token that is no bracket may name a method or belong to the results. -/
theorem afterFirstGroup_neutral (h : Blank s.signature) (hopening : isOpening text = false)
    (hclosing : isClosing text = false) : Passes s (s.afterFirstGroup text) [] := by
  rw [afterFirstGroup, if_neg (ne_of_neutral hopening hclosing).2.2.1]
  split
  · exact ⟨⟨rfl, h⟩, rfl⟩
  · exact beginResults_neutral h hopening hclosing

/-- After the first group a bracket opens the body or belongs to the results. -/
theorem afterFirstGroup_opening (h : Blank s.signature) (hopening : isOpening text = true) :
    Opens s text [] (s.afterFirstGroup text) := by
  unfold afterFirstGroup
  split
  · rename_i htext
    subst htext
    exact openBody_opens s
  · rw [if_neg (by simp [(isName_of_isOpening hopening).1])]
    exact beginResults_opening h hopening

/-- After the first group a closing bracket belongs to the results. -/
theorem afterFirstGroup_closing (h : Blank s.signature) (hclosing : isClosing text = true) :
    Closes s text [] (s.afterFirstGroup text) := by
  obtain ⟨hname, _, _, _, _, hbrace⟩ := isName_of_isClosing hclosing
  rw [afterFirstGroup, if_neg hbrace, if_neg (by simp [hname])]
  exact beginResults_closing h hclosing

/-- After a name that may be a method's a token that is no bracket belongs to the results. -/
theorem afterCandidate_neutral (h : Blank s.signature) (hopening : isOpening text = false)
    (hclosing : isClosing text = false) : Passes s (s.afterCandidate text) [] := by
  obtain ⟨hround, _, hbrace, _⟩ := ne_of_neutral hopening hclosing
  rw [afterCandidate, if_neg hround, if_neg hbrace]
  exact beginResults_neutral h hopening hclosing

/-- After such a name a bracket begins the parameters of the method, or opens the body, or belongs to the
results. -/
theorem afterCandidate_opening (h : Blank s.signature) (hopening : isOpening text = true) :
    Opens s text [] (s.afterCandidate text) := by
  unfold afterCandidate
  split
  · rename_i htext
    subst htext
    -- the list is that of a method, and begins anew
    have hbegin := beginParameters_passes (s := { s with signature :=
      { s.signature with name := s.signature.candidate, parameters := {} } }) (.inr rfl) h rfl
    exact .skipped (hbegin.of_braces_eq rfl)
  · split
    · rename_i htext
      subst htext
      exact openBody_opens s
    · exact beginResults_opening h hopening

/-- After such a name a closing bracket belongs to the results. -/
theorem afterCandidate_closing (h : Blank s.signature) (hclosing : isClosing text = true) :
    Closes s text [] (s.afterCandidate text) := by
  obtain ⟨_, _, _, hround, _, hbrace⟩ := isName_of_isClosing hclosing
  rw [afterCandidate, if_neg hround, if_neg hbrace]
  exact beginResults_closing h hclosing

/-! ## All phases -/

/-- A token that is no bracket leaves the open brackets and the braces alone. -/
theorem readCode_neutral (h : s.Skips inner) (hopening : isOpening text = false)
    (hclosing : isClosing text = false) : Passes s (s.readCode text) inner := by
  unfold readCode
  cases hphase : s.phase with
  | outside =>
    rw [Skips, hphase] at h
    subst h
    obtain ⟨_, _, hbrace, _, _, hbrace'⟩ := ne_of_neutral hopening hclosing
    exact outside_passes hphase hbrace hbrace'
  | afterFunc =>
    rw [Skips, hphase] at h
    obtain ⟨rfl, hblank, hdepth⟩ := h
    exact afterFunc_neutral hblank hdepth hopening hclosing
  | afterName =>
    rw [Skips, hphase] at h
    obtain ⟨rfl, _⟩ := h
    exact afterName_neutral s hopening hclosing
  | typeParameters => exact typeParameters_neutral h hopening hclosing
  | firstGroup => exact feedParameters_neutral h (.inl hphase) hopening hclosing
  | afterFirstGroup =>
    rw [Skips, hphase] at h
    obtain ⟨rfl, hblank⟩ := h
    exact afterFirstGroup_neutral hblank hopening hclosing
  | afterCandidate =>
    rw [Skips, hphase] at h
    obtain ⟨rfl, hblank⟩ := h
    exact afterCandidate_neutral hblank hopening hclosing
  | parameters => exact feedParameters_neutral h (.inr hphase) hopening hclosing
  | results =>
    rw [Skips, hphase] at h
    obtain ⟨types, groups, rfl, htypes, hgroups⟩ := h
    exact results_neutral ⟨hphase, htypes, hgroups⟩ hopening hclosing

/-- An opening bracket is skipped, or it stands outside signatures, or it is the brace of a body. -/
theorem readCode_opening (h : s.Skips inner) (hopening : isOpening text = true) :
    Opens s text inner (s.readCode text) := by
  unfold readCode
  cases hphase : s.phase with
  | outside =>
    rw [Skips, hphase] at h
    subst h
    exact outside_opens hphase hopening
  | afterFunc =>
    rw [Skips, hphase] at h
    obtain ⟨rfl, hblank, hdepth⟩ := h
    exact afterFunc_opening hblank hdepth hopening
  | afterName =>
    rw [Skips, hphase] at h
    obtain ⟨rfl, hblank, hdepth⟩ := h
    exact afterName_opening hblank hdepth hopening
  | typeParameters => exact .skipped (typeParameters_opening h hphase hopening)
  | firstGroup => exact .skipped (feedParameters_opening h (.inl hphase) hopening)
  | afterFirstGroup =>
    rw [Skips, hphase] at h
    obtain ⟨rfl, hblank⟩ := h
    exact afterFirstGroup_opening hblank hopening
  | afterCandidate =>
    rw [Skips, hphase] at h
    obtain ⟨rfl, hblank⟩ := h
    exact afterCandidate_opening hblank hopening
  | parameters => exact .skipped (feedParameters_opening h (.inr hphase) hopening)
  | results =>
    rw [Skips, hphase] at h
    obtain ⟨types, groups, rfl, htypes, hgroups⟩ := h
    exact results_opening ⟨hphase, htypes, hgroups⟩ hopening

/-- A closing bracket closes one that was skipped, or it stands outside signatures. -/
theorem readCode_closing (h : s.Skips inner) (hb : ∀ b ∈ inner.head?, b = partner text)
    (hclosing : isClosing text = true) : Closes s text inner (s.readCode text) := by
  unfold readCode
  cases hphase : s.phase with
  | outside =>
    rw [Skips, hphase] at h
    subst h
    exact outside_closes hphase hclosing
  | afterFunc =>
    rw [Skips, hphase] at h
    obtain ⟨rfl, _⟩ := h
    exact afterFunc_closing s hclosing
  | afterName =>
    rw [Skips, hphase] at h
    obtain ⟨rfl, _⟩ := h
    exact afterName_closing s hclosing
  | typeParameters =>
    cases inner with
    | nil =>
      rw [Skips, hphase] at h
      exact absurd h.1.depth_eq h.2.1
    | cons b rest =>
      exact .skipped b rest rfl (typeParameters_closing h hphase (hb b rfl) hclosing)
  | firstGroup => exact feedParameters_closing h (.inl hphase) (.inl rfl) hclosing
  | afterFirstGroup =>
    rw [Skips, hphase] at h
    obtain ⟨rfl, hblank⟩ := h
    exact afterFirstGroup_closing hblank hclosing
  | afterCandidate =>
    rw [Skips, hphase] at h
    obtain ⟨rfl, hblank⟩ := h
    exact afterCandidate_closing hblank hclosing
  | parameters => exact feedParameters_closing h (.inr hphase) (.inr rfl) hclosing
  | results =>
    rw [Skips, hphase] at h
    obtain ⟨types, groups, rfl, htypes, hgroups⟩ := h
    exact results_closing ⟨hphase, htypes, hgroups⟩ hb hclosing

/-- A line break ends a signature only between brackets. -/
theorem readNewline_skips (h : s.Skips inner) (implicit : Bool) :
    (s.readNewline implicit).Skips inner := by
  unfold readNewline
  split
  · rename_i hends
    obtain ⟨_, hends⟩ := Bool.and_eq_true_iff.1 hends
    have hinner : inner = [] := by
      unfold endsAtNewline at hends
      cases hphase : s.phase with
      | outside => simp [hphase] at hends
      | firstGroup => simp [hphase] at hends
      | parameters => simp [hphase] at hends
      | typeParameters => simp [hphase] at hends
      | afterFunc =>
        rw [Skips, hphase] at h
        exact h.1
      | afterName =>
        rw [Skips, hphase] at h
        exact h.1
      | afterFirstGroup =>
        rw [Skips, hphase] at h
        exact h.1
      | afterCandidate =>
        rw [Skips, hphase] at h
        exact h.1
      | results =>
        rw [Skips, hphase] at h
        obtain ⟨types, groups, rfl, htypes, hgroups⟩ := h
        rw [hphase] at hends
        simp only [Bool.and_eq_true, beq_iff_eq] at hends
        have hresults : s.InResults types groups := ⟨hphase, htypes, hgroups⟩
        rw [hresults.types_eq_nil (by omega), hresults.groups_eq_nil hends.1]
        rfl
    exact hinner
  · exact h

end Recognizer.Go

end Cyclomatic
