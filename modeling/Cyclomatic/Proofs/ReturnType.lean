import Mathlib
import Cyclomatic.Proofs.Recognizer.HiddenBrackets
import Cyclomatic.Proofs.Recognizer.ScriptReturnType
import Cyclomatic.Proofs.StatementEnding

/-!
# Return types

With a return type and without one, a function of a TypeScript text is reported with the same name, complexity
and number of parameters, and so are all others (`Analysis.returnType_transparent`). Its parameters can be any
tokens with balanced brackets (`balancedInside_parameters`), and even brackets that a signature among them
hides need not be. Three more things have to be so. The type does not begin with an object type, whose brace
would be taken for that of the body. Nothing among the parameters waits for the colon before the type, as a
question mark does that marks an optional element of a tuple (`Analysis.returnType_taken_for_body`). And no line
ends where the type could end with it.
-/

namespace Cyclomatic

open Recognizer Recognizer.Script

/-! ## Types -/

mutual
/-- A return type: a name, an array, a generic type with arguments, or an object type. -/
inductive ReturnType where
  | name (id : Identifier)
  | array (element : ReturnType)
  | generic (head : Identifier) (arguments : ReturnTypes)
  | object (members : MemberTypes)
/-- The arguments of a generic type. There is at least one. -/
inductive ReturnTypes where
  | last (argument : ReturnType)
  | more (argument : ReturnType) (rest : ReturnTypes)
/-- The members of an object type. The last may stand without a semicolon. -/
inductive MemberTypes where
  | nil
  | last (key : Identifier) (type : ReturnType)
  | more (key : Identifier) (type : ReturnType) (rest : MemberTypes)
end

mutual
/-- The texts of the tokens of a return type. -/
def ReturnType.texts : ReturnType → List String
  | .name id => [id.text]
  | .array element => element.texts ++ ["[", "]"]
  | .generic head arguments => head.text :: "<" :: (arguments.texts ++ [">"])
  | .object members => "\x7b" :: (members.texts ++ ["\x7d"])
def ReturnTypes.texts : ReturnTypes → List String
  | .last argument => argument.texts
  | .more argument rest => argument.texts ++ "," :: rest.texts
def MemberTypes.texts : MemberTypes → List String
  | .nil => []
  | .last key type => key.text :: ":" :: type.texts
  | .more key type rest => key.text :: ":" :: (type.texts ++ ";" :: rest.texts)
end

/-- Whether a type begins with an object type. -/
def ReturnType.beginsWithObject : ReturnType → Bool
  | .name _ => false
  | .array element => element.beginsWithObject
  | .generic _ _ => false
  | .object _ => true

theorem Identifier.text_ne (id : Identifier) (text : String) (h : Script.isName text = false) :
    id.text ≠ text := by
  rintro rfl
  rw [id.isName] at h
  cases h

/-! ## Depths -/

/-- A name goes on with a type at any depth. -/
theorem depthAfterAll_name (depth : Nat) (id : Identifier) (texts : List String) :
    depthAfterAll depth (id.text :: texts) = depthAfterAll depth texts := by
  have hnot {texts : List String} (h : ∀ text ∈ texts, isName text = false) :
      texts.contains id.text = false := by
    rw [← Bool.not_eq_true, List.contains_iff_mem]
    exact fun hmem => id.text_ne _ (h _ hmem) rfl
  have hgoes : GoesOn depth id.text :=
    ⟨id.text_ne _ (by decide),
      fun _ => ⟨id.text_ne _ (by decide), id.text_ne _ (by decide), hnot (by decide)⟩⟩
  exact depthAfterAll_other hgoes (hnot (by decide)) (hnot (by decide)) texts

mutual
/-- A type closes what it opens, and no token of it can end it, unless it begins with a brace. -/
theorem ReturnType.depthAfterAll_texts : ∀ (type : ReturnType) (depth : Nat),
    (depth = 0 → type.beginsWithObject = false) → depthAfterAll depth type.texts = some depth
  | .name id, depth, _ => by
    rw [ReturnType.texts, depthAfterAll_name, depthAfterAll_nil]
  | .array element, depth, h => by
    rw [ReturnType.texts, depthAfterAll_append, ReturnType.depthAfterAll_texts element depth h,
      Option.bind_some, depthAfterAll_opening ⟨by decide, fun _ => by decide⟩ (by decide),
      depthAfterAll_closing depth (by decide) (by decide), depthAfterAll_nil]
  | .generic head arguments, depth, _ => by
    rw [ReturnType.texts, depthAfterAll_name,
      depthAfterAll_opening ⟨by decide, fun _ => by decide⟩ (by decide), depthAfterAll_append,
      ReturnTypes.depthAfterAll_texts arguments depth, Option.bind_some,
      depthAfterAll_closing depth (by decide) (by decide), depthAfterAll_nil]
  | .object members, 0, h => absurd (h rfl) (by simp [ReturnType.beginsWithObject])
  | .object members, depth + 1, _ => by
    rw [ReturnType.texts, depthAfterAll_opening (goesOn_succ depth (by decide)) (by decide),
      depthAfterAll_append, MemberTypes.depthAfterAll_texts members (depth + 1), Option.bind_some,
      depthAfterAll_closing (depth + 1) (by decide) (by decide), depthAfterAll_nil]
theorem ReturnTypes.depthAfterAll_texts : ∀ (arguments : ReturnTypes) (depth : Nat),
    depthAfterAll (depth + 1) arguments.texts = some (depth + 1)
  | .last argument, depth => by
    rw [ReturnTypes.texts]
    exact ReturnType.depthAfterAll_texts argument (depth + 1) nofun
  | .more argument rest, depth => by
    rw [ReturnTypes.texts, depthAfterAll_append, ReturnType.depthAfterAll_texts argument (depth + 1) nofun,
      Option.bind_some, depthAfterAll_other (goesOn_succ depth (by decide)) (by decide) (by decide),
      ReturnTypes.depthAfterAll_texts rest depth]
theorem MemberTypes.depthAfterAll_texts : ∀ (members : MemberTypes) (depth : Nat),
    depthAfterAll (depth + 1) members.texts = some (depth + 1)
  | .nil, depth => rfl
  | .last key type, depth => by
    rw [MemberTypes.texts, depthAfterAll_name,
      depthAfterAll_other (goesOn_succ depth (by decide)) (by decide) (by decide),
      ReturnType.depthAfterAll_texts type (depth + 1) nofun]
  | .more key type rest, depth => by
    rw [MemberTypes.texts, depthAfterAll_name,
      depthAfterAll_other (goesOn_succ depth (by decide)) (by decide) (by decide), depthAfterAll_append,
      ReturnType.depthAfterAll_texts type (depth + 1) nofun, Option.bind_some,
      depthAfterAll_other (goesOn_succ depth (by decide)) (by decide) (by decide),
      MemberTypes.depthAfterAll_texts rest depth]
end

/-! ## Parameters -/

/-- Behind `function name(` the group of the parameters is all that is open. -/
theorem exists_parameters {language : Language} (h : IsScript language) (name : Identifier) {head : List Token}
    (hhead : Spells head ["function", name.text, "("]) :
    ∃ s g, (start language).run (.of language) head = script s ∧ s.groups = [g] ∧
      g.bare = Stage.entries name.text 0 false ∧ s.phase = .statement ∧ s.closedGroup = none ∧
      s.braces.depth = 0 ∧ s.braces.ledger.depth = 0 := by
  have hstart : start language = script (Script.start 1) := by
    rcases h with rfl | rfl <;> rfl
  have hfollow : Stage.start.follow name.text ["function", name.text, "("] = some (.parameters 0 false) := by
    simp [Stage.next]
  obtain ⟨s, hrun, hsnapshot⟩ :=
    exists_run_snapshot (.of language) name.isName (s := Script.start 1) rfl hhead hfollow
  have hgroups : s.groups.map (·.bare) = [Stage.entries name.text 0 false] := congrArg (·.groups) hsnapshot
  obtain ⟨g, hg, hbare⟩ := List.map_eq_singleton_iff.1 hgroups
  have hsignatures : s.braces.ledger.signatures = [] := congrArg (·.signatures) hsnapshot
  have houtlines : s.braces.ledger.outlines = [] := List.map_eq_nil_iff.1 hsignatures
  have hframes := List.map_eq_nil_iff.1 (List.append_eq_nil_iff.1 houtlines).2
  refine ⟨s, g, by rw [hstart, hrun], hg, hbare, phase_of_statement (congrArg (·.phase) hsnapshot), ?_,
    congrArg (·.depth) hsnapshot, ?_⟩
  · exact Option.map_eq_none_iff.1 (congrArg (·.closedGroup) hsnapshot)
  · rw [Ledger.depth, hframes, List.length_nil]

/-- Balanced parameters keep their brackets balanced if they hide none of them. -/
theorem balancedInside_parameters {language : Language} (h : IsScript language) (name : Identifier)
    {head params : List Token} (hhead : Spells head ["function", name.text, "("]) (hparams : WellNested params)
    (hfree : signatureFree false params = true) :
    BalancedInside (.of language) ((start language).run (.of language) head) params := by
  obtain ⟨s, g, hrun, -, -, hphase, hclosed, -⟩ := exists_parameters h name hhead
  rw [hrun]
  exact balancedInside_of_signatureFree (.of language) (.inl hphase) hclosed hfree hparams

/-- Behind its parameters a function awaits its body. -/
theorem exists_awaitsBody {language : Language} (h : IsScript language) (name : Identifier)
    {head params : List Token} {closing : Token} (hhead : Spells head ["function", name.text, "("])
    (hparams : BalancedInside (.of language) ((start language).run (.of language) head) params)
    (hclosing : closing.IsText ")")
    (hwaits : ((start language).run (.of language) (head ++ (params ++ [closing]))).awaitsColon = false) :
    ∃ s, (start language).run (.of language) (head ++ (params ++ [closing])) = script s ∧
      s.AwaitsBody name.text := by
  have htable : (DecisionTable.of language).decides ")" = false := by
    rcases h with rfl | rfl <;> decide
  have hsound := sound_run (.of language) (sound_start language 1) head
  have hscopes := scopesAgree_run (.of language) (scopesAgree_start language 1) (sound_start language 1) head
  obtain ⟨s, g, hrun, hg, hbare, -, -, hdepth, hfunctions⟩ := exists_parameters h name hhead
  rw [hrun] at hparams hsound hscopes
  have hwithin : Within g.asOpened s := by
    refine ⟨by rw [openedGroups, hg]; rfl, ?_⟩
    rw [List.eq_nil_of_length_eq_zero (hscopes.length_bodies.trans hfunctions)]
    exact fun _ hbody => absurd hbody List.not_mem_nil
  have hopen : s.openings = { groups := 1 } := by rw [Script.openings, hdepth, hg]; rfl
  obtain ⟨s', hrun', ⟨closed, hclosed, hopened⟩, hgroups, hdepth'⟩ :=
    run_closing htable hwithin (congrArg (·.isParenthesis) hbare) hopen hsound hscopes hparams hclosing
  have hend : (start language).run (.of language) (head ++ (params ++ [closing])) = script s' := by
    rw [run_append, hrun, hrun']
  rw [hend] at hwaits
  refine ⟨s', hend, ⟨closed, hclosed, ?_, ?_, ?_⟩, hgroups, hdepth', awaitsColon_eq_false_iff.1 hwaits⟩
  · exact (congrArg (·.opener) hopened).trans (congrArg (·.opener) hbare)
  · exact (congrArg (·.isCallable) hopened).trans (congrArg (·.isCallable) hbare)
  · exact (congrArg (·.isControl) hopened).trans (congrArg (·.isControl) hbare)

namespace Analysis

variable {language : Language} {source source' : String} {head front params type rest rest' : List Token}
  {closing colon brace brace' : Token} {name : Identifier} {s : Script}

/-- A pass that ends with the same outlines leads to the same report. -/
theorem outlines_ofSource_congr {z z' : Script}
    (hrun : (start language).run (.of language) (sourceTokens language source) = script z)
    (hrun' : (start language).run (.of language) (sourceTokens language source') = script z')
    (hend : SameOutline z z') (filename : String) :
    (ofSource language filename source').2 = (ofSource language filename source).2 ∧
      (ofSource language filename source').1.outlines = (ofSource language filename source).1.outlines := by
  obtain ⟨herror, houtlines⟩ := hend.finish
  have hrecognize : recognize language source = (script z).finish := by rw [recognize, hrun]
  have hrecognize' : recognize language source' = (script z').finish := by rw [recognize, hrun']
  have herrors : (recognize language source').2 = (recognize language source).2 := by
    rw [hrecognize, hrecognize']
    exact herror
  refine ⟨by rw [ofSource_error, ofSource_error, herrors], ?_⟩
  cases hsucc : (recognize language source).2 with
  | some e =>
    rw [ofSource_of_error hsucc, ofSource_of_error (herrors.trans hsucc), outlines_aggregate,
      outlines_aggregate]
  | none =>
    rw [outlines_ofSource hsucc, outlines_ofSource (herrors.trans hsucc), hrecognize, hrecognize']
    exact houtlines

/-- A function that a pass knows of at its end is reported. -/
theorem exists_outline_of_signature {z : Script}
    (hrun : (start language).run (.of language) (sourceTokens language source) = script z)
    {signature : String × Int} (hmem : signature ∈ (script z).ledger.signatures) (filename : String)
    (hsucc : (ofSource language filename source).2 = none) :
    ∃ f ∈ (ofSource language filename source).1.outlines, f.signature = signature := by
  rw [ofSource_error] at hsucc
  have hrecognize : recognize language source = (script z).finish := by rw [recognize, hrun]
  have hsound : (script z).Sound := hrun ▸ sound_run (.of language) (sound_start language 1) _
  obtain ⟨reach, k, hsettles, -⟩ := finish_settles hsound (hrecognize ▸ hsucc)
  rw [← hsettles.signatures_eq] at hmem
  obtain ⟨f, hf, hsignature⟩ := List.mem_map.1 hmem
  refine ⟨f, ?_, hsignature⟩
  rw [outlines_ofSource hsucc, hrecognize]
  exact hf

/-- Where a function awaits its body, a return type before that makes no difference: the same functions are
reported, up to lines and tokens, and one of them is called `name`. -/
theorem outlines_of_awaitsBody (h : IsScript language) (filename : String) (R : ReturnType)
    (hsource : sourceTokens language source = front ++ brace :: rest)
    (hsource' : sourceTokens language source' = front ++ colon :: (type ++ brace' :: rest'))
    (hfront : (start language).run (.of language) front = script s) (hs : s.AwaitsBody name.text)
    (hcolon : colon.IsText ":") (htype : Spells type R.texts) (hlines : breaksInside 0 0 type = true)
    (hobject : R.beginsWithObject = false) (hbrace : brace.IsText "\x7b") (hbrace' : brace'.IsText "\x7b")
    (hrest : rest'.map Token.unplaced = rest.map Token.unplaced) :
    (ofSource language filename source').2 = (ofSource language filename source).2 ∧
      (ofSource language filename source').1.outlines = (ofSource language filename source).1.outlines ∧
      ((ofSource language filename source).2 = none →
        ∃ f ∈ (ofSource language filename source).1.outlines, f.name = name.text) := by
  have hsound := sound_run (.of language) (sound_start language 1) front
  have hscopes := scopesAgree_run (.of language) (scopesAgree_start language 1) (sound_start language 1) front
  rw [hfront] at hsound hscopes
  have htable : (DecisionTable.of language).decides ":" = false ∧
      (DecisionTable.of language).decides "\x7b" = false := by
    rcases h with rfl | rfl <;> decide
  obtain ⟨y, y', count, hy, hy', hsame, hmem⟩ :=
    sameOutline_brace hs hsound hscopes hcolon hbrace hbrace' htable htype
      (R.depthAfterAll_texts 0 fun _ => hobject) hlines
  obtain ⟨z, z', hz, hz', hend⟩ := hsame.run (.of language) hrest
  have hrun : (start language).run (.of language) (sourceTokens language source) = script z := by
    rw [hsource, run_append, hfront, run_cons, hy, hz]
  have hsplit : front ++ colon :: (type ++ brace' :: rest') =
      front ++ (colon :: (type ++ [brace']) ++ rest') := by
    simp
  have hrun' : (start language).run (.of language) (sourceTokens language source') = script z' := by
    rw [hsource', hsplit, run_append, hfront, run_append, hy', hz']
  obtain ⟨herror, houtlines⟩ := outlines_ofSource_congr hrun hrun' hend filename
  refine ⟨herror, houtlines, fun hsucc => ?_⟩
  -- the signature of the body that has opened is kept to the end
  have hopened : (script y).Sound := hy ▸ hsound.feed (.of language) brace
  have hkept := signatures_subset_run (.of language) hopened rest hmem
  rw [hz] at hkept
  obtain ⟨f, hf, hsignature⟩ := exists_outline_of_signature hrun hkept filename hsucc
  refine ⟨f, hf, (congrArg Prod.fst hsignature).trans ?_⟩
  exact if_neg (by simpa using name.text_ne "" (by decide))

/-- With a return type and without one, a text that begins with `function name(params)` has the same functions,
up to lines and tokens, and one of them is called `name`. The brackets of the parameters are balanced, nothing
in them waits for the colon, the type does not begin with an object type, and no line ends where the type
could. -/
theorem returnType_transparent (h : IsScript language) (filename : String) (R : ReturnType)
    (hsource : sourceTokens language source = head ++ (params ++ closing :: brace :: rest))
    (hsource' : sourceTokens language source' =
      head ++ (params ++ closing :: colon :: (type ++ brace' :: rest')))
    (hhead : Spells head ["function", name.text, "("])
    (hparams : BalancedInside (.of language) ((start language).run (.of language) head) params)
    (hclosing : closing.IsText ")")
    (hwaits : ((start language).run (.of language) (head ++ (params ++ [closing]))).awaitsColon = false)
    (hcolon : colon.IsText ":") (htype : Spells type R.texts) (hlines : breaksInside 0 0 type = true)
    (hobject : R.beginsWithObject = false) (hbrace : brace.IsText "\x7b") (hbrace' : brace'.IsText "\x7b")
    (hrest : rest'.map Token.unplaced = rest.map Token.unplaced) :
    (ofSource language filename source').2 = (ofSource language filename source).2 ∧
      (ofSource language filename source').1.outlines = (ofSource language filename source).1.outlines ∧
      ((ofSource language filename source).2 = none →
        ∃ f ∈ (ofSource language filename source).1.outlines, f.name = name.text) := by
  obtain ⟨s, hrun, hs⟩ := exists_awaitsBody h name hhead hparams hclosing hwaits
  refine outlines_of_awaitsBody h filename R ?_ ?_ hrun hs hcolon htype hlines hobject hbrace hbrace' hrest
  · rw [hsource]
    simp
  · rw [hsource']
    simp

/-- A function without a return type. The default of its second parameter is an arrow function. -/
def plainSource : String :=
  "function load(a: T, g = (x) => \x7b y(x) \x7d) \x7b if (a) \x7b \x7d \x7d"

/-- The function with a return type on two lines. -/
def typedSource : String :=
  "function load(a: T, g = (x) => \x7b y(x) \x7d): Record<Key,\n \x7b value: Item[]; \x7d> " ++
    "\x7b if (a) \x7b \x7d \x7d"

/-- The name of both. -/
def loadName : Identifier :=
  ⟨"load", by decide, by decide⟩

/-- The tokens `function load(` of both. -/
def sharedHead : List Token :=
  (sourceTokens .typescript plainSource).take 3

/-- The tokens of their parameters. -/
def sharedParameters : List Token :=
  ((sourceTokens .typescript plainSource).drop 3).take 16

/-- The tokens of the return type. -/
def typeTokens : List Token :=
  ((sourceTokens .typescript typedSource).drop 21).take 14

/-- The type `Record<Key, { value: Item[]; }>`. -/
def recordType : ReturnType :=
  .generic ⟨"Record", by decide, by decide⟩ (.more (.name ⟨"Key", by decide, by decide⟩)
    (.last (.object (.more ⟨"value", by decide, by decide⟩
      (.array (.name ⟨"Item", by decide, by decide⟩)) .nil))))

/-- An object type inside a generic one is no harm, and neither is an arrow function among the parameters. -/
theorem returnType_transparent_record :
    (Spells sharedHead ["function", loadName.text, "("] ∧ WellNested sharedParameters ∧
      signatureFree false sharedParameters = true ∧ Spells typeTokens recordType.texts ∧
      breaksInside 0 0 typeTokens = true ∧ recordType.beginsWithObject = false) ∧
    (ofSource .typescript "" typedSource).1.outlines = (ofSource .typescript "" plainSource).1.outlines ∧
      (ofSource .typescript "" plainSource).1.outlines = [⟨Ledger.anonymous, 1, 1⟩, ⟨"load", 2, 2⟩] := by
  -- one evaluation for each of the two texts
  obtain ⟨hhead, hnested, hfree, hplain, hsource⟩ :
      Spells sharedHead ["function", loadName.text, "("] ∧ WellNested sharedParameters ∧
        signatureFree false sharedParameters = true ∧
        (∀ t ∈ sharedHead ++ (sharedParameters ++ [⟨.code, ")", 1, 39, false⟩]),
          t.isCode = true → t.text ≠ "?" ∧ t.text ≠ "case") ∧
        sourceTokens .typescript plainSource = sharedHead ++ (sharedParameters ++
          ⟨.code, ")", 1, 39, false⟩ :: ⟨.code, "\x7b", 1, 41, false⟩ ::
            (sourceTokens .typescript plainSource).drop 21) := by
    decide +kernel
  obtain ⟨htype, hlines, hsource', hrest⟩ :
      Spells typeTokens recordType.texts ∧ breaksInside 0 0 typeTokens = true ∧
        sourceTokens .typescript typedSource = sharedHead ++ (sharedParameters ++
          ⟨.code, ")", 1, 39, false⟩ :: ⟨.code, ":", 1, 40, false⟩ ::
            (typeTokens ++ ⟨.code, "\x7b", 2, 21, false⟩ ::
              (sourceTokens .typescript typedSource).drop 36)) ∧
        ((sourceTokens .typescript typedSource).drop 36).map Token.unplaced =
          ((sourceTokens .typescript plainSource).drop 21).map Token.unplaced := by
    decide +kernel
  have hclosing : Token.IsText ⟨.code, ")", 1, 39, false⟩ ")" := by decide
  have hparams := balancedInside_parameters (.inl rfl) loadName hhead hnested hfree
  obtain ⟨-, houtlines, -⟩ := returnType_transparent (.inl rfl) "" recordType hsource hsource' hhead hparams
    hclosing (awaitsColon_run (.inl rfl) hplain) (by decide) htype hlines rfl (by decide) (by decide) hrest
  refine ⟨⟨hhead, hnested, hfree, htype, hlines, rfl⟩, houtlines, ?_⟩
  decide +kernel

/-- An object type right behind the colon is taken for the body, and the body for a block after it. A question
mark in the parameters that marks an optional element of a tuple is taken for a conditional, which waits for
the colon of the return type. -/
theorem returnType_taken_for_body :
    Spells (sourceTokens .typescript "function f(): \x7b a: number \x7d \x7b if (x) \x7b \x7d \x7d")
        (["function", "f", "(", ")", ":"] ++
          (ReturnType.object (.last ⟨"a", by decide, by decide⟩
            (.name ⟨"number", by decide, by decide⟩))).texts ++
          ["\x7b", "if", "(", "x", ")", "\x7b", "\x7d", "\x7d"]) ∧
      (ofSource .typescript "" "function f() \x7b if (x) \x7b \x7d \x7d").1.outlines = [⟨"f", 2, 0⟩] ∧
      (ofSource .typescript "" "function f(): \x7b a: number \x7d \x7b if (x) \x7b \x7d \x7d").1.outlines =
        [⟨"f", 1, 0⟩] ∧
      (ofSource .typescript "" "function f(a: [number?]) \x7b if (x) \x7b \x7d \x7d").1.outlines =
        [⟨"f", 3, 1⟩] ∧
      (ofSource .typescript "" "function f(a: [number?]): T \x7b if (x) \x7b \x7d \x7d").1.outlines = [] := by
  decide +kernel

end Analysis

end Cyclomatic
