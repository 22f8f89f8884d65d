import Mathlib
import Cyclomatic.Proofs.Analysis
import Cyclomatic.Proofs.OpenBrackets
import Cyclomatic.Proofs.Recognizer.ScriptPass
import Cyclomatic.Proofs.Recognizer.Snapshot

/-!
# Parameters with types

In a declaration `function name(p: T, …) { }` parameters are counted by the commas between them. Commas
between the arguments of a generic type are counted too, since angle brackets are no brackets for the
recognizer: what is reported is the number of parameters and of these commas together
(`Analysis.parameterCount_of_declaration`). It is the number of parameters if no generic type has more than
one argument.

The pass over a declaration is followed by a machine that keeps two registers, the number of entries that
have ended and whether the current one holds a token (`Stage.next`). What it does on a type is shown by
induction on the type (`TypeExpr.follow_texts`).
-/

namespace Cyclomatic

open Recognizer

/-! ## Declarations -/

/-- A name that can be declared. -/
structure Identifier where
  text : String
  isName : Script.isName text = true
  ne_function : text ≠ "function"

mutual
/-- A type: a name, an array, or a generic type with arguments. -/
inductive TypeExpr where
  | name (id : Identifier)
  | array (element : TypeExpr)
  | generic (head : Identifier) (arguments : TypeArguments)
/-- The arguments of a generic type. There is at least one. -/
inductive TypeArguments where
  | last (argument : TypeExpr)
  | more (argument : TypeExpr) (rest : TypeArguments)
end

mutual
/-- The texts of the tokens of a type. -/
def TypeExpr.texts : TypeExpr → List String
  | .name id => [id.text]
  | .array element => element.texts ++ ["[", "]"]
  | .generic head arguments => head.text :: "<" :: (arguments.texts ++ [">"])
def TypeArguments.texts : TypeArguments → List String
  | .last argument => argument.texts
  | .more argument rest => argument.texts ++ "," :: rest.texts
end

mutual
/-- The number of commas in a type. -/
def TypeExpr.commas : TypeExpr → Nat
  | .name _ => 0
  | .array element => element.commas
  | .generic _ arguments => arguments.commas
def TypeArguments.commas : TypeArguments → Nat
  | .last argument => argument.commas
  | .more argument rest => argument.commas + 1 + rest.commas
end

/-- A parameter with its type. -/
structure Parameter where
  name : Identifier
  type : TypeExpr

def Parameter.texts (p : Parameter) : List String :=
  p.name.text :: ":" :: p.type.texts

/-- The texts of the tokens of parameters, with commas between them. -/
def parameterTexts : List Parameter → List String
  | [] => []
  | [p] => p.texts
  | p :: q :: ps => p.texts ++ "," :: parameterTexts (q :: ps)

/-- The number of parameters and of the commas in their types. -/
def countedParameters (ps : List Parameter) : Nat :=
  ps.length + (ps.map (·.type.commas)).sum

/-- The texts of the tokens of a declaration without a statement in its body. -/
def declarationTexts (name : Identifier) (ps : List Parameter) : List String :=
  "function" :: name.text :: "(" :: (parameterTexts ps ++ [")", "\x7b", "\x7d"])

/-- Whether tokens are code with these texts, on whatever lines. -/
def Spells (tokens : List Token) (texts : List String) : Prop :=
  (tokens.filter (!·.isNewline)).map (fun t => (t.isCode, t.text)) = texts.map (true, ·)

instance (tokens : List Token) (texts : List String) : Decidable (Spells tokens texts) :=
  inferInstanceAs (Decidable (_ = _))

/-- Line breaks are not spelled. -/
theorem spells_newline {t : Token} (ht : t.isNewline = true) {ts : List Token} {texts : List String}
    (h : Spells (t :: ts) texts) : Spells ts texts := by
  rw [Spells, List.filter_cons_of_neg (by simp [ht])] at h
  exact h

/-- Any other token is code, and spells its text. -/
theorem spells_token {t : Token} (ht : t.isNewline = false) {ts : List Token} {texts : List String}
    (h : Spells (t :: ts) texts) : ∃ rest, texts = t.text :: rest ∧ t.isCode = true ∧ Spells ts rest := by
  rw [Spells, List.filter_cons_of_pos (by simp [ht]), List.map_cons] at h
  cases texts with
  | nil => cases h
  | cons text rest =>
    obtain ⟨hhead, htail⟩ := List.cons_eq_cons.1 h
    obtain ⟨hcode, htext⟩ := Prod.mk.inj hhead
    exact ⟨rest, by rw [htext], hcode, htail⟩

/-! ## Stages -/

/-- How far a declaration has been read. In its parameters `count` entries have ended, and `begun` tells
whether the current one holds a token. -/
inductive Stage where
  | start
  | keyword
  | named
  | parameters (count : Nat) (begun : Bool)
  /-- In the square brackets of an array. -/
  | square (count : Nat)
  | closed (count : Nat)
  | body (count : Nat)
  | done (count : Nat)
deriving DecidableEq, Repr

namespace Stage

/-- Reads a token of a declaration. -/
def next (name : String) : Stage → String → Option Stage
  | start, text => if text = "function" then some keyword else none
  | keyword, text => if text = name then some named else none
  | named, text => if text = "(" then some (parameters 0 false) else none
  | parameters count begun, text =>
    if text = "," then some (parameters (count + begun.toNat) false)
    else if text = "[" then some (square count)
    else if text = ")" then some (closed (count + begun.toNat))
    else if text ∈ Script.shapingTexts then none
    else some (parameters count true)
  | square count, text => if text = "]" then some (parameters count true) else none
  | closed count, text => if text = "\x7b" then some (body count) else none
  | body count, text => if text = "\x7d" then some (done count) else none
  | done _, _ => none

/-- Reads tokens of a declaration. -/
def follow (name : String) (stage : Stage) (texts : List String) : Option Stage :=
  texts.foldlM (next name) stage

variable {name : String} {count : Nat} {begun : Bool}

@[simp] theorem follow_nil (stage : Stage) : follow name stage [] = some stage := rfl

@[simp] theorem follow_cons (stage : Stage) (text : String) (texts : List String) :
    follow name stage (text :: texts) = (next name stage text).bind (follow name · texts) := rfl

/-- Texts may be followed piece by piece. -/
theorem follow_append (stage : Stage) (texts texts' : List String) :
    follow name stage (texts ++ texts') =
      (follow name stage texts).bind (follow name · texts') := by
  simp [follow, List.foldlM_append]

/-- A token that shapes nothing is part of the current entry. -/
theorem next_plain {text : String} (h : text ∉ Script.shapingTexts) :
    next name (parameters count begun) text = some (parameters count true) := by
  have hne {other : String} (hother : other ∈ Script.shapingTexts) : text ≠ other := by
    rintro rfl
    exact h hother
  rw [next, if_neg (hne (by decide)), if_neg (hne (by decide)), if_neg (hne (by decide)), if_neg h]

/-- What can follow among the parameters. -/
theorem next_parameters_cases {text : String} {stage : Stage}
    (h : next name (parameters count begun) text = some stage) :
    (text = "," ∧ stage = parameters (count + begun.toNat) false) ∨
      (text = "[" ∧ stage = square count) ∨
      (text = ")" ∧ stage = closed (count + begun.toNat)) ∨
      (text ∉ Script.shapingTexts ∧ stage = parameters count true) := by
  rw [next] at h
  split at h
  · exact .inl ⟨‹_›, (Option.some.inj h).symm⟩
  · split at h
    · exact .inr (.inl ⟨‹_›, (Option.some.inj h).symm⟩)
    · split at h
      · exact .inr (.inr (.inl ⟨‹_›, (Option.some.inj h).symm⟩))
      · split at h
        · cases h
        · exact .inr (.inr (.inr ⟨‹_›, (Option.some.inj h).symm⟩))

/-- A name is part of the current entry. -/
theorem next_identifier (id : Identifier) :
    next name (parameters count begun) id.text = some (parameters count true) :=
  next_plain (Script.not_mem_shapingTexts_of_isName id.isName id.ne_function)

end Stage

open Stage

mutual
/-- A type is part of the current entry but for its commas, each of which ends an entry. -/
theorem TypeExpr.follow_texts (name : String) (count : Nat) (begun : Bool) :
    ∀ type : TypeExpr, follow name (parameters count begun) type.texts =
      some (parameters (count + type.commas) true)
  | .name id => by
    rw [TypeExpr.texts, TypeExpr.commas, follow_cons, next_identifier]
    rfl
  | .array element => by
    rw [TypeExpr.texts, TypeExpr.commas, follow_append, TypeExpr.follow_texts name count begun element]
    rfl
  | .generic head arguments => by
    have hopen : next name (parameters count true) "<" = some (parameters count true) :=
      next_plain (by decide)
    have hclose (n : Nat) : next name (parameters n true) ">" = some (parameters n true) :=
      next_plain (by decide)
    rw [TypeExpr.texts, TypeExpr.commas, follow_cons, next_identifier, Option.bind_some, follow_cons,
      hopen, Option.bind_some, follow_append, TypeArguments.follow_texts name count true arguments,
      Option.bind_some, follow_cons, hclose]
    rfl
/-- So are the arguments of a generic type, but for the commas between them and in them. -/
theorem TypeArguments.follow_texts (name : String) (count : Nat) (begun : Bool) :
    ∀ arguments : TypeArguments, follow name (parameters count begun) arguments.texts =
      some (parameters (count + arguments.commas) true)
  | .last argument => by
    rw [TypeArguments.texts, TypeArguments.commas]
    exact TypeExpr.follow_texts name count begun argument
  | .more argument rest => by
    have hcomma (n : Nat) : next name (parameters n true) "," = some (parameters (n + 1) false) := rfl
    rw [TypeArguments.texts, TypeArguments.commas, follow_append,
      TypeExpr.follow_texts name count begun argument, Option.bind_some, follow_cons, hcomma,
      Option.bind_some, TypeArguments.follow_texts name _ false rest]
    congr 2
    omega
end

namespace Stage

/-- A parameter counts as many entries as its type has commas, and leaves one that has begun. -/
theorem follow_parameter (name : String) (count : Nat) (p : Parameter) :
    follow name (parameters count false) p.texts =
      some (parameters (count + p.type.commas) true) := by
  have hcolon : next name (parameters count true) ":" = some (parameters count true) :=
    next_plain (by decide)
  rw [Parameter.texts, follow_cons, next_identifier, Option.bind_some, follow_cons, hcolon,
    Option.bind_some, TypeExpr.follow_texts]

/-- Each parameter but the last ends with a comma of its own. -/
theorem follow_parameterTexts (name : String) (count : Nat) (p : Parameter) (ps : List Parameter) :
    ∃ ended, follow name (parameters count false) (parameterTexts (p :: ps)) =
      some (parameters ended true) ∧ ended + 1 = count + countedParameters (p :: ps) := by
  induction ps generalizing count p with
  | nil =>
    refine ⟨count + p.type.commas, follow_parameter name count p, ?_⟩
    simp [countedParameters]
    omega
  | cons q ps ih =>
    have hcomma (n : Nat) : next name (parameters n true) "," = some (parameters (n + 1) false) := rfl
    obtain ⟨ended, hfollow, hended⟩ := ih (count + p.type.commas + 1) q
    refine ⟨ended, ?_, ?_⟩
    · rw [parameterTexts, follow_append, follow_parameter, Option.bind_some, follow_cons, hcomma,
        Option.bind_some, hfollow]
    · rw [hended]
      simp [countedParameters]
      omega

/-- A declaration goes through all stages, and counts its parameters and the commas in their types. -/
theorem follow_declaration (name : Identifier) (ps : List Parameter) :
    follow name.text start (declarationTexts name ps) = some (done (countedParameters ps)) := by
  have hhead : declarationTexts name ps = ["function", name.text, "("] ++ parameterTexts ps ++
      [")", "\x7b", "\x7d"] := by
    simp [declarationTexts]
  have hbegin : follow name.text start ["function", name.text, "("] = some (parameters 0 false) := by
    simp [next]
  rw [hhead, follow_append, follow_append, hbegin, Option.bind_some]
  cases ps with
  | nil => rfl
  | cons p ps =>
    obtain ⟨ended, hfollow, hended⟩ := follow_parameterTexts name.text 0 p ps
    rw [hfollow, ← Nat.zero_add (countedParameters (p :: ps)), ← hended]
    rfl

/-! ## Stages of a pass -/

/-- The group of the parameters. -/
def entries (name : String) (count : Nat) (begun : Bool) : Group where
  opener := name
  isCallable := true
  startLine := 0
  braceDepth := 0
  count
  entryBegun := begun

/-- What is seen of a pass that has come to a stage. -/
def snapshot (name : String) : Stage → Snapshot
  | start => {}
  | keyword => { phase := .functionHead "" 0 }
  | named => { phase := .functionHead name 0 }
  | parameters count begun => { groups := [entries name count begun] }
  | square count =>
    { groups := [{ startLine := 0, braceDepth := 0, isParenthesis := false }, entries name count true] }
  | closed count => { closedGroup := some (entries name count false) }
  | body count => { depth := 1, signatures := [(name, count)] }
  | done count => { signatures := [(name, count)] }

end Stage

namespace Recognizer.Script

variable {s : Script} {t : Token} {name : String} {count : Nat} {begun : Bool}

/-- In ordinary code without a group that has just closed, a token is read as a statement. -/
theorem exists_readStatement (hphase : s.snapshot.phase = .statement)
    (hclosed : s.snapshot.closedGroup = none) (t : Token) :
    ∃ x : Script, x.snapshot = s.snapshot ∧ s.readToken t = x.readStatement none t := by
  obtain ⟨x, hx, hread⟩ := exists_readPhase_none hclosed t
  refine ⟨x, hx, ?_⟩
  rw [hread, readPhase, phase_of_statement (by rw [hx]; exact hphase)]

/-- The keyword begins the head of a function. -/
theorem snapshot_keyword (h : s.snapshot = Stage.start.snapshot name) (ht : t.isCode = true)
    (htext : t.text = "function") : (s.readToken t).snapshot = Stage.keyword.snapshot name := by
  obtain ⟨x, hx, hread⟩ := exists_readStatement (by rw [h]; rfl) (by rw [h]; rfl) t
  have hkeyword : x.readStatement none t = { x with phase := .functionHead "" x.line } := by
    simp [readStatement, ht, htext]
  rw [hread, hkeyword]
  show { x.snapshot with phase := .functionHead "" 0 } = _
  rw [hx, h]
  rfl

/-- The name after it is the name of the function. -/
theorem snapshot_named (h : s.snapshot = Stage.keyword.snapshot name) (hname : isName name = true)
    (ht : t.isCode = true) (htext : t.text = name) :
    (s.readToken t).snapshot = Stage.named.snapshot name := by
  obtain ⟨x, hx, hread⟩ := exists_readPhase_none (by rw [h]; rfl) t
  have hhead : x.snapshot.phase = .functionHead "" 0 := by
    rw [hx, h]
    rfl
  obtain ⟨line, hphase⟩ := phase_of_functionHead hhead
  have hstar : name ≠ "*" := by
    rintro rfl
    exact absurd hname (by decide)
  have hangle : name ≠ "<" := by
    rintro rfl
    exact absurd hname (by decide)
  have hnamed : x.readPhase none t = { x with phase := .functionHead name line } := by
    rw [readPhase, hphase]
    simp [readFunctionHead, ht, htext, hstar, hangle, hname]
  rw [hread, hnamed]
  show { x.snapshot with phase := .functionHead name 0 } = _
  rw [hx, h]
  rfl

/-- The parenthesis after the name opens the parameters. -/
theorem snapshot_openParameters (h : s.snapshot = Stage.named.snapshot name) (hname : name ≠ "")
    (ht : t.isCode = true) (htext : t.text = "(") :
    (s.readToken t).snapshot = (Stage.parameters 0 false).snapshot name := by
  obtain ⟨x, hx, hread⟩ := exists_readPhase_none (by rw [h]; rfl) t
  have hhead : x.snapshot.phase = .functionHead name 0 := by
    rw [hx, h]
    rfl
  obtain ⟨line, hphase⟩ := phase_of_functionHead hhead
  have hopened : x.readPhase none t =
      { x with phase := .statement, declaring := false }.openParameters name line := by
    rw [readPhase, hphase]
    simp [readFunctionHead, ht, htext, show isName "(" = false by decide]
  have hcleared : { x with phase := .statement, declaring := false, assignedName := "" }.snapshot =
      {} := by
    show { x.snapshot with phase := .statement } = _
    rw [hx, h]
    rfl
  have hdepth : x.braces.depth = 0 := by
    show x.snapshot.depth = 0
    rw [hx, h]
    rfl
  rw [hread, hopened, openParameters, snapshot_pushGroup, hcleared]
  simp [Group.bare, hdepth, hname, Snapshot.push, Snapshot.beginEntry, Stage.snapshot, Stage.entries]

/-- An entry that ends counts if it holds a token. -/
theorem endEntry_entries (name : String) (count : Nat) (begun : Bool) :
    (Stage.entries name count begun).endEntry = Stage.entries name (count + begun.toNat) false := by
  cases begun <;> rfl

/-- A token among the parameters leads to the next stage. -/
theorem snapshot_parameters {stage : Stage}
    (h : s.snapshot = (Stage.parameters count begun).snapshot name)
    (hnext : (Stage.parameters count begun).next name t.text = some stage) (ht : t.isCode = true) :
    (s.readToken t).snapshot = stage.snapshot name := by
  obtain ⟨x, hx, hread⟩ := exists_readStatement (by rw [h]; rfl) (by rw [h]; rfl) t
  obtain ⟨hcomma, hsquare, hclose⟩ := snapshot_readStatement_punctuation (s := x) ht
  rw [h] at hx
  rw [hread]
  rcases Stage.next_parameters_cases hnext with
    ⟨htext, rfl⟩ | ⟨htext, rfl⟩ | ⟨htext, rfl⟩ | ⟨hplain, rfl⟩
  · rw [hcomma htext, hx]
    show ({ groups := [(Stage.entries name count begun).endEntry] } : Snapshot) = _
    rw [endEntry_entries]
    rfl
  · rw [hsquare htext, hx]
    rfl
  · rw [hclose (.inl htext), hx, htext]
    show ({ closedGroup := some (Stage.entries name count begun).endEntry } : Snapshot) = _
    rw [endEntry_entries]
    rfl
  · rw [snapshot_readStatement_plain ht hplain, hx]
    rfl

/-- A square bracket that closes is part of the current entry. -/
theorem snapshot_square (h : s.snapshot = (Stage.square count).snapshot name) (ht : t.isCode = true)
    (htext : t.text = "]") :
    (s.readToken t).snapshot = (Stage.parameters count true).snapshot name := by
  obtain ⟨x, hx, hread⟩ := exists_readStatement (by rw [h]; rfl) (by rw [h]; rfl) t
  obtain ⟨_, _, hclose⟩ := snapshot_readStatement_punctuation (s := x) ht
  rw [hread, hclose (.inr htext), hx, h, htext]
  rfl

/-- The brace behind the parameters opens the body with what they have counted. -/
theorem snapshot_closed (h : s.snapshot = (Stage.closed count).snapshot name) (hname : name ≠ "")
    (ht : t.isCode = true) (htext : t.text = "\x7b") :
    (s.readToken t).snapshot = (Stage.body count).snapshot name := by
  have hkeeps : keepsSignature t = true := (keepsSignature_iff t).2 ⟨ht, .inl htext⟩
  have hgroup : s.snapshot.closedGroup = some (Stage.entries name count false) := by
    rw [h]
    rfl
  obtain ⟨x, g, hx, hbare, hread⟩ := exists_readPhase_some hgroup hkeeps
  rw [h] at hx
  have hbrace : x.readPhase (some g) t = (x.declare "\x7b").openBrace (some g) := by
    rw [readPhase, phase_of_statement (s := x) (by rw [hx]; rfl)]
    exact (readStatement_signature x (some g) ht).1 htext
  have hgroups : (x.declare "\x7b").groups = [] := by
    have hbares : (x.declare "\x7b").snapshot.groups = [] := by
      rw [snapshot_declare, hx]
      rfl
    exact List.map_eq_nil_iff.1 hbares
  have hcallable : g.isCallable = true := congrArg (·.isCallable) hbare
  have hopener : g.opener = name := congrArg (·.opener) hbare
  have hcount : g.count = count := congrArg (·.count) hbare
  rw [hread, hbrace, snapshot_openBrace hcallable (by simp [hopener, hname]) hgroups
    (by rw [snapshot_declare, hx]; rfl), snapshot_declare, hx, hopener, hcount]
  rfl

/-- The brace at the end closes the body. -/
theorem snapshot_body (h : s.snapshot = (Stage.body count).snapshot name) (ht : t.isCode = true)
    (htext : t.text = "\x7d") :
    (s.readToken t).snapshot = (Stage.done count).snapshot name := by
  obtain ⟨x, hx, hread⟩ := exists_readStatement (by rw [h]; rfl) (by rw [h]; rfl) t
  have hbrace : x.readStatement none t = { x.declare "\x7d" with
      braces := (x.declare "\x7d").braces.closeBrace }.forgetName := by
    simp only [readStatement, ht, htext]
    rfl
  rw [hread, hbrace, snapshot_forgetName, snapshot_closeBrace, snapshot_declare, hx, h]
  rfl

/-- A token of a declaration leads a pass from stage to stage. -/
theorem snapshot_next {stage stage' : Stage} (h : s.snapshot = stage.snapshot name)
    (hname : isName name = true) (hnext : stage.next name t.text = some stage')
    (ht : t.isCode = true) : (s.readToken t).snapshot = stage'.snapshot name := by
  have hne : name ≠ "" := by
    rintro rfl
    exact absurd hname (by decide)
  -- every stage but the parameters knows the only token that can follow
  have honly {text : String} {next : Stage}
      (hnext : (if t.text = text then some next else none) = some stage') :
      t.text = text ∧ stage' = next := by
    split at hnext
    · exact ⟨‹_›, (Option.some.inj hnext).symm⟩
    · cases hnext
  cases stage with
  | start =>
    obtain ⟨htext, rfl⟩ := honly hnext
    exact snapshot_keyword h ht htext
  | keyword =>
    obtain ⟨htext, rfl⟩ := honly hnext
    exact snapshot_named h hname ht htext
  | named =>
    obtain ⟨htext, rfl⟩ := honly hnext
    exact snapshot_openParameters h hne ht htext
  | parameters count begun => exact snapshot_parameters h hnext ht
  | square count =>
    obtain ⟨htext, rfl⟩ := honly hnext
    exact snapshot_square h ht htext
  | closed count =>
    obtain ⟨htext, rfl⟩ := honly hnext
    exact snapshot_closed h hne ht htext
  | body count =>
    obtain ⟨htext, rfl⟩ := honly hnext
    exact snapshot_body h ht htext
  | done count => cases hnext

/-- The tokens of a declaration lead a pass from stage to stage, and line breaks do not matter. -/
theorem exists_run_snapshot (table : DecisionTable) (hname : isName name = true) {ts : List Token}
    {texts : List String} {stage stage' : Stage} (h : s.snapshot = stage.snapshot name)
    (hts : Spells ts texts) (hfollow : stage.follow name texts = some stage') :
    ∃ s', (script s).run table ts = script s' ∧ s'.snapshot = stage'.snapshot name := by
  induction ts generalizing s texts stage with
  | nil =>
    obtain rfl : texts = [] := List.map_eq_nil_iff.1 hts.symm
    obtain rfl := Option.some.inj hfollow
    exact ⟨s, rfl, h⟩
  | cons t ts ih =>
    rw [run_cons]
    cases ht : t.isNewline with
    | true =>
      rw [feed_script_newline ht]
      refine ih ?_ (spells_newline ht hts) hfollow
      have hnext : (s.mapLedger Ledger.nextLine).snapshot = stage.snapshot name :=
        (snapshot_mapLedger fun _ => rfl).trans h
      rw [snapshot_readNewline _ t.implicit, hnext]
      rw [hnext]
      cases stage <;> nofun
    | false =>
      obtain ⟨rest, rfl, hcode, hrest⟩ := spells_token ht hts
      rw [Stage.follow_cons] at hfollow
      obtain ⟨next, hnext, hfollow⟩ := Option.bind_eq_some_iff.1 hfollow
      rw [feed_script_token ht]
      refine ih ?_ hrest hfollow
      have hannounced : (s.mapLedger (·.announce t.lineSpan)).snapshot = stage.snapshot name :=
        (snapshot_mapLedger fun _ => rfl).trans h
      rw [snapshot_mapLedger fun l => l.signatures_credit 1, snapshot_read table ht]
      exact snapshot_next hannounced hname hnext hcode

end Recognizer.Script

namespace Analysis

variable {language : Language} {source : String}

/-- The pass over a declaration ends well, with one signature. -/
theorem recognize_declaration (h : IsScript language) (name : Identifier) (ps : List Parameter)
    (hsource : Spells (sourceTokens language source) (declarationTexts name ps)) :
    (recognize language source).2 = none ∧
      (recognize language source).1.ledger.signatures =
        [(name.text, (countedParameters ps : Int))] := by
  have hstart : start language = script (Script.start 1) := by
    rcases h with rfl | rfl <;> rfl
  obtain ⟨s, hrun, hsnapshot⟩ := Script.exists_run_snapshot (.of language) name.isName
    (s := Script.start 1) rfl hsource (Stage.follow_declaration name ps)
  have hopen : s.openings = {} := by
    have hdepth : s.braces.depth = 0 := congrArg (·.depth) hsnapshot
    have hgroups : s.groups = [] := List.map_eq_nil_iff.1 (congrArg (·.groups) hsnapshot)
    rw [Script.openings, hdepth, hgroups]
    rfl
  have hsucc : s.finish.2 = none := by
    rw [Script.finish_error, hopen]
    rfl
  obtain ⟨k, hsettles, _⟩ := s.finish_settles hsucc
  rw [recognize, hstart, hrun]
  exact ⟨hsucc, hsettles.ledger.signatures_eq.trans (congrArg (·.signatures) hsnapshot)⟩

/-- A declaration is reported with one function, which has its name. The number of parameters that is
reported is that of the parameters and of the commas in their types, and so it is right if and only if no
type has a comma. -/
theorem parameterCount_of_declaration (h : IsScript language) (filename : String) (name : Identifier)
    (ps : List Parameter)
    (hsource : Spells (sourceTokens language source) (declarationTexts name ps)) :
    ∃ a f, ofSource language filename source = (a, none) ∧ a.mode = .function ∧ a.functions = [f] ∧
      f.name = name.text ∧ f.parameterCount = ps.length + (ps.map (·.type.commas)).sum ∧
      (f.parameterCount = ps.length ↔ ∀ p ∈ ps, p.type.commas = 0) := by
  obtain ⟨hsucc, hsignatures⟩ := recognize_declaration h name ps hsource
  obtain ⟨a, ha, hmode⟩ := exists_byFunction hsucc filename
  have hreports := byFunction_reports ha
  have hfunctions : a.functions.map (·.outline.signature) =
      [(name.text, (countedParameters ps : Int))] := by
    rw [hreports.functions_eq, ← hsignatures, Ledger.signatures,
      Ledger.outlines_of_frames_eq_nil hreports.frames_eq, Ledger.closedOutlines, List.map_map]
    rfl
  obtain ⟨f, hf, hsignature⟩ := List.map_eq_singleton_iff.1 hfunctions
  obtain ⟨hname, hcount⟩ := Prod.mk.inj hsignature
  have hcount : f.parameterCount = ps.length + (ps.map (·.type.commas)).sum := by
    rw [show f.parameterCount = _ from hcount, countedParameters]
    push_cast
    rfl
  refine ⟨a, f, by rw [ofSource, ha], hmode, hf, hname, hcount, ?_⟩
  have hzero : (ps.map (·.type.commas)).sum = 0 ↔ ∀ p ∈ ps, p.type.commas = 0 := by
    simp [List.sum_eq_zero_iff]
  rw [hcount, ← hzero]
  omega

/-- The parameters `a: Set<K>[], b: N`. -/
def unaryParameters : List Parameter :=
  [⟨⟨"a", by decide, by decide⟩, .array (.generic ⟨"Set", by decide, by decide⟩
      (.last (.name ⟨"K", by decide, by decide⟩)))⟩,
    ⟨⟨"b", by decide, by decide⟩, .name ⟨"N", by decide, by decide⟩⟩]

/-- Types without commas are counted well, also on two lines. -/
theorem parameterCount_of_declaration_unary :
    Spells (sourceTokens .typescript "function f(a: Set<K>[],\n b: N) \x7b \x7d")
        (declarationTexts ⟨"f", by decide, by decide⟩ unaryParameters) ∧
      ∃ a f, ofSource .typescript "" "function f(a: Set<K>[],\n b: N) \x7b \x7d" = (a, none) ∧
        a.functions = [f] ∧ f.name = "f" ∧ f.parameterCount = 2 := by
  have hsource : Spells (sourceTokens .typescript "function f(a: Set<K>[],\n b: N) \x7b \x7d")
      (declarationTexts ⟨"f", by decide, by decide⟩ unaryParameters) := by
    decide +kernel
  obtain ⟨a, f, ha, _, hf, hname, hcount, _⟩ :=
    parameterCount_of_declaration (.inl rfl) "" _ unaryParameters hsource
  exact ⟨hsource, a, f, ha, hf, hname, hcount⟩

/-- The parameter `a: Map<K, V>`. -/
def binaryParameter : Parameter :=
  ⟨⟨"a", by decide, by decide⟩, .generic ⟨"Map", by decide, by decide⟩
    (.more (.name ⟨"K", by decide, by decide⟩) (.last (.name ⟨"V", by decide, by decide⟩)))⟩

/-- One parameter with a comma in its type is counted as two. -/
theorem comma_in_type_counts :
    Spells (sourceTokens .typescript "function f(a: Map<K, V>) \x7b \x7d")
        (declarationTexts ⟨"f", by decide, by decide⟩ [binaryParameter]) ∧
      (ofSource .typescript "" "function f(a: Map<K, V>) \x7b \x7d").1.functions.map
        (fun f => (f.name, f.parameterCount)) = [("f", 2)] := by
  decide +kernel

end Analysis

end Cyclomatic
