import Mathlib
import Cyclomatic.Analysis
import Cyclomatic.Proofs.Recognizer.GoHeading

/-!
# Functions of Go

What the heading of a Go function can be, as judgments on tokens: a declaration or a method
(`Go.Declares`), and the results of a literal by the grammar of types (`Go.TypeSyntax`). From the keyword to
the brace of the body a declaration opens one function, under its name and with the entries between its
parentheses as parameters (`Go.declaration_opens_function`).

For a literal the token after the parameters has to tell that they are no receiver. Its result can begin with
a word and a parenthesis, as a method's name and parameters do, if it is a function type or a channel of a
parenthesized type; then the function that opens has that word for its name. Any other literal opens one
function without a name (`Go.literal_opens_function`).
-/

namespace Cyclomatic

namespace Recognizer.Go

variable {table : DecisionTable} {p q r : GoPhase} {g h k : GoSignature} {ts us params results : List Token}
  {t : Token} {opening closing name : String}

/-- Well nested tokens between two brackets. -/
def Bracketed (opening closing : String) (inner ts : List Token) : Prop :=
  ∃ first last : Token, ts = first :: (inner ++ [last]) ∧ first.IsText opening ∧ last.IsText closing ∧
    WellNested inner

/-- A parenthesized list that begins in phase `r` is read in its own phase, and its entries are counted. -/
theorem leads_bracketed (table : DecisionTable) (hp : ReadsGroup p q) (hl : g.parameters.depth = 0)
    (hmarkers : g.parameters.markers = [])
    (hbegin : ∀ b : Braces, (Go.mk r h b).readCode "(" =
      ⟨p, { g with parameters := (g.parameters.feed "(").2 }, b⟩)
    (hts : Bracketed "(" ")" params ts) :
    ∃ l : ParameterList, Leads table r h ts q
      { g with parameters := l, parameterCount := entryCount (codeTexts params) } := by
  obtain ⟨first, last, rfl, hfirst, hlast, hnested⟩ := hts
  obtain ⟨l, hl⟩ := leads_group table hp hl hmarkers hnested hlast.1 hlast.2
  refine ⟨l, leads_cons (leads_code hfirst.1 fun b => ?_) hl⟩
  rw [hfirst.2, hbegin]

/-- Type parameters lead back to the name. -/
theorem leads_typeParameters (hg : g.bracketDepth = 0) {inner : List Token}
    (hts : Bracketed "[" "]" inner ts) : Leads table .afterName g ts .afterName g := by
  obtain ⟨first, last, rfl, hfirst, hlast, hnested⟩ := hts
  refine leads_cons (h := { g with bracketDepth := 1 }) (leads_code hfirst.1 fun b => ?_)
    ((leads_inTypeParameters hnested).append (leads_code hlast.1 fun b => ?_))
  · rw [hfirst.2]
    rfl
  · rw [hlast.2]
    cases g
    cases hg
    rfl

/-! ## Declarations and methods -/

/-- The heading of a function with a name, without the brace of its body. -/
inductive Declares (name : String) (params : List Token) : List Token → Prop
  | function {keyword ident : Token} {ps results : List Token} (hkeyword : keyword.IsText "func")
      (hident : ident.IsText name) (hname : isName name = true) (hparams : Bracketed "(" ")" params ps)
      (hresults : IsResult results) : Declares name params (keyword :: ident :: (ps ++ results))
  | generic {keyword ident : Token} {inner gs ps results : List Token} (hkeyword : keyword.IsText "func")
      (hident : ident.IsText name) (hname : isName name = true) (htypes : Bracketed "[" "]" inner gs)
      (hparams : Bracketed "(" ")" params ps) (hresults : IsResult results) :
      Declares name params (keyword :: ident :: (gs ++ (ps ++ results)))
  | method {keyword ident : Token} {inner vs ps results : List Token} (hkeyword : keyword.IsText "func")
      (hreceiver : Bracketed "(" ")" inner vs) (hident : ident.IsText name) (hname : isName name = true)
      (hliteral : isTypeLiteral name = false) (hparams : Bracketed "(" ")" params ps)
      (hresults : IsResult results) : Declares name params (keyword :: (vs ++ ident :: (ps ++ results)))

/-- A name is not empty. -/
theorem isEmpty_of_isName (h : isName name = true) : name.isEmpty = false := by
  cases hempty : name.isEmpty with
  | false => rfl
  | true =>
    obtain rfl : name = "" := String.isEmpty_iff.1 hempty
    cases h

/-- A signature with a name opens a function of that name. -/
theorem opensAtEnd_named {s : Go} (hs : s.phase = .outside) {keyword : Token}
    (hkeyword : keyword.IsText "func") (hbrace : t.IsText "\x7b") (hname : isName name = true)
    {l : ParameterList} {candidate : String} {count : Nat}
    (hts : Leads table .afterFunc { startLine := s.braces.ledger.line } ts .results
      { name, candidate, startLine := s.braces.ledger.line, parameters := l, parameterCount := count }) :
    OpensAtEnd table (go s) (keyword :: ts ++ [t])
      ⟨name, s.braces.ledger.line, count, s.braces.ledger.depth⟩ := by
  have hopens := opensAtEnd hs hkeyword.1 hkeyword.2 hbrace.1 hbrace.2 hts (awaitsBody_results rfl rfl rfl) rfl
  rwa [show (if name.isEmpty then Ledger.anonymous else name) = name by rw [isEmpty_of_isName hname]; rfl]
    at hopens

/-- The name of a declaration. -/
theorem leads_name {line : Int} (ht : t.IsText name) (hname : isName name = true) :
    Leads table .afterFunc { startLine := line } [t] .afterName { name, startLine := line } := by
  refine leads_code ht.1 fun b => ?_
  have hround : t.text ≠ "(" := by
    rw [ht.2]
    rintro rfl
    cases hname
  dsimp only [readCode, afterFunc]
  rw [if_neg hround, ht.2, if_pos hname]

/-- The parameters and results of a declaration. -/
theorem leads_afterName (table : DecisionTable) (name : String) (line : Int)
    (hparams : Bracketed "(" ")" params ts) (hresults : IsResult results) :
    ∃ l : ParameterList, Leads table .afterName { name, startLine := line } (ts ++ results) .results
      { name, startLine := line, parameters := l, parameterCount := entryCount (codeTexts params) } := by
  obtain ⟨l, hl⟩ := leads_bracketed table (r := .afterName)
    (g := { name, startLine := line }) readsGroup_parameters rfl rfl (fun _ => rfl) hparams
  exact ⟨l, hl.append (leads_results ⟨rfl, rfl, rfl⟩ hresults)⟩

/-- The group after the keyword. -/
theorem leads_firstGroup (table : DecisionTable) (line : Int) (hparams : Bracketed "(" ")" params ts) :
    ∃ l : ParameterList, Leads table .afterFunc { startLine := line } ts .afterFirstGroup
      { startLine := line, parameters := l, parameterCount := entryCount (codeTexts params) } :=
  leads_bracketed table (g := { startLine := line }) readsGroup_firstGroup rfl rfl (fun _ => rfl) hparams

/-- A word after the first group may be the name of a method. -/
theorem leads_candidate (table : DecisionTable) (g : GoSignature) (hcode : t.isCode = true)
    (hname : isName t.text = true) (hliteral : isTypeLiteral t.text = false) :
    Leads table .afterFirstGroup g [t] .afterCandidate { g with candidate := t.text } := by
  refine leads_code hcode fun b => ?_
  have hbrace : t.text ≠ "\x7b" := by
    intro htext
    rw [htext] at hname
    cases hname
  dsimp only [readCode, afterFirstGroup]
  rw [if_neg hbrace, hname, hliteral, Bool.not_false, Bool.and_self, if_pos rfl]

/-- A second group makes that word the name of a method, and the first group its receiver. -/
theorem leads_method (table : DecisionTable) (line : Int) {inner vs ps : List Token}
    (hreceiver : Bracketed "(" ")" inner vs)
    (hcode : t.isCode = true) (hname : isName t.text = true) (hliteral : isTypeLiteral t.text = false)
    (hparams : Bracketed "(" ")" params ps) (hresults : IsResult results) :
    ∃ l : ParameterList, Leads table .afterFunc { startLine := line } (vs ++ t :: (ps ++ results)) .results
      { name := t.text, candidate := t.text, startLine := line, parameters := l,
        parameterCount := entryCount (codeTexts params) } := by
  obtain ⟨l, hl⟩ := leads_firstGroup table line hreceiver
  have hcandidate := leads_candidate table
    { startLine := line, parameters := l, parameterCount := entryCount (codeTexts inner) } hcode hname hliteral
  obtain ⟨l', hl'⟩ := leads_bracketed table (r := .afterCandidate)
    (h :=
      { candidate := t.text, startLine := line, parameters := l,
        parameterCount := entryCount (codeTexts inner) })
    (g :=
      { name := t.text, candidate := t.text, startLine := line,
        parameterCount := entryCount (codeTexts inner) })
    readsGroup_parameters rfl rfl (fun _ => rfl) hparams
  exact ⟨l', hl.append (leads_cons hcandidate (hl'.append (leads_results ⟨rfl, rfl, rfl⟩ hresults)))⟩

/-- A declaration or a method opens one function, with the brace of its body. Its parameters are the entries
between its parentheses. -/
theorem declaration_opens_function (table : DecisionTable) {s : Go} (hs : s.phase = .outside)
    (h : Declares name params ts) (ht : t.IsText "\x7b") :
    OpensAtEnd table (go s) (ts ++ [t])
      ⟨name, s.braces.ledger.line, entryCount (codeTexts params), s.braces.ledger.depth⟩ := by
  cases h with
  | function hkeyword hident hname hparams hresults =>
    obtain ⟨l, hl⟩ := leads_afterName table name s.braces.ledger.line hparams hresults
    exact opensAtEnd_named hs hkeyword ht hname (leads_cons (leads_name hident hname) hl)
  | generic hkeyword hident hname htypes hparams hresults =>
    obtain ⟨l, hl⟩ := leads_afterName table name s.braces.ledger.line hparams hresults
    exact opensAtEnd_named hs hkeyword ht hname
      (leads_cons (leads_name hident hname) ((leads_typeParameters rfl htypes).append hl))
  | method hkeyword hreceiver hident hname hliteral hparams hresults =>
    obtain ⟨hcode, rfl⟩ := hident
    obtain ⟨l, hl⟩ := leads_method table s.braces.ledger.line hreceiver hcode hname hliteral
      hparams hresults
    exact opensAtEnd_named hs hkeyword ht hname hl

/-- The parameters `k struct { x, y int }, f func(int, int),`. -/
def getParameters : List Token :=
  codeTokens ["k", "struct", "\x7b", "x", ",", "y", "int", "\x7d", ",", "f", "func", "(", "int", ",",
    "int", ")", ","]

/-- The heading of a method with these parameters, `func (r *T[K, V]) Get(..) interface { M(); }`. -/
def getHeading : List Token :=
  codeTokens ["func", "(", "r", "*", "T", "[", "K", ",", "V", "]", ")", "Get", "("] ++ getParameters ++
    codeTokens [")", "interface", "\x7b", "M", "(", ")", ";", "\x7d"]

/-- Braces of types open no function, and commas inside brackets separate no parameters. -/
theorem declaration_opens_function_method :
    ((Go.start 1).phase = .outside ∧ Declares "Get" getParameters getHeading ∧
      Token.IsText { kind := .code, text := "\x7b" } "\x7b") ∧
    ((go (Go.start 1)).run (.of .go) (getHeading ++ [{ kind := .code, text := "\x7b" }])).ledger.frames.map
      (·.head) = [⟨"Get", 1, 2, 0⟩] := by
  have hreceiver : Bracketed "(" ")" (codeTokens ["r", "*", "T", "[", "K", ",", "V", "]"])
      (codeTokens ["(", "r", "*", "T", "[", "K", ",", "V", "]", ")"]) :=
    ⟨_, _, rfl, by decide, by decide, by decide⟩
  have hparams : Bracketed "(" ")" getParameters (codeTokens ["("] ++ (getParameters ++ codeTokens [")"])) :=
    ⟨_, _, rfl, by decide, by decide, by decide⟩
  have hresults : IsResult (codeTokens ["interface", "\x7b", "M", "(", ")", ";", "\x7d"]) := by decide
  have hkeyword : Token.IsText { kind := .code, text := "func" } "func" := by decide
  have hident : Token.IsText { kind := .code, text := "Get" } "Get" := by decide
  have hmethod := Declares.method hkeyword hreceiver hident (by decide) (by decide) hparams hresults
  have hdeclares : Declares "Get" getParameters getHeading := hmethod
  refine ⟨⟨rfl, hdeclares, by decide⟩, ?_⟩
  exact (declaration_opens_function (.of .go) (s := Go.start 1) rfl hdeclares (by decide)).2.1

/-! ## Types -/

/-- What a part of a type is. -/
inductive TypePart where
  | typeName
  | type
  /-- The entries of a list in parentheses or square brackets. -/
  | entries
  | result
deriving DecidableEq

/-- A name, which is no keyword that announces a brace. -/
def IsWord (t : Token) : Prop :=
  t.isCode = true ∧ isName t.text = true ∧ isTypeLiteral t.text = false

/-- What can stand before the type of an entry: names, dots and line breaks. -/
def IsLabel (t : Token) : Prop :=
  IsWord t ∨ t.IsText "..." ∨ t.isNewline = true

/-- The tokens of types, and of the lists and results inside them. -/
inductive TypeSyntax : TypePart → List Token → Prop
  | simpleName {t : Token} (ht : IsWord t) : TypeSyntax .typeName [t]
  | qualifiedName {package dot ident : Token} (hpackage : IsWord package) (hdot : dot.IsText ".")
      (hident : IsWord ident) : TypeSyntax .typeName [package, dot, ident]
  | named {ts : List Token} (hts : TypeSyntax .typeName ts) : TypeSyntax .type ts
  | applied {ts us : List Token} {first last : Token} (hts : TypeSyntax .typeName ts)
      (hfirst : first.IsText "[") (hus : TypeSyntax .entries us) (hlast : last.IsText "]") :
      TypeSyntax .type (ts ++ first :: (us ++ [last]))
  | pointer {star : Token} {ts : List Token} (hstar : star.IsText "*") (hts : TypeSyntax .type ts) :
      TypeSyntax .type (star :: ts)
  /-- A slice or an array, with the tokens of its length. -/
  | array {first last : Token} {length ts : List Token} (hfirst : first.IsText "[")
      (hlength : WellNested length)
      (hplain : ∀ t ∈ length, t.isCode = true → t.text ≠ "\x7b" ∧ isTypeLiteral t.text = false)
      (hlast : last.IsText "]") (hts : TypeSyntax .type ts) :
      TypeSyntax .type (first :: (length ++ last :: ts))
  | map {keyword first last : Token} {ts us : List Token} (hkeyword : keyword.IsText "map")
      (hfirst : first.IsText "[") (hts : TypeSyntax .type ts) (hlast : last.IsText "]")
      (hus : TypeSyntax .type us) : TypeSyntax .type (keyword :: first :: (ts ++ last :: us))
  | channel {keyword : Token} {ts : List Token} (hkeyword : keyword.IsText "chan") (hts : TypeSyntax .type ts) :
      TypeSyntax .type (keyword :: ts)
  | sendChannel {keyword arrow : Token} {ts : List Token} (hkeyword : keyword.IsText "chan")
      (harrow : arrow.IsText "<-") (hts : TypeSyntax .type ts) : TypeSyntax .type (keyword :: arrow :: ts)
  | receiveChannel {arrow keyword : Token} {ts : List Token} (harrow : arrow.IsText "<-")
      (hkeyword : keyword.IsText "chan") (hts : TypeSyntax .type ts) :
      TypeSyntax .type (arrow :: keyword :: ts)
  | function {keyword first last : Token} {ts us : List Token} (hkeyword : keyword.IsText "func")
      (hfirst : first.IsText "(") (hts : TypeSyntax .entries ts) (hlast : last.IsText ")")
      (hus : TypeSyntax .result us) : TypeSyntax .type (keyword :: first :: (ts ++ last :: us))
  /-- A `struct` or an `interface`, with any body. -/
  | braced {keyword first last : Token} {body : List Token} (hcode : keyword.isCode = true)
      (hkeyword : isTypeLiteral keyword.text = true) (hfirst : first.IsText "\x7b") (hbody : WellNested body)
      (hlast : last.IsText "\x7d") : TypeSyntax .type (keyword :: first :: (body ++ [last]))
  | parenthesized {first last : Token} {ts : List Token} (hfirst : first.IsText "(") (hts : TypeSyntax .type ts)
      (hlast : last.IsText ")") : TypeSyntax .type (first :: (ts ++ [last]))
  | noEntry {ts : List Token} (hts : ∀ t ∈ ts, t.isNewline = true) : TypeSyntax .entries ts
  | entry {labels ts : List Token} (hlabels : ∀ t ∈ labels, IsLabel t) (hts : TypeSyntax .type ts) :
      TypeSyntax .entries (labels ++ ts)
  | moreEntries {comma : Token} {ts us : List Token} (hts : TypeSyntax .entries ts) (hcomma : comma.IsText ",")
      (hus : TypeSyntax .entries us) : TypeSyntax .entries (ts ++ comma :: us)
  | noResult : TypeSyntax .result []
  | singleResult {ts : List Token} (hts : TypeSyntax .type ts) : TypeSyntax .result ts
  | resultList {first last : Token} {ts : List Token} (hfirst : first.IsText "(") (hts : TypeSyntax .entries ts)
      (hlast : last.IsText ")") : TypeSyntax .result (first :: (ts ++ [last]))

namespace ResultPlace

variable {stack stack' : List String} {inner : List Token}

/-- Inside the braces of a type brackets are all that matters. Elsewhere a token must not announce a brace or
be one, and outside all brackets it must not end the statement. -/
theorem after_plain (hstack : Brackets.after stack t = some stack')
    (hcode : t.isCode = true → "\x7b" ∈ stack ∨ t.text ≠ "\x7b" ∧ isTypeLiteral t.text = false ∧
      (stack = [] → t.text ≠ ";" ∧ t.text ≠ "," ∧ t.text ≠ "="))
    (hnewline : t.isCode = false → t.isNewline = true → stack ≠ []) :
    after ⟨stack, false⟩ t = some ⟨stack', false⟩ := by
  unfold after
  cases hkind : t.isCode with
  | true =>
    rw [if_pos rfl, hstack, Option.bind_some]
    dsimp only
    split
    · rfl
    · rename_i hmem
      obtain ⟨hbrace, hliteral, hends⟩ := (hcode hkind).resolve_left hmem
      have hnot : ¬(stack = [] ∧ (t.text = ";" ∨ t.text = "," ∨ t.text = "=")) := by
        rintro ⟨hnil, hend⟩
        obtain ⟨hsemicolon, hcomma, hequals⟩ := hends hnil
        tauto
      rw [if_neg (by simp [hbrace]), if_neg hnot, hliteral]
  | false =>
    have hsame : Brackets.after stack t = some stack :=
      Brackets.after_of_neutral stack (by simp [hkind])
    obtain rfl := Option.some.inj (hsame.symm.trans hstack)
    rw [if_neg Bool.false_ne_true, if_neg fun hend => hnewline hkind hend.1 hend.2.2]

theorem afterAll_of_after {place : ResultPlace} {t : Token} (h : after ⟨stack, false⟩ t = some place)
    (ts : List Token) : afterAll ⟨stack, false⟩ (t :: ts) = place.afterAll ts := by
  rw [afterAll_cons, h, Option.bind_some]

/-- A token that is neither a bracket nor a keyword of types. -/
theorem afterAll_neutral (hcode : t.isCode = true) (hopening : isOpening t.text = false)
    (hclosing : isClosing t.text = false) (hliteral : isTypeLiteral t.text = false)
    (hends : stack = [] → t.text ≠ ";" ∧ t.text ≠ "," ∧ t.text ≠ "=") (ts : List Token) :
    afterAll ⟨stack, false⟩ (t :: ts) = afterAll ⟨stack, false⟩ ts := by
  refine afterAll_of_after (after_plain ?_ (fun _ => .inr ⟨?_, hliteral, hends⟩) (by simp [hcode])) ts
  · exact Brackets.after_of_neutral stack (by simp [hopening, hclosing])
  · exact (ne_of_neutral hopening hclosing).2.2.1

/-- Well nested tokens inside brackets. -/
theorem afterAll_inside (hinner : WellNested inner)
    (hstack : "\x7b" ∈ stack ∨ stack ≠ [] ∧
      ∀ t ∈ inner, t.isCode = true → t.text ≠ "\x7b" ∧ isTypeLiteral t.text = false) (ts : List Token) :
    afterAll ⟨stack, false⟩ (inner ++ ts) = afterAll ⟨stack, false⟩ ts := by
  -- the brackets that are open above those of the type
  suffices hall : ∀ above above' : List String, Brackets.afterAll above inner = some above' →
      afterAll ⟨above ++ stack, false⟩ inner = some ⟨above' ++ stack, false⟩ by
    rw [afterAll_append, show afterAll ⟨stack, false⟩ inner = some ⟨stack, false⟩ from hall [] [] hinner,
      Option.bind_some]
  clear hinner
  induction inner with
  | nil =>
    rintro above above' h
    obtain rfl := Option.some.inj h
    rfl
  | cons t inner ih =>
    rintro above above' h
    rw [Brackets.afterAll_cons] at h
    obtain ⟨next, hnext, hrest⟩ := Option.bind_eq_some_iff.1 h
    have hafter : Brackets.afterAll above [t] = some next := by rw [Brackets.afterAll_cons, hnext]; rfl
    have hbelow := Brackets.afterAll_append hafter stack
    rw [Brackets.afterAll_cons] at hbelow
    obtain ⟨next', hnext', heq⟩ := Option.bind_eq_some_iff.1 hbelow
    obtain rfl := Option.some.inj heq
    have hne : stack ≠ [] := by
      rintro rfl
      rcases hstack with hmem | ⟨hne, -⟩
      · cases hmem
      · exact hne rfl
    have hne' : above ++ stack ≠ [] := fun hnil => hne (List.append_eq_nil_iff.1 hnil).2
    rw [afterAll_of_after (after_plain hnext' (fun hcode => ?_) fun _ _ => hne')]
    · exact ih (hstack.imp_right fun h => ⟨h.1, fun u hu => h.2 u (List.mem_cons_of_mem _ hu)⟩) next above' hrest
    · rcases hstack with hmem | ⟨-, hplain⟩
      · exact .inl (List.mem_append_right _ hmem)
      · obtain ⟨hbrace, hliteral⟩ := hplain t List.mem_cons_self hcode
        exact .inr ⟨hbrace, hliteral, fun hnil => absurd hnil hne'⟩

variable {first last : Token}

/-- A group leads back to where it began, if what is inside leads back to where that began. -/
theorem afterAll_group
    (hbrackets : first.IsText "(" ∧ last.IsText ")" ∨ first.IsText "[" ∧ last.IsText "]")
    (hinner : ∀ rest, afterAll ⟨first.text :: stack, false⟩ (inner ++ rest) =
      afterAll ⟨first.text :: stack, false⟩ rest) (ts : List Token) :
    afterAll ⟨stack, false⟩ (first :: (inner ++ last :: ts)) = afterAll ⟨stack, false⟩ ts := by
  obtain ⟨hcode, hopening, hbrace, hliteral, hends⟩ : first.isCode = true ∧ isOpening first.text = true ∧
      first.text ≠ "\x7b" ∧ isTypeLiteral first.text = false ∧
        first.text ≠ ";" ∧ first.text ≠ "," ∧ first.text ≠ "=" := by
    rcases hbrackets with ⟨⟨hcode, htext⟩, -⟩ | ⟨⟨hcode, htext⟩, -⟩ <;> rw [htext] <;>
      exact ⟨hcode, by decide, by decide, by decide, by decide, by decide, by decide⟩
  obtain ⟨hcode', hclosing, hbrace', hliteral', hpartner⟩ : last.isCode = true ∧ isClosing last.text = true ∧
      last.text ≠ "\x7b" ∧ isTypeLiteral last.text = false ∧ first.text = Brackets.partner last.text := by
    rcases hbrackets with ⟨⟨-, htext⟩, hcode, htext'⟩ | ⟨⟨-, htext⟩, hcode, htext'⟩ <;> rw [htext, htext'] <;>
      exact ⟨hcode, by decide, by decide, by decide, by decide⟩
  rw [afterAll_of_after (after_plain (Brackets.after_of_isOpening stack hcode hopening)
      (fun _ => .inr ⟨hbrace, hliteral, fun _ => hends⟩) (by simp [hcode])), hinner, hpartner]
  exact afterAll_of_after (after_plain (Brackets.after_of_isClosing stack hcode' hclosing)
    (fun _ => .inr ⟨hbrace', hliteral', fun h => by cases h⟩) (by simp)) ts

/-- The braces of a type lead back to where the keyword stood. -/
theorem afterAll_braced {keyword : Token} (hmem : "\x7b" ∉ stack) (hcode : keyword.isCode = true)
    (hkeyword : isTypeLiteral keyword.text = true) (hfirst : first.IsText "\x7b") (hinner : WellNested inner)
    (hlast : last.IsText "\x7d") (ts : List Token) :
    afterAll ⟨stack, false⟩ (keyword :: first :: (inner ++ last :: ts)) = afterAll ⟨stack, false⟩ ts := by
  have hannounced : after ⟨stack, false⟩ keyword = some ⟨stack, true⟩ := by
    have hneutral : Brackets.after stack keyword = some stack := by
      refine Brackets.after_of_neutral stack ?_
      rw [hcode]
      simp only [isTypeLiteral, Bool.or_eq_true, beq_iff_eq] at hkeyword
      rcases hkeyword with htext | htext <;> rw [htext] <;> decide
    have htext : keyword.text ≠ "\x7b" ∧ keyword.text ≠ ";" ∧ keyword.text ≠ "," ∧ keyword.text ≠ "=" := by
      simp only [isTypeLiteral, Bool.or_eq_true, beq_iff_eq] at hkeyword
      rcases hkeyword with htext | htext <;> rw [htext] <;> decide
    obtain ⟨hbrace, hsemicolon, hcomma, hequals⟩ := htext
    rw [after, if_pos hcode, hneutral, Option.bind_some, if_neg hmem, if_neg (by simp [hbrace]),
      if_neg (by tauto), hkeyword]
  have hbrace : after ⟨stack, true⟩ first = some ⟨"\x7b" :: stack, false⟩ := by
    have hopening : Brackets.after stack first = some ("\x7b" :: stack) := by
      rw [← hfirst.2]
      exact Brackets.after_of_isOpening stack hfirst.1 (by rw [hfirst.2]; rfl)
    rw [after, if_pos hfirst.1, hopening, Option.bind_some, if_neg hmem, hfirst.2]
    simp [isTypeLiteral]
  have hclosing : after ⟨"\x7b" :: stack, false⟩ last = some ⟨stack, false⟩ := by
    refine after_plain ?_ (fun _ => .inl List.mem_cons_self) (by simp)
    have hclosed := Brackets.after_of_isClosing stack hlast.1 (by rw [hlast.2]; rfl)
    rwa [hlast.2] at hclosed
  rw [afterAll_of_after hannounced, afterAll_cons, hbrace, Option.bind_some,
    afterAll_inside hinner (.inl List.mem_cons_self), afterAll_of_after hclosing]

end ResultPlace

variable {stack : List String}

theorem IsWord.afterAll (h : IsWord t) (ts : List Token) :
    ResultPlace.afterAll ⟨stack, false⟩ (t :: ts) = ResultPlace.afterAll ⟨stack, false⟩ ts := by
  obtain ⟨hcode, hname, hliteral⟩ := h
  have hne (text : String) (htext : isName text = false) : t.text ≠ text := by
    rintro rfl
    rw [htext] at hname
    cases hname
  refine ResultPlace.afterAll_neutral hcode ?_ ?_ hliteral (fun _ => ⟨?_, ?_, ?_⟩) ts
  · simp [isOpening, hne "(" (by decide), hne "[" (by decide), hne "\x7b" (by decide)]
  · simp [isClosing, hne ")" (by decide), hne "]" (by decide), hne "\x7d" (by decide)]
  · exact hne _ (by decide)
  · exact hne _ (by decide)
  · exact hne _ (by decide)

/-- One of the marks in types that are no brackets. -/
theorem afterAll_mark (h : t.IsText name) (hname : name = "." ∨ name = "*" ∨ name = "<-" ∨ name = "...")
    (ts : List Token) :
    ResultPlace.afterAll ⟨stack, false⟩ (t :: ts) = ResultPlace.afterAll ⟨stack, false⟩ ts := by
  obtain ⟨hcode, rfl⟩ := h
  refine ResultPlace.afterAll_neutral hcode ?_ ?_ ?_ (fun _ => ?_) ts <;>
    rcases hname with htext | htext | htext | htext <;> rw [htext] <;> decide

theorem isWord_of_isText (h : t.IsText name) (hname : isName name = true)
    (hliteral : isTypeLiteral name = false) : IsWord t := by
  obtain ⟨hcode, rfl⟩ := h
  exact ⟨hcode, hname, hliteral⟩

/-- Inside brackets labels keep their place. -/
theorem afterAll_labels (hts : ∀ t ∈ ts, IsLabel t) (hstack : stack ≠ []) (rest : List Token) :
    ResultPlace.afterAll ⟨stack, false⟩ (ts ++ rest) = ResultPlace.afterAll ⟨stack, false⟩ rest := by
  induction ts with
  | nil => rfl
  | cons t ts ih =>
    rw [List.cons_append, ← ih fun u hu => hts u (List.mem_cons_of_mem _ hu)]
    rcases hts t List.mem_cons_self with hword | hdots | hnewline
    · exact hword.afterAll _
    · exact afterAll_mark hdots (by simp) _
    · have hcode := Token.isCode_of_isNewline hnewline
      have hsame : Brackets.after stack t = some stack := Brackets.after_of_neutral stack (by simp [hcode])
      exact ResultPlace.afterAll_of_after
        (ResultPlace.after_plain hsame (by simp [hcode]) fun _ _ => hstack) _

/-- A type keeps its place among results, and so do entries inside brackets. -/
theorem TypeSyntax.afterAll {part : TypePart} (h : TypeSyntax part ts)
    (hmem : "\x7b" ∉ stack) (hentries : part = .entries → stack ≠ []) (rest : List Token) :
    ResultPlace.afterAll ⟨stack, false⟩ (ts ++ rest) = ResultPlace.afterAll ⟨stack, false⟩ rest := by
  -- inside a group no brace is open either
  have hinside {first : Token} {stack : List String} (hmem : "\x7b" ∉ stack)
      (hfirst : first.IsText "(" ∨ first.IsText "[") : "\x7b" ∉ first.text :: stack := by
    rw [List.mem_cons, not_or]
    refine ⟨?_, hmem⟩
    rcases hfirst with ⟨-, htext⟩ | ⟨-, htext⟩ <;> rw [htext] <;> decide
  induction h generalizing stack rest with
  | simpleName ht => exact ht.afterAll rest
  | qualifiedName hpackage hdot hident =>
    exact (hpackage.afterAll _).trans ((afterAll_mark hdot (by simp) _).trans (hident.afterAll rest))
  | named _ ih => exact ih hmem (by simp) rest
  | applied _ hfirst _ hlast ih ih' =>
    rw [List.append_assoc, ih hmem (by simp), List.cons_append, List.append_assoc]
    exact ResultPlace.afterAll_group (.inr ⟨hfirst, hlast⟩)
      (fun rest => ih' (hinside hmem (.inr hfirst)) (by simp) rest) rest
  | pointer hstar _ ih => exact (afterAll_mark hstar (by simp) _).trans (ih hmem (by simp) rest)
  | array hfirst hlength hplain hlast _ ih =>
    rw [List.cons_append, List.append_assoc, List.cons_append,
      ResultPlace.afterAll_group (.inr ⟨hfirst, hlast⟩)
        (fun rest => ResultPlace.afterAll_inside hlength (.inr ⟨by simp, hplain⟩) rest)]
    exact ih hmem (by simp) rest
  | map hkeyword hfirst _ hlast _ ih ih' =>
    rw [List.cons_append, (isWord_of_isText hkeyword (by decide) (by decide)).afterAll, List.cons_append,
      List.append_assoc, List.cons_append, ResultPlace.afterAll_group (.inr ⟨hfirst, hlast⟩)
        (fun rest => ih (hinside hmem (.inr hfirst)) (by simp) rest)]
    exact ih' hmem (by simp) rest
  | channel hkeyword _ ih =>
    rw [List.cons_append, (isWord_of_isText hkeyword (by decide) (by decide)).afterAll]
    exact ih hmem (by simp) rest
  | sendChannel hkeyword harrow _ ih =>
    rw [List.cons_append, (isWord_of_isText hkeyword (by decide) (by decide)).afterAll, List.cons_append,
      afterAll_mark harrow (by simp)]
    exact ih hmem (by simp) rest
  | receiveChannel harrow hkeyword _ ih =>
    rw [List.cons_append, afterAll_mark harrow (by simp), List.cons_append,
      (isWord_of_isText hkeyword (by decide) (by decide)).afterAll]
    exact ih hmem (by simp) rest
  | function hkeyword hfirst _ hlast _ ih ih' =>
    rw [List.cons_append, (isWord_of_isText hkeyword (by decide) (by decide)).afterAll, List.cons_append,
      List.append_assoc, List.cons_append, ResultPlace.afterAll_group (.inl ⟨hfirst, hlast⟩)
        (fun rest => ih (hinside hmem (.inl hfirst)) (by simp) rest)]
    exact ih' hmem (by simp) rest
  | braced hcode hkeyword hfirst hbody hlast =>
    rw [List.cons_append, List.cons_append, List.append_assoc]
    exact ResultPlace.afterAll_braced hmem hcode hkeyword hfirst hbody hlast rest
  | parenthesized hfirst _ hlast ih =>
    rw [List.cons_append, List.append_assoc]
    exact ResultPlace.afterAll_group (.inl ⟨hfirst, hlast⟩)
      (fun rest => ih (hinside hmem (.inl hfirst)) (by simp) rest) rest
  | noEntry hts => exact afterAll_labels (fun t ht => .inr (.inr (hts t ht))) (hentries rfl) rest
  | entry hlabels _ ih =>
    rw [List.append_assoc, afterAll_labels hlabels (hentries rfl)]
    exact ih hmem (by simp) rest
  | moreEntries _ hcomma _ ih ih' =>
    have hneutral : ∀ ts,
        ResultPlace.afterAll ⟨stack, false⟩ (_ :: ts) = ResultPlace.afterAll ⟨stack, false⟩ ts :=
      ResultPlace.afterAll_neutral hcomma.1 (by rw [hcomma.2]; rfl) (by rw [hcomma.2]; rfl)
        (by rw [hcomma.2]; rfl) fun hnil => absurd hnil (hentries rfl)
    rw [List.append_assoc, ih hmem hentries, List.cons_append, hneutral]
    exact ih' hmem hentries rest
  | noResult => rfl
  | singleResult _ ih => exact ih hmem (by simp) rest
  | resultList hfirst _ hlast ih =>
    rw [List.cons_append, List.append_assoc]
    exact ResultPlace.afterAll_group (.inl ⟨hfirst, hlast⟩)
      (fun rest => ih (hinside hmem (.inl hfirst)) (by simp) rest) rest

theorem TypeSyntax.isResult (h : TypeSyntax .result results) : IsResult results := by
  have hall := h.afterAll (show "\x7b" ∉ [] by simp) (by simp) []
  rwa [List.append_nil] at hall

/-- What a type or a result begins with: a code token and, if that is a word, another one, which is a
parenthesis only after the keyword of functions or channels. -/
structure Front (ts : List Token) : Prop where
  first : ∀ t rest, ts = t :: rest → t.isCode = true
  second : ∀ t u rest, ts = t :: u :: rest → IsWord t →
    u.isCode = true ∧ (u.text = "(" → t.text = "func" ∨ t.text = "chan")

theorem not_isWord (h : t.IsText name) (hname : isName name = false) : ¬IsWord t := by
  rintro ⟨-, hword, -⟩
  rw [h.2, hname] at hword
  cases hword

theorem front_of_not_isWord (hcode : t.isCode = true) (hword : ¬IsWord t) (ts : List Token) :
    Front (t :: ts) := by
  refine ⟨?_, ?_⟩
  · rintro _ _ h
    cases h
    exact hcode
  · rintro _ _ _ h hw
    cases h
    exact absurd hw hword

theorem front_of_code {u : Token} (hcode : t.isCode = true) (hcode' : u.isCode = true)
    (hround : u.text = "(" → t.text = "func" ∨ t.text = "chan") (ts : List Token) : Front (t :: u :: ts) := by
  refine ⟨?_, ?_⟩
  · rintro _ _ h
    cases h
    exact hcode
  · rintro _ _ _ h -
    cases h
    exact ⟨hcode', hround⟩

theorem front_singleton (hcode : t.isCode = true) : Front [t] :=
  ⟨fun _ _ h => by rwa [← (List.cons_eq_cons.1 h).1], by simp⟩

/-- A result begins as said; only a function type and a channel of a type in parentheses begin like a method. -/
theorem TypeSyntax.front {part : TypePart} (h : TypeSyntax part ts) (hpart : part ≠ .entries) : Front ts := by
  have hne {u : Token} {text : String} {P : Prop} (hu : u.IsText text) (htext : text ≠ "(")
      (h : u.text = "(") : P :=
    absurd (hu.2.symm.trans h) htext
  induction h with
  | simpleName ht => exact front_singleton ht.1
  | qualifiedName hpackage hdot _ => exact front_of_code hpackage.1 hdot.1 (hne hdot (by decide)) _
  | named _ ih => exact ih (by simp)
  | applied hts hfirst _ _ _ _ =>
    cases hts with
    | simpleName ht => exact front_of_code ht.1 hfirst.1 (hne hfirst (by decide)) _
    | qualifiedName hpackage hdot _ => exact front_of_code hpackage.1 hdot.1 (hne hdot (by decide)) _
  | pointer hstar _ _ => exact front_of_not_isWord hstar.1 (not_isWord hstar (by decide)) _
  | array hfirst _ _ _ _ _ => exact front_of_not_isWord hfirst.1 (not_isWord hfirst (by decide)) _
  | map hkeyword hfirst _ _ _ _ _ => exact front_of_code hkeyword.1 hfirst.1 (hne hfirst (by decide)) _
  | @channel keyword ts hkeyword _ ih =>
    cases ts with
    | nil => exact front_singleton hkeyword.1
    | cons u ts => exact front_of_code hkeyword.1 ((ih (by simp)).first u ts rfl) (fun _ => .inr hkeyword.2) ts
  | sendChannel hkeyword harrow _ _ => exact front_of_code hkeyword.1 harrow.1 (hne harrow (by decide)) _
  | receiveChannel harrow _ _ _ => exact front_of_not_isWord harrow.1 (not_isWord harrow (by decide)) _
  | function hkeyword hfirst _ _ _ _ _ => exact front_of_code hkeyword.1 hfirst.1 (fun _ => .inl hkeyword.2) _
  | braced hcode _ hfirst _ _ => exact front_of_code hcode hfirst.1 (hne hfirst (by decide)) _
  | parenthesized hfirst _ _ _ => exact front_of_not_isWord hfirst.1 (not_isWord hfirst (by decide)) _
  | noEntry => exact absurd rfl hpart
  | entry => exact absurd rfl hpart
  | moreEntries => exact absurd rfl hpart
  | noResult => exact ⟨by simp, by simp⟩
  | singleResult _ ih => exact ih (by simp)
  | resultList hfirst _ _ _ => exact front_of_not_isWord hfirst.1 (not_isWord hfirst (by decide)) _

/-! ## Literals -/

/-- Results that begin with a word and a list, as the name and the parameters of a method do. -/
def LikeMethod (name : String) (params results : List Token) : Prop :=
  ∃ (t : Token) (ps rest : List Token), results = t :: (ps ++ rest) ∧ IsWord t ∧ t.text = name ∧
    Bracketed "(" ")" params ps

/-- The first token of results, in a phase that passes it on to them. -/
theorem leads_beginResults (ht : t.isCode = true)
    (hread : ∀ b : Braces, (Go.mk p g b).readCode t.text = (Go.mk .results g b).readCode t.text)
    (h : Leads table .results g (t :: ts) r k) : Leads table p g (t :: ts) r k := by
  have hfeed (b : Braces) : (go ⟨p, g, b⟩).feed table t = (go ⟨.results, g, b⟩).feed table t := by
    have hn := Token.isNewline_of_isCode ht
    have hannounced := hread { b with ledger := b.ledger.announce t.lineSpan }
    rw [feed_of_not_isNewline table _ hn, feed_of_not_isNewline table _ hn]
    show go (((Go.mk p g _).read table t).mapLedger (·.credit)) =
      go (((Go.mk .results g _).read table t).mapLedger (·.credit))
    rw [read_code _ ht, read_code _ ht]
    show go (Go.mapLedger (if _ then Go.mapLedger ((Go.mk p g _).readCode t.text) _ else _) _) = _
    rw [hannounced]
  intro b
  obtain ⟨⟨c, hc⟩, hbefore⟩ := h b
  refine ⟨⟨c, by rw [run_cons, hfeed, ← run_cons, hc]⟩, fun before after hsplit => ?_⟩
  rcases List.cons_eq_append_iff.1 hsplit with ⟨rfl, -⟩ | ⟨before, rfl, -⟩
  · exact ⟨rfl, rfl⟩
  · rw [run_cons, hfeed, ← run_cons]
    exact hbefore _ after hsplit

/-- Among results brackets belong together. -/
theorem ResultPlace.stack_after {place place' : ResultPlace} (h : place.after t = some place') :
    Brackets.after place.stack t = some place'.stack := by
  unfold after at h
  cases hcode : t.isCode with
  | true =>
    rw [hcode, if_pos rfl] at h
    obtain ⟨stack, hstack, h⟩ := Option.bind_eq_some_iff.1 h
    split_ifs at h <;> obtain rfl := Option.some.inj h <;> exact hstack
  | false =>
    rw [hcode, if_neg Bool.false_ne_true] at h
    split_ifs at h
    obtain rfl := Option.some.inj h
    exact Brackets.after_of_neutral _ (by simp [hcode])

theorem ResultPlace.stack_afterAll {place place' : ResultPlace} (h : place.afterAll ts = some place') :
    Brackets.afterAll place.stack ts = some place'.stack := by
  induction ts generalizing place with
  | nil =>
    obtain rfl := Option.some.inj h
    rfl
  | cons t ts ih =>
    obtain ⟨next, hnext, hrest⟩ := Option.bind_eq_some_iff.1 h
    rw [Brackets.afterAll_cons, stack_after hnext]
    exact ih hrest

/-- No brace comes first among results. -/
theorem ne_brace_of_isResult (h : IsResult (t :: ts)) (hcode : t.isCode = true) : t.text ≠ "\x7b" := by
  intro htext
  rw [IsResult, ResultPlace.afterAll_cons, ResultPlace.after, if_pos hcode,
    Brackets.after_of_isOpening _ hcode (by rw [htext]; rfl), htext] at h
  cases h

/-- After a list results go on as after nothing. -/
theorem isResult_of_bracketed (h : IsResult (us ++ ts)) (hus : Bracketed "(" ")" params us) : IsResult ts := by
  obtain ⟨first, last, rfl, hfirst, hlast, hnested⟩ := hus
  rw [IsResult, show first :: (params ++ [last]) ++ ts = (first :: params) ++ last :: ts by simp,
    ResultPlace.afterAll_append] at h
  obtain ⟨place, hplace, h⟩ := Option.bind_eq_some_iff.1 h
  obtain ⟨place', hplace', h⟩ := Option.bind_eq_some_iff.1 h
  -- before its last token only the bracket of the list is open
  have hstack : place.stack = ["("] := by
    have hopen := ResultPlace.stack_afterAll hplace
    rw [Brackets.afterAll_cons, Brackets.after_of_isOpening _ hfirst.1 (by rw [hfirst.2]; rfl),
      Option.bind_some, hfirst.2] at hopen
    have hsame := Brackets.afterAll_append hnested ["("]
    rw [List.nil_append] at hsame
    exact (Option.some.inj (hsame.symm.trans hopen)).symm
  suffices hbegin : place' = {} by rwa [hbegin] at h
  rw [ResultPlace.after, if_pos hlast.1, hstack, hlast.2] at hplace'
  obtain ⟨stack, hlastStack, hplace'⟩ := Option.bind_eq_some_iff.1 hplace'
  have hclosed := Brackets.after_of_isClosing [] hlast.1 (by rw [hlast.2]; rfl)
  rw [hlast.2] at hclosed
  obtain rfl := Option.some.inj (hclosed.symm.trans hlastStack)
  split_ifs at hplace' with hmem
  · exact absurd hmem (by decide)
  · exact (Option.some.inj hplace').symm

/-- Results that do not look like a method. -/
theorem leads_literal (table : DecisionTable)
    (hg : g.bracketDepth = 0 ∧ g.typeBraceDepth = 0 ∧ g.typeLiteral = false)
    (hresults : IsResult results) (hfront : Front results)
    (hmethod : ∀ t u rest, results = t :: u :: rest → IsWord t → u.text ≠ "(") :
    ∃ (p : GoPhase) (candidate : String), Leads table .afterFirstGroup g results p { g with candidate } ∧
      AwaitsBody p { g with candidate } := by
  cases results with
  | nil => exact ⟨.afterFirstGroup, g.candidate, leads_nil, fun _ => rfl⟩
  | cons t us =>
    have hcode := hfront.first t us rfl
    by_cases hword : IsWord t
    · have hcandidate := leads_candidate table g hcode hword.2.1 hword.2.2
      cases us with
      | nil => exact ⟨.afterCandidate, t.text, hcandidate, fun _ => rfl⟩
      | cons u rest =>
        have hus : IsResult (u :: rest) := by rwa [IsResult, hword.afterAll] at hresults
        have hcode' := (hfront.second t u rest rfl hword).1
        have hround := hmethod t u rest rfl hword
        have hbrace := ne_brace_of_isResult hus hcode'
        refine ⟨.results, t.text, leads_cons hcandidate (leads_beginResults hcode' (fun b => ?_)
          (leads_results hg hus)), awaitsBody_results hg.1 hg.2.1 hg.2.2⟩
        dsimp only [readCode, afterCandidate, beginResults]
        rw [if_neg hround, if_neg hbrace]
    · have hbrace := ne_brace_of_isResult hresults hcode
      refine ⟨.results, g.candidate, leads_beginResults hcode (fun b => ?_) (leads_results hg hresults),
        awaitsBody_results hg.1 hg.2.1 hg.2.2⟩
      have hname : (isName t.text && !isTypeLiteral t.text) = false := by
        rw [IsWord, hcode] at hword
        cases hname : isName t.text <;> cases hliteral : isTypeLiteral t.text <;> simp_all
      dsimp only [readCode, afterFirstGroup, beginResults]
      rw [if_neg hbrace, hname, if_neg Bool.false_ne_true]

/-- If a word and a parenthesis begin results, a list begins with the parenthesis. -/
theorem exists_likeMethod {u : Token} {rest : List Token} (h : IsResult (t :: u :: rest)) (hword : IsWord t)
    (hu : u.IsText "(") : ∃ name inner, LikeMethod name inner (t :: u :: rest) := by
  rw [IsResult, hword.afterAll] at h
  have hstack := ResultPlace.stack_afterAll h
  rw [Brackets.afterAll_cons, Brackets.after_of_isOpening _ hu.1 (by rw [hu.2]; rfl),
    Option.bind_some] at hstack
  obtain ⟨inner, last, after, rfl, hinner, hcode, hclosing, hpartner, -⟩ :=
    Brackets.exists_closing (show Brackets.afterAll ([] ++ [u.text]) rest = some [] from hstack) (Nat.le_refl _)
  rw [hu.2] at hpartner
  refine ⟨t.text, inner, t, u :: (inner ++ [last]), after, by simp, hword, rfl, u, last, rfl, hu,
    ⟨hcode, ?_⟩, hinner⟩
  simp only [isClosing, Bool.or_eq_true, beq_iff_eq] at hclosing
  rcases hclosing with (htext | htext) | htext
  · exact htext
  · rw [htext] at hpartner
    exact absurd hpartner (by decide)
  · rw [htext] at hpartner
    exact absurd hpartner (by decide)

/-- The brace of its body opens a literal without a name, and with the entries of its list as parameters, unless
its result is a function or a channel that looks like the name and the parameters of a method. Then it opens
a function with that name and those parameters. -/
theorem literal_opens_function (table : DecisionTable) {s : Go} (hs : s.phase = .outside)
    {keyword brace : Token} {ps : List Token} (hkeyword : keyword.IsText "func") (hparams : Bracketed "(" ")" params ps)
    (hresults : TypeSyntax .result results) (hbrace : brace.IsText "\x7b") :
    ((∀ name inner, ¬LikeMethod name inner results) →
      OpensAtEnd table (go s) (keyword :: (ps ++ results) ++ [brace])
        ⟨Ledger.anonymous, s.braces.ledger.line, entryCount (codeTexts params), s.braces.ledger.depth⟩) ∧
    ∀ name inner, LikeMethod name inner results → (name = "func" ∨ name = "chan") ∧
      OpensAtEnd table (go s) (keyword :: (ps ++ results) ++ [brace])
        ⟨name, s.braces.ledger.line, entryCount (codeTexts inner), s.braces.ledger.depth⟩ := by
  have hfront := hresults.front (by decide)
  refine ⟨fun hnot => ?_, ?_⟩
  · obtain ⟨l, hl⟩ := leads_firstGroup table s.braces.ledger.line hparams
    obtain ⟨p, candidate, hleads, hbody⟩ := leads_literal table
      (g := { startLine := s.braces.ledger.line, parameters := l,
              parameterCount := entryCount (codeTexts params) })
      ⟨rfl, rfl, rfl⟩ hresults.isResult hfront fun t u rest hsplit hword hround => by
        subst hsplit
        obtain ⟨name, inner, hlike⟩ :=
          exists_likeMethod hresults.isResult hword ⟨(hfront.second t u rest rfl hword).1, hround⟩
        exact hnot name inner hlike
    exact opensAtEnd hs hkeyword.1 hkeyword.2 hbrace.1 hbrace.2 (hl.append hleads) hbody rfl
  · rintro name inner ⟨t, us, rest, rfl, hword, rfl, hlist⟩
    have hrest : IsResult rest := by
      have hall := hresults.isResult
      rw [IsResult, hword.afterAll] at hall
      exact isResult_of_bracketed hall hlist
    obtain ⟨l, hl⟩ := leads_method table s.braces.ledger.line hparams hword.1 hword.2.1 hword.2.2
      hlist hrest
    obtain ⟨u, last, rfl, hu, -, -⟩ := hlist
    exact ⟨(hfront.second t u _ rfl hword).2 hu.2, opensAtEnd_named hs hkeyword hbrace hword.2.1 hl⟩

/-- A slice of functions, `[]func(y, z int) int`. -/
def functionSlice : List Token :=
  codeTokens ["[", "]", "func", "(", "y", ",", "z", "int", ")", "int"]

theorem functionType_syntax :
    TypeSyntax .type (codeTokens ["func", "(", "y", ",", "z", "int", ")", "int"]) := by
  have hname (text : String) (hword : IsWord { kind := .code, text }) :
      TypeSyntax .type [{ kind := .code, text }] :=
    .named (.simpleName hword)
  have hy : TypeSyntax .entries (codeTokens ["y"]) :=
    .entry (List.forall_mem_nil IsLabel) (hname "y" ⟨rfl, by decide, by decide⟩)
  have hlabel : ∀ t ∈ codeTokens ["z"], IsLabel t := by
    intro t ht
    obtain rfl := List.mem_singleton.1 ht
    exact .inl ⟨rfl, by decide, by decide⟩
  have hint := hname "int" ⟨rfl, by decide, by decide⟩
  have hentries : TypeSyntax .entries (codeTokens ["y", ",", "z", "int"]) :=
    .moreEntries hy ⟨rfl, rfl⟩ (.entry hlabel hint)
  exact .function ⟨rfl, rfl⟩ ⟨rfl, rfl⟩ hentries ⟨rfl, rfl⟩ (.singleResult hint)

theorem bracketed_x : Bracketed "(" ")" (codeTokens ["x", "int"]) (codeTokens ["(", "x", "int", ")"]) :=
  ⟨_, _, rfl, by decide, by decide, by decide⟩

/-- A literal whose result is a slice of functions. -/
theorem literal_opens_function_slice :
    ((Go.start 1).phase = .outside ∧
      Bracketed "(" ")" (codeTokens ["x", "int"]) (codeTokens ["(", "x", "int", ")"]) ∧
      TypeSyntax .result functionSlice ∧ ∀ name inner, ¬LikeMethod name inner functionSlice) ∧
    ((go (Go.start 1)).run (.of .go) (codeTokens ["func", "(", "x", "int", ")", "[", "]", "func", "(", "y",
      ",", "z", "int", ")", "int", "\x7b"])).ledger.frames.map (·.head) = [⟨Ledger.anonymous, 1, 1, 0⟩] := by
  have hlength : WellNested [] := rfl
  have hslice : TypeSyntax .result functionSlice :=
    .singleResult (.array ⟨rfl, rfl⟩ hlength (by simp) ⟨rfl, rfl⟩ functionType_syntax)
  have hnot : ∀ name inner, ¬LikeMethod name inner functionSlice := by
    rintro name inner ⟨t, ps, rest, hsplit, hword, -⟩
    obtain rfl : _ = t := (List.cons_eq_cons.1 hsplit).1
    exact absurd hword.2.1 (by decide)
  refine ⟨⟨rfl, bracketed_x, hslice, hnot⟩, ?_⟩
  have hkeyword : Token.IsText { kind := .code, text := "func" } "func" := by decide
  have hbrace : Token.IsText { kind := .code, text := "\x7b" } "\x7b" := by decide
  exact ((literal_opens_function (.of .go) (s := Go.start 1) rfl hkeyword bracketed_x hslice hbrace).1 hnot).2.1

/-- A literal with one parameter whose result is a function of two is taken for a method named after the
keyword. -/
theorem literal_named_after_result :
    (TypeSyntax .result (codeTokens ["func", "(", "y", ",", "z", "int", ")", "int"]) ∧
      Bracketed "(" ")" (codeTokens ["x", "int"]) (codeTokens ["(", "x", "int", ")"]) ∧
      entryCount (codeTexts (codeTokens ["x", "int"])) = 1) ∧
    ((go (Go.start 1)).run (.of .go) (codeTokens ["func", "(", "x", "int", ")", "func", "(", "y", ",", "z",
      "int", ")", "int", "\x7b"])).ledger.frames.map (·.head) = [⟨"func", 1, 2, 0⟩] ∧
    (Analysis.ofSource .go "" "var f = func(x int) func(y, z int) int \x7b return nil \x7d").1.functions.map
      (fun f => (f.name, f.parameterCount)) = [("func", 2)] := by
  refine ⟨⟨.singleResult functionType_syntax, bracketed_x, by decide⟩, ?_, ?_⟩
  · decide +kernel
  · decide +kernel

end Recognizer.Go

end Cyclomatic
