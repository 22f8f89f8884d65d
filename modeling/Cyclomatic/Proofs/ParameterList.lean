import Mathlib
import Cyclomatic.Proofs.Brackets

/-!
# The entries of a parameter list

What a parameter list counts, token by token, is the number of its entries: of the pieces between the commas
that stand directly inside its brackets (`entries`), those that are parameters. Brackets are followed by their
number alone, whatever their kinds (`nest`), and of well nested tokens that number is the length of the stack
of open brackets (`nestAll_codeTexts`).

While a list is open its count and its current entry stand for what has been read of it
(`ParameterList.count_feedAll`). So whatever its brackets are, a list is closed by its last token and by no
token before, and then it has counted its parameters (`ParameterList.counts_parameters`).
-/

namespace Cyclomatic

/-! ## Nesting -/

/-- The number of open brackets after a token, unless a bracket closes where none is open. -/
def nest (depth : Nat) (text : String) : Option Nat :=
  if isOpening text then some (depth + 1)
  else if isClosing text then
    match depth with
    | 0 => none
    | depth + 1 => some depth
  else some depth

/-- The number of open brackets after tokens. -/
def nestAll (depth : Nat) (texts : List String) : Option Nat :=
  texts.foldlM nest depth

/-- The texts of the code among tokens. -/
def codeTexts (ts : List Token) : List String :=
  (ts.filter (·.isCode)).map (·.text)

variable {depth depth' : Nat} {text : String} {texts : List String} {t : Token} {ts : List Token}

@[simp] theorem nestAll_nil (depth : Nat) : nestAll depth [] = some depth := rfl

@[simp] theorem nestAll_cons (depth : Nat) (text : String) (texts : List String) :
    nestAll depth (text :: texts) = (nest depth text).bind (nestAll · texts) := rfl

/-- Texts may be followed piece by piece. -/
theorem nestAll_append (depth : Nat) (texts more : List String) :
    nestAll depth (texts ++ more) = (nestAll depth texts).bind (nestAll · more) :=
  List.foldlM_append

/-- An opening bracket leads one deeper. -/
theorem nest_of_isOpening (h : isOpening text = true) (depth : Nat) :
    nest depth text = some (depth + 1) := by
  rw [nest.eq_def, h, if_pos rfl]

theorem nest_of_isClosing (h : isClosing text = true) (depth : Nat) :
    nest (depth + 1) text = some depth := by
  rw [nest.eq_def, Brackets.isOpening_of_isClosing h, if_neg Bool.false_ne_true, h, if_pos rfl]

theorem nest_of_neutral (hopening : isOpening text = false) (hclosing : isClosing text = false)
    (depth : Nat) : nest depth text = some depth := by
  rw [nest.eq_def, hopening, if_neg Bool.false_ne_true, hclosing, if_neg Bool.false_ne_true]

/-- What a token can do to the number of open brackets. -/
theorem nest_cases (h : nest depth text = some depth') :
    (isOpening text = true ∧ depth' = depth + 1) ∨
      (isOpening text = false ∧ isClosing text = true ∧ depth = depth' + 1) ∨
      (isOpening text = false ∧ isClosing text = false ∧ depth' = depth) := by
  cases hopening : isOpening text with
  | true =>
    rw [nest_of_isOpening hopening] at h
    exact .inl ⟨rfl, (Option.some.inj h).symm⟩
  | false =>
    cases hclosing : isClosing text with
    | true =>
      cases depth with
      | zero =>
        rw [nest.eq_def, hopening, hclosing] at h
        cases h
      | succ depth =>
        rw [nest_of_isClosing hclosing] at h
        exact .inr (.inl ⟨rfl, rfl, congrArg (· + 1) (Option.some.inj h)⟩)
    | false =>
      rw [nest_of_neutral hopening hclosing] at h
      exact .inr (.inr ⟨rfl, rfl, (Option.some.inj h).symm⟩)

theorem codeTexts_cons_of_isCode (h : t.isCode = true) (ts : List Token) :
    codeTexts (t :: ts) = t.text :: codeTexts ts := by
  rw [codeTexts, List.filter_cons_of_pos h]
  rfl

theorem codeTexts_cons_of_not_isCode (h : t.isCode = false) (ts : List Token) :
    codeTexts (t :: ts) = codeTexts ts := by
  rw [codeTexts, List.filter_cons_of_neg (by simp [h])]
  rfl

/-- Where brackets close what they belong to, their number is never short. -/
theorem nestAll_codeTexts {stack stack' : List String} (h : Brackets.afterAll stack ts = some stack') :
    nestAll stack.length (codeTexts ts) = some stack'.length := by
  induction ts generalizing stack with
  | nil =>
    obtain rfl := Option.some.inj h
    rfl
  | cons t ts ih =>
    rw [Brackets.afterAll_cons] at h
    obtain ⟨next, hnext, hrest⟩ := Option.bind_eq_some_iff.1 h
    rcases Brackets.after_cases hnext with
      ⟨⟨hopening, hclosing⟩, rfl⟩ | ⟨hcode, hopening, rfl⟩ | ⟨hcode, hclosing, rfl⟩
    · cases hcode : t.isCode with
      | false =>
        rw [codeTexts_cons_of_not_isCode hcode]
        exact ih hrest
      | true =>
        rw [hcode, Bool.true_and] at hopening hclosing
        rw [codeTexts_cons_of_isCode hcode, nestAll_cons, nest_of_neutral hopening hclosing]
        exact ih hrest
    · rw [codeTexts_cons_of_isCode hcode, nestAll_cons, nest_of_isOpening hopening]
      exact ih hrest
    · rw [codeTexts_cons_of_isCode hcode, nestAll_cons, List.length_cons, nest_of_isClosing hclosing]
      exact ih hrest

/-- In well nested tokens as many brackets close as open. -/
theorem nestAll_of_wellNested (h : WellNested ts) : nestAll 0 (codeTexts ts) = some 0 :=
  nestAll_codeTexts h

/-! ## Tokens that close what they open -/

/-- The number of brackets that tokens open, less the number of those that they close. -/
def bracketDepth (texts : List String) : Int :=
  (texts.countP isOpening : Int) - (texts.countP isClosing : Int)

/-- The first tokens after which as many brackets have closed as opened are all of them. -/
def ReturnsAtEnd (texts : List String) : Prop :=
  ∀ i < texts.length, bracketDepth (texts.take (i + 1)) = 0 ↔ i + 1 = texts.length

instance (texts : List String) : Decidable (ReturnsAtEnd texts) :=
  inferInstanceAs (Decidable (∀ i < texts.length, _))

@[simp] theorem bracketDepth_nil : bracketDepth [] = 0 := rfl

theorem bracketDepth_of_isOpening (h : isOpening text = true) (texts : List String) :
    bracketDepth (text :: texts) = bracketDepth texts + 1 := by
  have hclosing : isClosing text = false := by
    cases hclosing : isClosing text with
    | false => rfl
    | true =>
      rw [Brackets.isOpening_of_isClosing hclosing] at h
      cases h
  rw [bracketDepth, List.countP_cons_of_pos h, List.countP_cons_of_neg (by simp [hclosing]), bracketDepth]
  omega

theorem bracketDepth_of_isClosing (h : isClosing text = true) (texts : List String) :
    bracketDepth (text :: texts) = bracketDepth texts - 1 := by
  have hopening := Brackets.isOpening_of_isClosing h
  rw [bracketDepth, List.countP_cons_of_neg (by simp [hopening]), List.countP_cons_of_pos h, bracketDepth]
  omega

theorem bracketDepth_of_neutral (hopening : isOpening text = false) (hclosing : isClosing text = false)
    (texts : List String) : bracketDepth (text :: texts) = bracketDepth texts := by
  rw [bracketDepth, List.countP_cons_of_neg (by simp [hopening]),
    List.countP_cons_of_neg (by simp [hclosing]), bracketDepth]

/-- Inside a bracket, tokens that reach depth zero at their end only are well nested up to the bracket that
closes it. -/
theorem exists_closing_of_depth
    (h : ∀ before after, texts = before ++ after → (depth + 1 + bracketDepth before = 0 ↔ after = [])) :
    ∃ inner closing, texts = inner ++ [closing] ∧ isClosing closing = true ∧
      nestAll depth inner = some 0 := by
  induction texts generalizing depth with
  | nil =>
    have hzero := (h [] [] rfl).2 rfl
    rw [bracketDepth_nil] at hzero
    omega
  | cons text texts ih =>
    -- a token that leads to another depth leaves the rest to the hypothesis of the induction
    have hstep {next : Nat} (hnest : nest depth text = some next)
        (hdepth : ∀ before, (depth : Int) + bracketDepth (text :: before) = next + bracketDepth before) :
        ∃ inner closing, text :: texts = inner ++ [closing] ∧ isClosing closing = true ∧
          nestAll depth inner = some 0 := by
      have hrest : ∀ before after, texts = before ++ after →
          ((next : Int) + 1 + bracketDepth before = 0 ↔ after = []) := by
        intro before after hsplit
        rw [← h (text :: before) after (by rw [hsplit]; rfl)]
        have heq := hdepth before
        omega
      obtain ⟨inner, closing, rfl, hclosing, hinner⟩ := ih hrest
      refine ⟨text :: inner, closing, rfl, hclosing, ?_⟩
      rw [nestAll_cons, hnest]
      exact hinner
    cases hopening : isOpening text with
    | true =>
      apply hstep (nest_of_isOpening hopening depth)
      intro before
      rw [bracketDepth_of_isOpening hopening]
      omega
    | false =>
      cases hclosing : isClosing text with
      | true =>
        cases depth with
        | zero =>
          have hzero : (((0 : Nat) : Int) + 1 + bracketDepth [text] = 0) := by
            rw [bracketDepth_of_isClosing hclosing]
            rfl
          obtain rfl := (h [text] texts rfl).1 hzero
          exact ⟨[], text, rfl, hclosing, rfl⟩
        | succ depth =>
          apply hstep (nest_of_isClosing hclosing depth)
          intro before
          rw [bracketDepth_of_isClosing hclosing]
          omega
      | false =>
        apply hstep (nest_of_neutral hopening hclosing depth)
        intro before
        rw [bracketDepth_of_neutral hopening hclosing]

/-- Tokens that begin with an opening bracket and close it at their end are well nested in between. -/
theorem ReturnsAtEnd.exists_inner {opening : String} (hopening : isOpening opening = true)
    (h : ReturnsAtEnd (opening :: texts)) :
    ∃ inner closing, texts = inner ++ [closing] ∧ isClosing closing = true ∧ nestAll 0 inner = some 0 := by
  apply exists_closing_of_depth
  rintro before after rfl
  have hlength : (opening :: (before ++ after)).length = before.length + after.length + 1 := by simp
  have hiff := h before.length (by omega)
  rw [List.take_succ_cons, List.take_left, bracketDepth_of_isOpening hopening, hlength] at hiff
  rw [← List.length_eq_zero_iff]
  omega

/-! ## Entries -/

/-- The pieces between the commas that stand outside all brackets, where `depth` brackets are open at the
beginning. -/
def entriesFrom : Nat → List String → List (List String)
  | _, [] => [[]]
  | depth, text :: texts =>
    if text = "," ∧ depth = 0 then [] :: entriesFrom depth texts
    else (entriesFrom ((nest depth text).getD 0) texts).modifyHead (text :: ·)

/-- The entries of a list, some of which may be empty. -/
def entries (texts : List String) : List (List String) :=
  entriesFrom 0 texts

/-- The number of entries that hold a token. -/
def entryCount (texts : List String) : Nat :=
  (entries texts).countP (!·.isEmpty)

example : entries ["a", "[", "]", "T", ",", "f", "func", "(", "x", ",", "y", ")", ","] =
    [["a", "[", "]", "T"], ["f", "func", "(", "x", ",", "y", ")"], []] := by
  decide

/-- A comma directly inside the brackets begins an entry. -/
theorem entriesFrom_comma (texts : List String) :
    entriesFrom 0 ("," :: texts) = [] :: entriesFrom 0 texts := rfl

/-- Any other text is part of the current entry. -/
theorem entriesFrom_cons (h : ¬(text = "," ∧ depth = 0)) (hnest : nest depth text = some depth')
    (texts : List String) :
    entriesFrom depth (text :: texts) = (entriesFrom depth' texts).modifyHead (text :: ·) := by
  rw [entriesFrom, if_neg h, hnest]
  rfl

namespace ParameterList

variable {p : ParameterList}

/-- Whether an entry is a parameter does not depend on the order in which it is held. -/
theorem isParameter_reverse (markers entry : List String) :
    isParameter markers entry.reverse = isParameter markers entry := by
  match entry with
  | [] => rfl
  | [_] => rfl
  | a :: b :: rest =>
    have hlong (l : List String) (hl : 2 ≤ l.length) : isParameter markers l = true := by
      match l, hl with
      | _ :: _ :: _, _ => rfl
    rw [hlong _ (by simp), hlong _ (by simp)]

/-- An entry is a parameter if it holds a token and is not a marker alone. -/
theorem isParameter_iff {markers entry : List String} :
    isParameter markers entry = true ↔ entry ≠ [] ∧ ∀ marker ∈ markers, entry ≠ [marker] := by
  match entry with
  | [] => simp [isParameter]
  | [text] =>
    simp only [isParameter, Bool.not_eq_true', List.contains_eq_mem, decide_eq_false_iff_not]
    constructor
    · intro hmarker
      refine ⟨List.cons_ne_nil text [], ?_⟩
      rintro marker hmem heq
      obtain rfl := List.singleton_inj.1 heq
      exact hmarker hmem
    · intro hmarker hmem
      exact hmarker.2 text hmem rfl
  | _ :: _ :: _ => simp [isParameter]

/-- Without markers every entry that holds a token is a parameter. -/
theorem isParameter_nil (entry : List String) : isParameter [] entry = !entry.isEmpty := by
  match entry with
  | [] => rfl
  | [_] => rfl
  | _ :: _ :: _ => rfl

/-- Feeds tokens to a list. -/
def feedAll (p : ParameterList) (texts : List String) : ParameterList :=
  texts.foldl (fun p text => (p.feed text).2) p

@[simp] theorem feedAll_nil (p : ParameterList) : p.feedAll [] = p := rfl

@[simp] theorem feedAll_cons (p : ParameterList) (text : String) (texts : List String) :
    p.feedAll (text :: texts) = (p.feed text).2.feedAll texts := rfl

/-- An opening bracket begins a list. -/
theorem feed_begin (hdepth : p.depth = 0) (h : isOpening text = true) :
    p.feed text = (false, { p with depth := 1, count := 0, entry := [] }) := by
  rw [feed, if_pos h, hdepth, if_pos (by decide)]

/-- The closing bracket of a list ends its last entry. -/
theorem feed_end (hdepth : p.depth = 1) (h : isClosing text = true) :
    p.feed text = (true, { p with depth := 0 }.endEntry) := by
  rw [feed, if_neg (by simp [Brackets.isOpening_of_isClosing h]), if_pos h, hdepth, if_pos (by decide)]
  rfl

/-- A token inside a list goes to the current entry, or ends it. The list stays open. -/
theorem feed_inside (hdepth : p.depth = depth + 1) (h : nest depth text = some depth') :
    p.feed text = (false,
      if text = "," ∧ depth = 0 then p.endEntry else { p with depth := depth' + 1 }.extend text) := by
  have hzero : p.depth = 1 ↔ depth = 0 := by omega
  unfold feed
  rcases nest_cases h with ⟨hopening, rfl⟩ | ⟨hopening, hclosing, rfl⟩ | ⟨hopening, hclosing, rfl⟩
  · have hcomma : text ≠ "," := by
      rintro rfl
      cases hopening
    rw [hopening, if_pos rfl, if_neg (by omega), if_neg (fun h => hcomma h.1), hdepth]
    rfl
  · have hcomma : text ≠ "," := by
      rintro rfl
      cases hclosing
    rw [hopening, if_neg Bool.false_ne_true, hclosing, if_pos rfl, if_neg (by omega),
      if_neg (fun h => hcomma h.1), hdepth]
    simp
  · rw [hopening, if_neg Bool.false_ne_true, hclosing, if_neg Bool.false_ne_true, ← hdepth]
    simp only [hzero]
    split <;> rfl

/-- A token inside a list does not close it. -/
theorem feed_stays (hdepth : p.depth = depth + 1) (h : nest depth text = some depth') :
    (p.feed text).1 = false ∧ (p.feed text).2.depth = depth' + 1 := by
  rw [feed_inside hdepth h]
  refine ⟨rfl, ?_⟩
  split
  · rename_i hcomma
    obtain ⟨rfl, rfl⟩ := hcomma
    obtain rfl := Option.some.inj h
    exact hdepth
  · rfl

/-- The entries that a list has counted and the one that it holds are those of what has been read. -/
theorem count_feedAll (hdepth : p.depth = depth + 1) (h : nestAll depth texts = some depth') :
    (p.feedAll texts).depth = depth' + 1 ∧ (p.feedAll texts).markers = p.markers ∧
      (p.feedAll texts).endEntry.count = p.count +
        ((entriesFrom depth texts).modifyHead (p.entry.reverse ++ ·)).countP
          (isParameter p.markers) := by
  induction texts generalizing p depth with
  | nil =>
    obtain rfl := Option.some.inj h
    refine ⟨hdepth, rfl, ?_⟩
    show (if isParameter p.markers p.entry then p.count + 1 else p.count) = _
    simp only [entriesFrom, List.modifyHead_cons, List.append_nil, List.countP_cons, List.countP_nil,
      isParameter_reverse]
    split <;> rfl
  | cons text texts ih =>
    rw [nestAll_cons] at h
    obtain ⟨next, hnext, hrest⟩ := Option.bind_eq_some_iff.1 h
    rw [feedAll_cons, feed_inside hdepth hnext]
    by_cases hcomma : text = "," ∧ depth = 0
    · obtain ⟨rfl, rfl⟩ := hcomma
      obtain rfl := Option.some.inj hnext
      obtain ⟨hd, hm, hc⟩ := ih (p := p.endEntry) hdepth hrest
      refine ⟨hd, hm, ?_⟩
      -- the entry that ends counts if it is a parameter, and a new one begins
      have hhead : ((entriesFrom 0 texts).modifyHead (p.endEntry.entry.reverse ++ ·)) =
          entriesFrom 0 texts := by
        show (entriesFrom 0 texts).modifyHead ([] ++ ·) = _
        cases entriesFrom 0 texts <;> rfl
      rw [hhead] at hc
      have hcount : p.endEntry.count =
          p.count + if isParameter p.markers p.entry = true then 1 else 0 := by
        unfold endEntry
        dsimp only
        split <;> rfl
      have hmarkers : p.endEntry.markers = p.markers := rfl
      rw [if_pos ⟨rfl, rfl⟩, hc, hmarkers, hcount, entriesFrom_comma, List.modifyHead_cons,
        List.append_nil, List.countP_cons, isParameter_reverse]
      omega
    · obtain ⟨hd, hm, hc⟩ := ih (p := { p with depth := next + 1 }.extend text) rfl hrest
      rw [if_neg hcomma]
      refine ⟨hd, hm, ?_⟩
      have hhead : ((entriesFrom next texts).modifyHead (text :: ·)).modifyHead (p.entry.reverse ++ ·) =
          (entriesFrom next texts).modifyHead ((text :: p.entry).reverse ++ ·) := by
        cases entriesFrom next texts <;> simp
      rw [entriesFrom_cons hcomma hnext, hhead]
      exact hc

/-- A list counts its entries that are parameters, and no token before its closing bracket closes it. -/
theorem count_group {opening closing : String} (hdepth : p.depth = 0) (hopening : isOpening opening = true)
    (hclosing : isClosing closing = true) (h : nestAll 0 texts = some 0) :
    (((p.feed opening).2.feedAll texts).feed closing).1 = true ∧
      (((p.feed opening).2.feedAll texts).feed closing).2.count =
        (entries texts).countP (isParameter p.markers) := by
  rw [feed_begin hdepth hopening]
  have hbegun : ({ p with depth := 1, count := 0, entry := [] } : ParameterList).depth =
      ((0 : Nat) : Int) + 1 := rfl
  obtain ⟨hd, -, hc⟩ := count_feedAll hbegun h
  rw [feed_end hd hclosing]
  refine ⟨rfl, ?_⟩
  have hhead : (entriesFrom 0 texts).modifyHead (List.reverse [] ++ ·) = entries texts := by
    show (entriesFrom 0 texts).modifyHead ([] ++ ·) = entriesFrom 0 texts
    cases entriesFrom 0 texts <;> rfl
  rw [hhead] at hc
  exact hc.trans (Nat.zero_add _)

/-- No token inside a list closes it. -/
theorem feed_of_nestAll {before after : List String} (hdepth : p.depth = depth + 1)
    (h : nestAll depth (before ++ text :: after) = some depth') :
    ((p.feedAll before).feed text).1 = false := by
  rw [nestAll_append] at h
  obtain ⟨reached, hbefore, hrest⟩ := Option.bind_eq_some_iff.1 h
  rw [nestAll_cons] at hrest
  obtain ⟨next, hnext, -⟩ := Option.bind_eq_some_iff.1 hrest
  obtain ⟨hreached, -, -⟩ := count_feedAll hdepth hbefore
  exact (feed_stays hreached hnext).1

/-- A list that begins with an opening bracket is closed by the token after which no bracket is open for the
first time, and by none before. It has then counted its entries that hold a token and are not a marker
alone. -/
theorem counts_parameters (markers : List String) {opening : String} {texts : List String}
    (hopening : isOpening opening = true) (hreturn : ReturnsAtEnd (opening :: texts)) :
    (∀ before text after, opening :: texts = before ++ text :: after →
        ((({ markers } : ParameterList).feedAll before).feed text).1 = decide (after = [])) ∧
      (({ markers } : ParameterList).feedAll (opening :: texts)).count =
        (entries texts.dropLast).countP
          fun entry => decide (entry ≠ [] ∧ ∀ marker ∈ markers, entry ≠ [marker]) := by
  obtain ⟨inner, closing, rfl, hclosing, hinner⟩ := hreturn.exists_inner hopening
  have hfresh : ({ markers } : ParameterList).depth = 0 := rfl
  have hbegun : (({ markers } : ParameterList).feed opening).2.depth = ((0 : Nat) : Int) + 1 := by
    rw [feed_begin hfresh hopening]
    rfl
  obtain ⟨hcloses, hcount⟩ := count_group hfresh hopening hclosing hinner
  constructor
  · intro before text after hsplit
    cases before with
    | nil =>
      obtain ⟨rfl, rfl⟩ := List.cons.inj hsplit
      rw [feedAll_nil, feed_begin hfresh hopening]
      simp
    | cons first before =>
      rw [List.cons_append] at hsplit
      obtain ⟨rfl, hrest⟩ := List.cons.inj hsplit
      rw [feedAll_cons]
      -- a token that others follow stands inside the brackets
      rcases List.eq_nil_or_concat after with rfl | ⟨middle, last, rfl⟩
      · obtain ⟨rfl, rfl⟩ := List.append_inj' hrest rfl |>.imp_right List.singleton_inj.1
        rw [hcloses]
        rfl
      · rw [List.concat_eq_append, ← List.cons_append, ← List.append_assoc] at hrest
        obtain ⟨rfl, -⟩ := List.append_inj' hrest rfl
        rw [feed_of_nestAll hbegun hinner]
        simp
  · have hparameters : isParameter markers =
        fun entry => decide (entry ≠ [] ∧ ∀ marker ∈ markers, entry ≠ [marker]) := by
      funext entry
      rw [Bool.eq_iff_iff, isParameter_iff, decide_eq_true_iff]
    rw [List.dropLast_concat, ← hparameters, ← hcount, feedAll_cons, feedAll, List.foldl_concat]
    rfl

/-- The tokens of a list after its opening bracket. Of its seven entries one is a marker alone, one begins with
a marker and three hold no token. -/
def markedList : List String :=
  ["a", ",", "*", ",", "b", "[", "1", ",", "2", "]", ",", ",", "*", "c", ",", ",", ")"]

/-- Three of the entries are parameters. The commas inside the square brackets separate nothing. -/
theorem counts_parameters_markedList :
    isOpening "(" = true ∧ ReturnsAtEnd ("(" :: markedList) ∧
      (∀ before text after, "(" :: markedList = before ++ text :: after →
        ((({ markers := ["/", "*"] } : ParameterList).feedAll before).feed text).1 = decide (after = [])) ∧
      (({ markers := ["/", "*"] } : ParameterList).feedAll ("(" :: markedList)).count = 3 := by
  have hreturn : ReturnsAtEnd ("(" :: markedList) := by decide
  obtain ⟨hanswers, hcount⟩ := counts_parameters ["/", "*"] rfl hreturn
  refine ⟨rfl, hreturn, hanswers, ?_⟩
  rw [hcount]
  decide

/-- Without markers every entry that holds a token counts. -/
theorem entryCount_eq (texts : List String) : entryCount texts = (entries texts).countP (isParameter []) :=
  congrArg (List.countP · (entries texts)) (funext fun entry => (isParameter_nil entry).symm)

end ParameterList

end Cyclomatic
