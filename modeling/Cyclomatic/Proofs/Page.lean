import Mathlib
import Cyclomatic.Proofs.Colours

/-!
# Pages without their colours

A text of a page fades into another (`Fades`) if taking the colours away from it leaves the other, up to a
number of blanks that are lost. Texts fade piece by piece and lines fade one by one, so the blanks that a page
loses are those that its parts lose. Only the line of a function can lose any: the complexity of a function
that stands out is padded when it has its colour already, and the control sequences fill the width
(`lostBlanks`). So taking the colours away gives the plain page exactly if no function that is shown has a
noticeable complexity of less than four digits (`Report.page_uncoloured`).
-/

namespace Cyclomatic

/-! ## Lost blanks -/

/-- One text is another without some of its blanks. -/
structure LacksBlanks (lost : Nat) (left full : List Char) : Prop where
  sublist : left.Sublist full
  others : left.filter (· != ' ') = full.filter (· != ' ')
  length_add : left.length + lost = full.length

namespace LacksBlanks

variable {k l : Nat} {left left' full full' : List Char}

theorem refl (cs : List Char) : LacksBlanks 0 cs cs :=
  ⟨.refl cs, rfl, rfl⟩

/-- Blanks that two texts lack are lacking where the texts are joined. -/
theorem append (h : LacksBlanks k left full) (h' : LacksBlanks l left' full') :
    LacksBlanks (k + l) (left ++ left') (full ++ full') := by
  refine ⟨h.sublist.append h'.sublist, ?_, ?_⟩
  · rw [List.filter_append, List.filter_append, h.others, h'.others]
  · rw [List.length_append, List.length_append, ← h.length_add, ← h'.length_add]
    omega

/-- A run of blanks can be lost altogether. -/
theorem blanks (n : Nat) : LacksBlanks n [] (List.replicate n ' ') := by
  refine ⟨List.nil_sublist _, ?_, ?_⟩
  · rw [List.filter_replicate_of_neg (by decide), List.filter_nil]
  · rw [List.length_nil, Nat.zero_add, List.length_replicate]

/-- The text is the other one exactly if no blank is lost. -/
theorem eq_iff (h : LacksBlanks k left full) : left = full ↔ k = 0 := by
  have hlength := h.length_add
  constructor
  · rintro rfl
    omega
  · rintro rfl
    exact h.sublist.eq_of_length hlength

end LacksBlanks

/-! ## Fading -/

/-- Taking the colours away from a text leaves a plain text without some of its blanks, whatever follows. -/
def Fades (lost : Nat) (coloured plain : String) : Prop :=
  ∃ left, (∀ after, uncoloured (coloured.toList ++ after) = left ++ uncoloured after) ∧
    LacksBlanks lost left plain.toList

namespace Fades

variable {k l : Nat} {c c' p p' s t : String}

/-- A text without escape characters fades into itself. -/
theorem of_escapeFree (h : EscapeFree s) : Fades 0 s s :=
  ⟨s.toList, h.uncoloured_append, .refl _⟩

/-- Texts fade piece by piece. -/
theorem append (h : Fades k c p) (h' : Fades l c' p') : Fades (k + l) (c ++ c') (p ++ p') := by
  obtain ⟨left, hleft, hlacks⟩ := h
  obtain ⟨left', hleft', hlacks'⟩ := h'
  refine ⟨left ++ left', fun after => ?_, ?_⟩
  · rw [String.toList_append, List.append_assoc, hleft, hleft', List.append_assoc]
  · rw [String.toList_append]
    exact hlacks.append hlacks'

/-- A text without escape characters may follow. -/
theorem before (h : Fades k c p) (hs : EscapeFree s) : Fades k (c ++ s) (p ++ s) :=
  h.append (of_escapeFree hs)

/-- Two such texts may follow, as in a table. -/
theorem before_entry (h : Fades k c p) (hs : EscapeFree s) (ht : EscapeFree t) :
    Fades k (c ++ s ++ t) (p ++ s ++ t) :=
  (h.before hs).before ht

/-- A text without escape characters may come first. -/
theorem after (h : Fades k c p) (hs : EscapeFree s) : Fades k (s ++ c) (s ++ p) := by
  have := (of_escapeFree hs).append h
  rwa [Nat.zero_add] at this

/-- Blanks that are left out are lost blanks. -/
theorem blanks (n : Nat) : Fades n "" (String.ofList (List.replicate n ' ')) := by
  refine ⟨[], fun after => rfl, ?_⟩
  rw [String.toList_ofList]
  exact .blanks n

/-- What taking the colours away leaves lacks the lost blanks. -/
theorem lacksBlanks (h : Fades k c p) : LacksBlanks k (uncoloured c.toList) p.toList := by
  obtain ⟨left, hleft, hlacks⟩ := h
  have hall := hleft []
  rw [List.append_nil, uncoloured_nil, List.append_nil] at hall
  rwa [hall]

end Fades

/-- Lines that fade one by one lose their blanks together. -/
inductive FadeLines : Nat → List String → List String → Prop
  | nil : FadeLines 0 [] []
  | cons {k l : Nat} {c p : String} {cs ps : List String} (head : Fades k c p) (tail : FadeLines l cs ps) :
    FadeLines (k + l) (c :: cs) (p :: ps)

namespace FadeLines

variable {k l : Nat} {cs cs' ps ps' : List String}

/-- Lines that lose nothing one by one lose nothing together. -/
theorem of_forall₂ (h : List.Forall₂ (Fades 0) cs ps) : FadeLines 0 cs ps := by
  induction h with
  | nil => exact .nil
  | cons head _ ih => exact .cons head ih

/-- Lines made one by one lose what each of them loses. -/
theorem map {α : Type} {as : List α} {lost : α → Nat} {f g : α → String}
    (h : ∀ a ∈ as, Fades (lost a) (f a) (g a)) : FadeLines (as.map lost).sum (as.map f) (as.map g) := by
  induction as with
  | nil => exact .nil
  | cons a as ih =>
    rw [List.forall_mem_cons] at h
    exact .cons h.1 (ih h.2)

/-- Lines lose what the first and the last of them lose. -/
theorem append (h : FadeLines k cs ps) (h' : FadeLines l cs' ps') :
    FadeLines (k + l) (cs ++ cs') (ps ++ ps') := by
  induction h with
  | nil => rwa [Nat.zero_add]
  | cons head _ ih =>
    rw [Nat.add_assoc]
    exact .cons head ih

/-- Lines joined by a separator lose what the lines lose. -/
theorem intercalate {sep : String} (hsep : EscapeFree sep) (h : FadeLines k cs ps) :
    Fades k (sep.intercalate cs) (sep.intercalate ps) := by
  induction h with
  | nil =>
    rw [String.intercalate_nil]
    exact .of_escapeFree (by decide)
  | cons head tail ih =>
    cases tail with
    | nil =>
      rw [String.intercalate_singleton, String.intercalate_singleton]
      exact head
    | cons head' tail =>
      rw [String.intercalate_cons_cons, String.intercalate_cons_cons]
      exact (head.before hsep).append ih

end FadeLines

/-- Two ways to make lines come to the same fault, or, if all is in order, to lines of which the first fade
into the second. -/
def FadeAlike (inOrder : Prop) (lost : Nat) (x y : Except Fault (List String)) : Prop :=
  (¬inOrder ∧ ∃ fault, x = .error fault ∧ y = .error fault) ∨
    (inOrder ∧ ∃ cs ps, x = .ok cs ∧ y = .ok ps ∧ FadeLines lost cs ps)

namespace FadeAlike

variable {a b : Prop} {k l : Nat} {x x' y y' : Except Fault (List String)} {cs cs' ps ps' : List String}

theorem ok (h : FadeLines k cs ps) : FadeAlike True k (.ok cs) (.ok ps) :=
  .inr ⟨trivial, cs, ps, rfl, rfl, h⟩

/-- Parts that may fail fade alike one after the other, and both are there if all of it is. -/
theorem append (h : FadeAlike a k x y) (h' : FadeAlike b l x' y') :
    FadeAlike (a ∧ b) (k + l) (do return (← x) ++ (← x')) (do return (← y) ++ (← y')) := by
  rcases h with ⟨ha, fault, rfl, rfl⟩ | ⟨ha, cs, ps, rfl, rfl, h⟩
  · exact .inl ⟨fun hab => ha hab.1, fault, rfl, rfl⟩
  rcases h' with ⟨hb, fault, rfl, rfl⟩ | ⟨hb, cs', ps', rfl, rfl, h'⟩
  · exact .inl ⟨fun hab => hb hab.2, fault, rfl, rfl⟩
  · exact .inr ⟨⟨ha, hb⟩, cs ++ cs', ps ++ ps', rfl, rfl, h.append h'⟩

/-- Lines before and after that lose nothing. -/
theorem between (h : FadeAlike a k x y) (hfront : FadeLines 0 cs ps) (hback : FadeLines 0 cs' ps') :
    FadeAlike a k (x.map (cs ++ · ++ cs')) (y.map (ps ++ · ++ ps')) := by
  rcases h with ⟨ha, fault, rfl, rfl⟩ | ⟨ha, inner, inner', rfl, rfl, h⟩
  · exact .inl ⟨ha, fault, rfl, rfl⟩
  · have hall := (hfront.append h).append hback
    rw [Nat.zero_add, Nat.add_zero] at hall
    exact .inr ⟨ha, _, _, rfl, rfl, hall⟩

/-- The condition may be stated in another way. -/
theorem congr (h : FadeAlike a k x y) (hab : a ↔ b) : FadeAlike b k x y := by
  rwa [← propext hab]

end FadeAlike

/-! ## Reports that can be shown -/

namespace FileReport

/-- The texts that a page shows of a file have no escape characters. -/
structure WithoutEscapes (f : FileReport) : Prop where
  path : EscapeFree f.path
  error : ∀ e, f.error = some e → EscapeFree e
  functions : ∀ a, f.result = some a → ∀ g ∈ a.functions, EscapeFree g.name

/-- A file that was analyzed has a score. -/
def Scored (f : FileReport) : Prop :=
  f.result.isSome → f.score.isSome

end FileReport

namespace Report

/-- The texts that a page shows have no escape characters. -/
structure WithoutEscapes (r : Report) : Prop where
  files : ∀ f ∈ r.files, f.WithoutEscapes
  languages : ∀ l ∈ r.languages, EscapeFree l
  errors : ∀ e ∈ r.errors, EscapeFree e

/-- A report with all that a page needs: its time can be written, and every file that was analyzed has a
score. -/
structure Presentable (r : Report) : Prop where
  time : ∃ text, r.scanTime.fixed 2 = .ok text
  scored : ∀ f ∈ r.files, f.Scored

end Report

/-! ## Parts of a page -/

/-- The same page with colours. -/
def PageOptions.lit (o : PageOptions) : PageOptions :=
  { o with color := true }

/-- The same page without colours. -/
def PageOptions.unlit (o : PageOptions) : PageOptions :=
  { o with color := false }

namespace Page

/-- A text in its colour fades into the text. -/
theorem fades_paint {s : String} (hs : EscapeFree s) (style : Style) (o : PageOptions) :
    Fades 0 (paint o.lit style s) (paint o.unlit style s) := by
  refine ⟨s.toList, fun after => ?_, .refl _⟩
  change uncoloured ((Style.sequence style.number ++ s ++ Style.sequence 0).toList ++ after) = _
  rw [String.toList_append, String.toList_append, List.append_assoc, List.append_assoc,
    uncoloured_sequence, hs.uncoloured_append, uncoloured_sequence]

/-- The blanks that the line of a function loses: those that should follow a complexity that stands out. -/
def lostBlanks (f : FunctionMeasure) : Nat :=
  if f.ccn > noticeableCcn then 4 - (toString f.ccn).length else 0

/-- A function that stands out loses blanks unless its complexity fills the width. -/
theorem lostBlanks_eq_zero_iff (f : FunctionMeasure) :
    lostBlanks f = 0 ↔ ¬(10 < f.ccn ∧ f.ccn < 1000) := by
  rw [lostBlanks, noticeableCcn]
  split
  case isFalse h =>
    simp only [true_iff]
    omega
  case isTrue h =>
    obtain ⟨n, hn⟩ := Int.eq_ofNat_of_zero_le (show 0 ≤ f.ccn by omega)
    have hlength : (toString f.ccn).length = (Nat.toDigits 10 n).length := by
      rw [hn, Int.toString_eq_repr]
      change n.repr.length = _
      rw [Nat.repr_eq_ofList_toDigits, String.length_ofList]
    have hdigits := Nat.length_toDigits_le_iff (b := 10) (n := n) (k := 3) (by decide) (by decide)
    rw [hlength]
    omega

variable {o : PageOptions}

/-- The complexity of a function in its place. -/
theorem fades_ccn (f : FunctionMeasure) : Fades (lostBlanks f)
    (Text.padRight 4 (if f.ccn > noticeableCcn then
      paint o.lit .red (toString f.ccn) else toString f.ccn))
    (Text.padRight 4 (if f.ccn > noticeableCcn then
      paint o.unlit .red (toString f.ccn) else toString f.ccn)) := by
  have hfree := EscapeFree.int f.ccn
  rw [lostBlanks]
  split
  case isFalse => exact .of_escapeFree (hfree.padRight 4)
  case isTrue =>
    -- With its control sequences the text is wider than its place, so no blanks follow it.
    have hwide : Text.padRight 4 (paint o.lit .red (toString f.ccn)) =
        paint o.lit .red (toString f.ccn) ++ "" := by
      have hred : (Style.sequence Style.red.number).length = 5 := by decide
      have hlength : 4 - (paint o.lit .red (toString f.ccn)).length = 0 := by
        change 4 - (Style.sequence Style.red.number ++ toString f.ccn ++ Style.sequence 0).length = 0
        rw [String.length_append, String.length_append, hred]
        omega
      rw [Text.padRight, hlength]
      rfl
    rw [hwide]
    have hfades := (fades_paint hfree .red o).append (.blanks (4 - (toString f.ccn).length))
    rwa [Nat.zero_add] at hfades

/-- The line of a function loses the blanks that its complexity does. -/
theorem fades_functionLine {f : FunctionMeasure} (h : EscapeFree f.name) :
    Fades (lostBlanks f) (functionLine o.lit f) (functionLine o.unlit f) := by
  have hname := (h.truncated (t := Text.ellipsis) (by decide) 32).padRight 32
  have hlines : EscapeFree (toString f.startLine ++ "-" ++ toString f.endLine) :=
    ((EscapeFree.int _).append (by decide)).append (.int _)
  have hfront : EscapeFree ("      " ++ Text.padRight 32 (Text.truncated f.name 32 Text.ellipsis) ++
      " lines " ++ Text.padRight 11 (toString f.startLine ++ "-" ++ toString f.endLine) ++ " CCN ") :=
    (((EscapeFree.append (by decide) hname).append (by decide)).append (hlines.padRight 11)).append
      (by decide)
  have hccn := (fades_ccn (o := o) f).after hfront
  have hnloc := hccn.before_entry (s := " NLOC ") (by decide) ((EscapeFree.int f.nloc).padRight 5)
  exact hnloc.before_entry (by decide) (.int f.parameterCount)

/-- The label of a score loses nothing: it is padded before it is coloured. -/
theorem fades_scoreLabel (score : Int) :
    Fades 0 (scoreLabel o.lit score) (scoreLabel o.unlit score) := by
  -- The score is padded before the label gets its colour.
  have hscore : EscapeFree ("[" ++ Text.padLeft 2 (toString score)) :=
    .append (by decide) ((EscapeFree.int score).padLeft 2)
  refine fades_paint ?_ _ _
  exact ((hscore.append (by decide)).append (.levelName _)).append (by decide)

/-- The blanks that the lines of an analysis lose. -/
def lostInAnalysis (o : PageOptions) (a : Analysis) : Nat :=
  if o.showFunctions then (a.functions.map lostBlanks).sum else 0

/-- The lines of functions lose blanks function by function, in any order. -/
theorem fadeLines_functions {functions : List FunctionMeasure} (h : ∀ f ∈ functions, EscapeFree f.name) :
    FadeLines (functions.map lostBlanks).sum ((sortedByStart functions).map (functionLine o.lit))
      ((sortedByStart functions).map (functionLine o.unlit)) := by
  have hperm : (sortedByStart functions).Perm functions := List.mergeSort_perm _ _
  -- The lines are sorted, but a sum does not depend on the order.
  rw [← (hperm.map lostBlanks).sum_eq]
  exact .map fun f hf => fades_functionLine (h f (hperm.mem_iff.1 hf))

/-- The note on a file whose functions were not detected. -/
theorem fadeLines_note (a : Analysis) : FadeLines 0
    (if o.verbose && a.mode == .aggregate then
      [paint o.lit .dim "      (aggregate estimate, functions not detected)"] else [])
    (if o.verbose && a.mode == .aggregate then
      [paint o.unlit .dim "      (aggregate estimate, functions not detected)"] else []) := by
  split
  · exact .of_forall₂ (.cons (fades_paint (by decide) .dim o) .nil)
  · exact .nil

/-- The lines of an analysis lose what those of its functions do, if functions are shown. -/
theorem fadeLines_analysis {path : String} {a : Analysis} (hpath : EscapeFree path)
    (h : ∀ f ∈ a.functions, EscapeFree f.name) (score : Int) :
    FadeLines (lostInAnalysis o a) (analysisLines o.lit path a score)
      (analysisLines o.unlit path a score) := by
  have hlabel := ((fades_scoreLabel (o := o) score).after (s := "  ") (by decide)).before (s := " ")
    (by decide)
  have hplace := hlabel.append (fades_paint hpath .cyan o)
  have hccn := hplace.before_entry (s := "  CCN ") (by decide) (.int a.totalCcn)
  have hnloc := hccn.before_entry (s := ", NLOC ") (by decide) (.int a.nloc)
  have hcount := hnloc.before_entry (s := ", ") (by decide) (.nat a.functionCount)
  have hhead := hcount.before (s := " function(s)") (by decide)
  have hfunctions : FadeLines (lostInAnalysis o a)
      (if o.showFunctions then (sortedByStart a.functions).map (functionLine o.lit) else [])
      (if o.showFunctions then (sortedByStart a.functions).map (functionLine o.unlit) else []) := by
    rw [lostInAnalysis]
    split
    · exact fadeLines_functions h
    · exact .nil
  have hfront := (FadeLines.of_forall₂ (.cons hhead .nil)).append (fadeLines_note (o := o) a)
  have hall := hfront.append hfunctions
  rwa [Nat.zero_add] at hall

/-- The blanks that the lines of a file lose. -/
def lostInFile (o : PageOptions) (f : FileReport) : Nat :=
  (f.result.map (lostInAnalysis o)).getD 0

/-- The lines of a file are there if its scores are, with colours and without. -/
theorem fadeAlike_fileLines {f : FileReport} (h : f.WithoutEscapes) :
    FadeAlike f.Scored (lostInFile o f) (fileLines o.lit f) (fileLines o.unlit f) := by
  have hfunctions := h.functions
  rw [fileLines, fileLines, FileReport.Scored, lostInFile]
  cases hresult : f.result with
  | none =>
    have herror : EscapeFree (f.error.getD "None") := by
      cases he : f.error with
      | none => exact (by decide)
      | some e => exact h.error e he
    have hmark := (fades_paint (s := "[error]") (by decide) .red o).after (s := "  ") (by decide)
    have hpath := hmark.before_entry (s := " ") (by decide) h.path
    have hline := hpath.before_entry (s := ": ") (by decide) herror
    exact (FadeAlike.ok (.of_forall₂ (.cons hline .nil))).congr (by simp)
  | some a =>
    cases f.score with
    | none => exact .inl ⟨by simp, _, rfl, rfl⟩
    | some score =>
      exact (FadeAlike.ok (fadeLines_analysis h.path (hfunctions a hresult) score.score)).congr (by simp)

/-- The lines of some files, one file after the other. -/
theorem flatten_mapM_cons (o : PageOptions) (f : FileReport) (files : List FileReport) :
    ((f :: files).mapM (fileLines o)).map List.flatten =
      (do return (← fileLines o f) ++ (← (files.mapM (fileLines o)).map List.flatten)) := by
  rw [List.mapM_cons]
  cases fileLines o f with
  | error fault => rfl
  | ok lines =>
    cases files.mapM (fileLines o) with
    | error fault => rfl
    | ok rest => rfl

/-- The lines of files, one file after the other, are there if all scores are. -/
theorem fadeAlike_allLines {files : List FileReport} (h : ∀ f ∈ files, f.WithoutEscapes) :
    FadeAlike (∀ f ∈ files, f.Scored) (files.map (lostInFile o)).sum
      ((files.mapM (fileLines o.lit)).map List.flatten)
      ((files.mapM (fileLines o.unlit)).map List.flatten) := by
  induction files with
  | nil => exact (FadeAlike.ok .nil).congr (by simp)
  | cons f files ih =>
    rw [List.forall_mem_cons] at h
    rw [flatten_mapM_cons, flatten_mapM_cons]
    exact ((fadeAlike_fileLines h.1).append (ih h.2)).congr List.forall_mem_cons.symm

theorem fades_wideRule (o : PageOptions) : Fades 0 (wideRule o.lit) (wideRule o.unlit) :=
  fades_paint (.replicate (by decide) _) _ _

theorem fades_narrowRule (o : PageOptions) : Fades 0 (narrowRule o.lit) (narrowRule o.unlit) :=
  fades_paint (.replicate (by decide) _) _ _

/-- The part on files loses what the files do. -/
theorem fadeAlike_filesLines {files : List FileReport} (h : ∀ f ∈ files, f.WithoutEscapes) :
    FadeAlike (∀ f ∈ files, f.Scored) (files.map (lostInFile o)).sum (filesLines o.lit files)
      (filesLines o.unlit files) := by
  have hmap (o : PageOptions) : filesLines o files =
      if files.isEmpty then .ok [] else ((files.mapM (fileLines o)).map List.flatten).map
        ([paint o .bold "Files", narrowRule o] ++ · ++ [""]) := by
    rw [filesLines]
    cases files.mapM (fileLines o) <;> rfl
  rw [hmap, hmap]
  split
  case isTrue hnil =>
    rw [List.isEmpty_iff.1 hnil]
    exact (FadeAlike.ok .nil).congr (by simp)
  case isFalse =>
    have hheading := fades_paint (s := "Files") (by decide) .bold o
    exact (fadeAlike_allLines h).between (.of_forall₂ (.cons hheading (.cons (fades_narrowRule o) .nil)))
      (.of_forall₂ (.cons (.of_escapeFree (by decide)) .nil))

/-- The summary loses nothing, and is there if the time can be written. -/
theorem fadeAlike_summaryLines {r : Report} (h : r.WithoutEscapes) :
    FadeAlike (∃ text, r.scanTime.fixed 2 = .ok text) 0 (summaryLines o.lit r)
      (summaryLines o.unlit r) := by
  rw [summaryLines, summaryLines]
  cases htime : r.scanTime.fixed 2 with
  | error e => exact .inl ⟨by simp, _, rfl, rfl⟩
  | ok time =>
    have hfree : EscapeFree time := .number htime
    have hlanguages : EscapeFree (", ".intercalate r.languages) :=
      .intercalate (by decide) h.languages
    have hblank : Fades 0 "" "" := .of_escapeFree (by decide)
    have hentry {label text : String} (hlabel : EscapeFree label) (htext : EscapeFree text) :
        Fades 0 (label ++ text) (label ++ text) :=
      .of_escapeFree (hlabel.append htext)
    refine (FadeAlike.ok (.of_forall₂ ?_)).congr (by simp)
    -- The seven lines of the heading have styles, the entries under it have none.
    refine .cons hblank (.cons (fades_wideRule o) (.cons (fades_paint (by decide) _ o) (.cons
      (fades_wideRule o) (.cons hblank (.cons (fades_paint (by decide) _ o) (.cons (fades_narrowRule o)
      ?_))))))
    refine .cons (hentry (by decide) (.nat _)) (.cons (hentry (by decide) hlanguages)
      (.cons ((hentry (by decide) hfree).before (by decide)) (.cons (hentry (by decide) (.int _))
      (.cons (hentry (by decide) (.nat _)) (.cons (hentry (by decide) (.int _)) (.cons hblank .nil))))))

/-- The list of errors loses nothing. -/
theorem fadeLines_errorLines {errors : List String} (h : ∀ e ∈ errors, EscapeFree e) :
    FadeLines 0 (errorLines o.lit errors) (errorLines o.unlit errors) := by
  have hbanner := fades_paint (s := " ERRORS ") (by decide) .red o
  rw [errorLines, errorLines]
  split
  · exact .nil
  · have hfront : FadeLines 0 _ _ :=
      .of_forall₂ (.cons (fades_wideRule o) (.cons hbanner (.cons (fades_wideRule o) .nil)))
    have herrors : FadeLines 0 (errors.map ("  - " ++ ·)) (errors.map ("  - " ++ ·)) :=
      .of_forall₂ (List.forall₂_same.2 (List.forall_mem_map.2 fun e he =>
        .of_escapeFree (.append (by decide) (h e he))))
    exact (hfront.append herrors).append (.of_forall₂ (.cons (.of_escapeFree (by decide)) .nil))

end Page

/-! ## Pages -/

namespace Report

variable {r : Report} {o : PageOptions}

/-- A page with colours fades into the page without. -/
theorem page_fades (h : r.WithoutEscapes) (o : PageOptions) :
    (¬r.Presentable ∧ ∃ fault, r.page o.lit = .error fault ∧ r.page o.unlit = .error fault) ∨
      (r.Presentable ∧ ∃ coloured plain, r.page o.lit = .ok coloured ∧ r.page o.unlit = .ok plain ∧
        Fades (r.files.map (Page.lostInFile o)).sum coloured plain) := by
  have hall := ((Page.fadeAlike_summaryLines (o := o) h).append
    (Page.fadeAlike_filesLines (o := o) h.files)).between .nil (Page.fadeLines_errorLines (o := o) h.errors)
  rw [Nat.zero_add] at hall
  have hpage (o : PageOptions) : r.page o =
      ((do return (← Page.summaryLines o r) ++ (← Page.filesLines o r.files)).map
        ([] ++ · ++ Page.errorLines o r.errors)).map ("\n".intercalate ·) := by
    rw [page]
    cases Page.summaryLines o r with
    | error fault => rfl
    | ok lines => cases Page.filesLines o r.files <;> rfl
  rw [hpage, hpage]
  rcases hall with ⟨hr, fault, hlit, hunlit⟩ | ⟨hr, cs, ps, hlit, hunlit, hlines⟩
  · rw [hlit, hunlit]
    exact .inl ⟨fun h => hr ⟨h.time, h.scored⟩, fault, rfl, rfl⟩
  · rw [hlit, hunlit]
    exact .inr ⟨⟨hr.1, hr.2⟩, _, _, rfl, rfl, hlines.intercalate (by decide)⟩

/-- No blank is lost exactly if no function that is shown has a noticeable complexity of less than four
digits. -/
theorem lost_eq_zero_iff (r : Report) (o : PageOptions) : (r.files.map (Page.lostInFile o)).sum = 0 ↔
    ¬(o.showFunctions = true ∧ ∃ a ∈ r.analyses, ∃ f ∈ a.functions, 10 < f.ccn ∧ f.ccn < 1000) := by
  have hanalysis (a : Analysis) : Page.lostInAnalysis o a = 0 ↔
      ¬(o.showFunctions = true ∧ ∃ f ∈ a.functions, 10 < f.ccn ∧ f.ccn < 1000) := by
    rw [Page.lostInAnalysis]
    split
    case isFalse h => simp [h]
    case isTrue h => simp [h, List.sum_eq_zero_iff, Page.lostBlanks_eq_zero_iff]
  have hfile (f : FileReport) : Page.lostInFile o f = 0 ↔
      ∀ a, f.result = some a → Page.lostInAnalysis o a = 0 := by
    rw [Page.lostInFile]
    cases f.result <;> simp
  simp only [List.sum_eq_zero_iff, List.forall_mem_map, hfile, hanalysis, analyses, List.mem_filterMap]
  constructor
  · rintro hnone ⟨hshow, a, ⟨f, hf, hresult⟩, hnoticeable⟩
    exact hnone f hf a hresult ⟨hshow, hnoticeable⟩
  · rintro hnone f hf a hresult ⟨hshow, hnoticeable⟩
    exact hnone ⟨hshow, a, ⟨f, hf, hresult⟩, hnoticeable⟩

/-- Taking the colours away from a page changes no characters but blanks, and leaves the plain page exactly if
no function that is shown has a noticeable complexity of less than four digits. A page that cannot be made
fails alike with and without colours. -/
theorem page_uncoloured (h : r.WithoutEscapes) (o : PageOptions) :
    (¬r.Presentable ∧ ∃ fault, ∀ color, r.page { o with color } = .error fault) ∨
      (r.Presentable ∧ ∃ coloured plain, r.page { o with color := true } = .ok coloured ∧
        r.page { o with color := false } = .ok plain ∧
        (uncoloured coloured.toList).filter (· != ' ') = plain.toList.filter (· != ' ') ∧
        (uncoloured coloured.toList = plain.toList ↔
          ¬(o.showFunctions = true ∧
            ∃ a ∈ r.analyses, ∃ f ∈ a.functions, 10 < f.ccn ∧ f.ccn < 1000))) := by
  rcases page_fades h o with ⟨hr, fault, hlit, hunlit⟩ | ⟨hr, coloured, plain, hlit, hunlit, hfades⟩
  · exact .inl ⟨hr, fault, Bool.forall_bool.2 ⟨hunlit, hlit⟩⟩
  · refine .inr ⟨hr, coloured, plain, hlit, hunlit, hfades.lacksBlanks.others, ?_⟩
    rw [hfades.lacksBlanks.eq_iff, lost_eq_zero_iff]

/-- A report of one file, with a function that stands out. -/
def oneNoticeable : Report :=
  { files := [{
      path := "a.py"
      language := some .python
      result := some ⟨11, 1, 4, 10, [⟨"f", 1, 1, 11, 1, 0, 4, 0⟩], some .python, "a.py", .function⟩
      score := some ⟨5, 11, 1, 1, 7, 1⟩ }]
    languages := ["python"] }

theorem oneNoticeable_withoutEscapes : oneNoticeable.WithoutEscapes := by
  refine ⟨List.forall_mem_singleton.2 ⟨by decide, by simp, ?_⟩, by decide, by simp [oneNoticeable]⟩
  rintro a ⟨⟩
  exact List.forall_mem_singleton.2 (by decide)

theorem oneNoticeable_presentable : oneNoticeable.Presentable :=
  ⟨⟨_, rfl⟩, List.forall_mem_singleton.2 fun _ => rfl⟩

/-- As long as no functions are shown, the page loses nothing but its colours. -/
theorem page_uncoloured_oneNoticeable :
    ∃ coloured plain, oneNoticeable.page { color := true, verbose := true } = .ok coloured ∧
      oneNoticeable.page { verbose := true } = .ok plain ∧ uncoloured coloured.toList = plain.toList := by
  rcases page_uncoloured oneNoticeable_withoutEscapes { verbose := true } with
    ⟨hr, -⟩ | ⟨-, coloured, plain, hcoloured, hplain, -, hiff⟩
  · exact absurd oneNoticeable_presentable hr
  · exact ⟨coloured, plain, hcoloured, hplain, hiff.2 (by simp)⟩

/-- With its functions the page lacks blanks once its colours are taken away. -/
theorem page_uncoloured_narrow :
    oneNoticeable.WithoutEscapes ∧
      ∃ coloured plain, oneNoticeable.page { color := true, showFunctions := true } = .ok coloured ∧
        oneNoticeable.page { showFunctions := true } = .ok plain ∧
        uncoloured coloured.toList ≠ plain.toList := by
  refine ⟨oneNoticeable_withoutEscapes, ?_⟩
  rcases page_fades oneNoticeable_withoutEscapes { showFunctions := true } with
    ⟨hr, -⟩ | ⟨-, coloured, plain, hcoloured, hplain, hfades⟩
  · exact absurd oneNoticeable_presentable hr
  · refine ⟨coloured, plain, hcoloured, hplain, ?_⟩
    rw [Ne, hfades.lacksBlanks.eq_iff]
    decide

end Report

end Cyclomatic
