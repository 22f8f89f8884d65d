import Mathlib
import Cyclomatic.Scan

/-!
# Reports in any order

A report puts what was gathered in order (`Report.gathered`), so the order in which files were finished can
be told from its errors alone (`Report.gathered_alike`), as long as no two reports have the same path.
-/

namespace Cyclomatic

/-! ## Texts in order -/

/-- Texts are compared in their usual order. -/
theorem textLe_iff {a b : String} : textLe a b = true ↔ a ≤ b :=
  decide_eq_true_iff

theorem textLe_trans (a b c : String) (hab : textLe a b = true) (hbc : textLe b c = true) :
    textLe a c = true :=
  textLe_iff.2 (le_trans (textLe_iff.1 hab) (textLe_iff.1 hbc))

theorem textLe_total (a b : String) : (textLe a b || textLe b a) = true := by
  rw [Bool.or_eq_true, textLe_iff, textLe_iff]
  exact le_total a b

/-- Of equal items all but the first are left out. -/
theorem nodup_eraseDups {α : Type} [BEq α] [LawfulBEq α] (xs : List α) : xs.eraseDups.Nodup := by
  match xs with
  | [] => exact .nil
  | x :: xs =>
    rw [List.eraseDups_cons, List.nodup_cons]
    exact ⟨by simp [List.mem_eraseDups], nodup_eraseDups _⟩
termination_by xs.length
decreasing_by exact Nat.lt_succ_of_le (List.length_filter_le _ _)

/-- Texts are sorted. -/
theorem pairwise_sortedUnique (texts : List String) : (sortedUnique texts).Pairwise (· ≤ ·) :=
  (List.pairwise_mergeSort textLe_trans textLe_total _).imp textLe_iff.1

/-- The order of texts does not matter once they are sorted. -/
theorem sortedUnique_perm {texts texts' : List String} (h : texts.Perm texts') :
    sortedUnique texts = sortedUnique texts' := by
  refine List.Perm.eq_of_pairwise' (pairwise_sortedUnique texts) (pairwise_sortedUnique texts') ?_
  refine (List.mergeSort_perm _ _).trans (List.Perm.trans ?_ (List.mergeSort_perm _ _).symm)
  rw [List.perm_ext_iff_of_nodup (nodup_eraseDups texts) (nodup_eraseDups texts')]
  intro a
  rw [List.mem_eraseDups, List.mem_eraseDups, h.mem_iff]

/-- Files are sorted by their paths. -/
theorem pairwise_sortedByPath (files : List FileReport) :
    (sortedByPath files).Pairwise fun a b => a.path ≤ b.path := by
  refine List.Pairwise.imp textLe_iff.1 ?_
  apply List.pairwise_mergeSort
  · exact fun a b c => textLe_trans a.path b.path c.path
  · exact fun a b => textLe_total a.path b.path

/-- The order of files does not matter once they are sorted, if their paths are distinct. -/
theorem sortedByPath_perm {files files' : List FileReport} (h : files.Perm files')
    (hdistinct : (files.map (·.path)).Nodup) : sortedByPath files = sortedByPath files' := by
  have hperm := List.mergeSort_perm files fun a b => textLe a.path b.path
  have hperm' := List.mergeSort_perm files' fun a b => textLe a.path b.path
  refine List.Perm.eq_of_pairwise (fun a b ha hb hab hba => ?_) (pairwise_sortedByPath files)
    (pairwise_sortedByPath files') (hperm.trans (h.trans hperm'.symm))
  exact List.inj_on_of_nodup_map hdistinct (hperm.mem_iff.1 ha)
    (h.mem_iff.2 (hperm'.mem_iff.1 hb)) (le_antisymm hab hba)

/-- If the paths of files are distinct, each file is alone with its path. -/
theorem filter_path_eq_singleton {files : List FileReport} {f : FileReport}
    (hdistinct : (files.map (·.path)).Nodup) (hf : f ∈ files) :
    files.filter (·.path == f.path) = [f] := by
  rw [← List.perm_singleton,
    List.perm_ext_iff_of_nodup (hdistinct.of_map.filter _) (List.nodup_singleton f)]
  intro g
  rw [List.mem_filter, List.mem_singleton, beq_iff_eq]
  constructor
  · rintro ⟨hg, hpath⟩
    exact List.inj_on_of_nodup_map hdistinct hg hf hpath
  · rintro rfl
    exact ⟨hf, rfl⟩

/-! ## Gathering -/

namespace Report

/-- Two reports that differ in the order of their errors at most. Times are left out. -/
structure Alike (r r' : Report) : Prop where
  files_eq : r.files = r'.files
  languages_eq : r.languages = r'.languages
  errors_perm : r.errors.Perm r'.errors

/-- The report of some files and errors, given in the order in which they were gathered. -/
def gathered (files : List FileReport) (errors : List String) : Report where
  files := sortedByPath files
  languages := sortedUnique (files.filterMap (·.detected?))
  errors := errors

/-- Outcomes are gathered as the reports and errors that they have. -/
theorem ofOutcomes_eq_gathered (outcomes : List Outcome) :
    ofOutcomes outcomes = gathered (outcomes.filterMap (·.report?)) (outcomes.flatMap (·.allErrors)) :=
  rfl

/-- What is gathered in another order gives a like report, if the paths of the files are distinct. -/
theorem gathered_alike {files files' : List FileReport} {errors errors' : List String}
    (hfiles : files.Perm files') (hdistinct : (files.map (·.path)).Nodup)
    (herrors : errors.Perm errors') : (gathered files errors).Alike (gathered files' errors') where
  files_eq := sortedByPath_perm hfiles hdistinct
  languages_eq := sortedUnique_perm (hfiles.filterMap _)
  errors_perm := herrors

end Report

end Cyclomatic
