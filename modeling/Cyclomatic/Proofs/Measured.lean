import Mathlib
import Cyclomatic.Proofs.DecisionBalance
import Cyclomatic.Proofs.Merge
import Cyclomatic.Proofs.Scan

/-!
# Measured complexities

A function has a path through it, so its complexity is at least 1 (`Analysis.measured_ofSource`). This is
handed on from the analysis of a text to the report of its file, from there to the report of a scan
(`Scanner.measured_scan`), and to what reports are merged into (`Report.Measured.combine`). In a merged report
of such reports the greatest complexity is the greatest of theirs (`Report.maxFunctionCcn_combine_of_measured`).
-/

namespace Cyclomatic

/-- The functions of an analysis have a complexity of at least 1. -/
def Analysis.Measured (a : Analysis) : Prop :=
  ∀ f ∈ a.functions, 1 ≤ f.ccn

/-- What has been found in a file has been measured. -/
def FileReport.Measured (f : FileReport) : Prop :=
  ∀ a ∈ f.result, a.Measured

/-- What has been found in the files of a report has been measured. -/
def Report.Measured (r : Report) : Prop :=
  ∀ f ∈ r.files, f.Measured

/-- The greatest of numbers that are not negative is not negative. -/
theorem Analysis.greatest_nonneg {ns : List Int} (h : ∀ n ∈ ns, 0 ≤ n) : 0 ≤ greatest ns := by
  by_cases hns : ns = []
  · rw [hns]
    rfl
  · exact h _ (greatest_mem hns).1

/-! ## Scans -/

/-- Whatever a text is, the functions that are found in it have a complexity of at least 1. -/
theorem Analysis.measured_ofSource (language : Language) (filename source : String) :
    (ofSource language filename source).1.Measured := by
  unfold ofSource
  split
  · rename_i a ha
    have hreports := byFunction_reports ha
    intro f hf
    rw [hreports.functions_eq] at hf
    exact (tallied_recognize hreports.succeeds).functions f hf
  · -- an estimate names no function
    exact List.forall_mem_nil _

namespace Scanner

variable {s : Scanner} {d : Disk} {path : String} {f : FileReport}

/-- An analysis that succeeds gives the report of a measured one. -/
theorem measured_analyze {language : Language} {source : String}
    (h : (s.analyze language path source).report = .ok f) : f.Measured := by
  intro a ha
  rw [(report_of_analyze h).2] at ha
  obtain rfl := Option.some.inj ha
  exact Analysis.measured_ofSource language path source

/-- A source text in memory is measured. -/
theorem measured_scanText {source : String} {given : Option Language}
    (h : (s.scanText path source given).report = .ok f) : f.Measured := by
  rw [scanText] at h
  split at h
  · exact measured_analyze h
  · cases h

/-- A file is measured, or it was not analyzed and there is nothing to measure. -/
theorem measured_scanFile (h : (s.scanFile d path).report = .ok f) : f.Measured := by
  have hunreadable {language : Option Language} {error : String}
      (h : Except.ok (unreadable path language error) = Except.ok (ε := Fault) f) : f.Measured := by
    obtain rfl := Except.ok.inj h
    exact fun a ha => by cases ha
  rw [scanFile] at h
  split at h
  · cases h
  · exact hunreadable h
  · rw [scanSource] at h
    split at h
    · cases h
    · exact hunreadable h
    · split at h
      · exact hunreadable h
      · exact measured_analyze h

/-- A scan reports measured complexities, in whatever order its files are finished. -/
theorem measured_scan {schedule : Schedule} {target : String} {r : Report}
    (h : (s.scan schedule d target).report = .ok r) : r.Measured := by
  have hoffiles {files : List String} {outcomes : List Outcome}
      (hperm : outcomes.Perm (files.map (s.scanFile d))) : (Report.ofOutcomes outcomes).Measured := by
    intro f hf
    obtain ⟨o, ho, hreport⟩ := List.mem_filterMap.1 ((List.mergeSort_perm _ _).mem_iff.1 hf)
    obtain ⟨path, -, rfl⟩ := List.mem_map.1 (hperm.mem_iff.1 ho)
    exact measured_scanFile (Outcome.report_of_report? hreport)
  rw [scan] at h
  split at h
  · cases h
  · dsimp only at h
    split at h
    · cases h
    · split at h
      · cases h
      · rw [← Except.ok.inj h]
        split
        · exact hoffiles (schedule.perm _)
        · exact hoffiles (List.Perm.refl _)

end Scanner

/-! ## Merged reports -/

namespace Report

variable {r : Report} {reports : List Report}

/-- The greatest complexity of a measured report is not negative. -/
theorem Measured.maxFunctionCcn_nonneg (h : r.Measured) : 0 ≤ r.maxFunctionCcn := by
  rw [maxFunctionCcn]
  refine Analysis.greatest_nonneg (List.forall_mem_map.2 fun a ha => ?_)
  obtain ⟨f, hf, hresult⟩ := List.mem_filterMap.1 ha
  refine Analysis.greatest_nonneg (List.forall_mem_map.2 fun g hg => ?_)
  exact (h f hf a hresult g hg).trans' zero_le_one

/-- Merging changes no complexity. -/
theorem Measured.combine (h : ∀ r ∈ reports, r.Measured) (time : Number) :
    (Report.combine reports time).Measured := by
  intro f hf
  obtain ⟨r, hr, hf⟩ := List.mem_flatMap.1 ((files_combine_perm reports time).mem_iff.1 hf)
  exact h r hr f hf

/-- The greatest complexity in several reports of scans is the greatest of theirs. -/
theorem maxFunctionCcn_combine_of_measured (h : ∀ r ∈ reports, r.Measured) (time : Number) :
    (Report.combine reports time).maxFunctionCcn = Analysis.greatest (reports.map (·.maxFunctionCcn)) :=
  merges_combine.maxFunctionCcn_eq_of_nonneg fun r hr => (h r hr).maxFunctionCcn_nonneg

end Report

end Cyclomatic
