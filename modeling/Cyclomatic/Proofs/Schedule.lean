import Mathlib
import Cyclomatic.Proofs.Path
import Cyclomatic.Proofs.Pool

/-!
# Scans in any order

A scan of many files gives one report, whatever the number of workers and the order in which the files are
finished, but for the order of the errors, and it accounts for every file once
(`Scanner.scan_independent_of_schedule`). This holds of scans whose outcomes are arranged by a schedule, and
of pools of workers, whose steps may come in any order.
-/

namespace Cyclomatic

/-- Numbers can be compared. -/
theorem Value.exceeds_of_number {a b : Value} {x y : Number} (ha : a.number? = some x)
    (hb : b.number? = some y) : a.exceeds b = .ok (y.lt x) := by
  rw [exceeds, inOrder.eq_def]
  dsimp only
  rw [ha, hb]

namespace Scanner

variable {s : Scanner} {d : Disk} {target : String} {files : List String}

/-! ## Reports -/

/-- What is gathered from the scans of some files, in any order, makes the report of the scans in order, and
accounts for the files. -/
theorem gathered_like_outcomes {reports : List FileReport} {errors : List String}
    (hdistinct : files.Nodup)
    (hreports : reports.Perm (files.filterMap fun path => (s.scanFile d path).report?))
    (herrors : errors.Perm (files.flatMap fun path => (s.scanFile d path).allErrors)) :
    (Report.gathered reports errors).Alike (.ofOutcomes (files.map (s.scanFile d))) ∧
      s.Accounts d files (.gathered reports errors) := by
  refine ⟨?_, gathered_accounts hdistinct hreports herrors⟩
  rw [Report.ofOutcomes_eq_gathered, List.filterMap_map, List.flatMap_map]
  exact Report.gathered_alike hreports ((hreports.map _).nodup_iff.2 (nodup_reports hdistinct))
    herrors

/-- So do the outcomes of the scans in another order. -/
theorem ofOutcomes_like_outcomes {outcomes : List Outcome} (hdistinct : files.Nodup)
    (h : outcomes.Perm (files.map (s.scanFile d))) :
    (Report.ofOutcomes outcomes).Alike (.ofOutcomes (files.map (s.scanFile d))) ∧
      s.Accounts d files (.ofOutcomes outcomes) := by
  have hreports := h.filterMap (·.report?)
  have herrors := h.flatMap_right (·.allErrors)
  rw [List.filterMap_map] at hreports
  rw [List.flatMap_map] at herrors
  rw [Report.ofOutcomes_eq_gathered outcomes]
  exact gathered_like_outcomes hdistinct hreports herrors

/-! ## Scans -/

/-- Whether workers share the files can be told if their number is a number. -/
theorem isParallel_of_number {workers : Value} (h : workers.number?.isSome) (files : List String) :
    ∃ parallel, (s.withWorkers workers).isParallel files = .ok parallel := by
  obtain ⟨x, hx⟩ := Option.isSome_iff_exists.1 h
  rw [isParallel]
  split
  · exact ⟨_, Value.exceeds_of_number hx rfl⟩
  · exact ⟨false, rfl⟩

/-- One worker has the files to itself. -/
theorem isParallel_one (files : List String) :
    (s.withWorkers (.int 1)).isParallel files = .ok false := by
  rw [isParallel]
  split
  · rfl
  · rfl

/-- The report of a scan that finds files, finished in the order of the schedule if workers share them. -/
theorem scan_report {parallel : Bool} (schedule : Schedule) (hthere : d.contains target = true)
    (hfiles : Discovery.files (Discovery.findings s.settings d target) = .ok files)
    (hparallel : s.isParallel files = .ok parallel) :
    (s.scan schedule d target).report =
      .ok (.ofOutcomes (if parallel then schedule.arrange (files.map (s.scanFile d))
        else files.map (s.scanFile d))) := by
  rw [scan, hthere, if_neg (by simp)]
  dsimp only
  rw [hfiles]
  dsimp only
  rw [hparallel]

/-! ## A directory of two files -/

/-- A directory with a source text and with a file that looks binary. -/
def mixedDisk : Disk where
  root := .directory [("p", .directory [("a.py", .file [120]), ("b.py", .file [0])])]

/-- A scanner that leaves no file out, and that can compute no score for want of thresholds. -/
def bandless : Scanner where
  settings := { excludePatterns := .list [], scoring := .known { ccnThresholds := .list [] } }

theorem bandless_language {path : String} (h : Path.extension path = ".py") :
    bandless.settings.languageOf? path = .ok (some .python) := by
  have hlower : Text.lower ".py" = ".py" := by decide +kernel
  show Language.ofFile? [] path = _
  rw [Language.ofFile?, h, hlower]
  rfl

theorem bandless_considerFile {path : String} (hne : path.isEmpty = false)
    (h : Path.extension path = ".py") (byte : UInt8) :
    Discovery.considerFile bandless.settings [] "p" path (some [byte]) = .ok [.source path] := by
  have hkept : bandless.settings.ignores [] "p" path false = .ok false := by
    rw [Settings.ignores, Path.relative, hne]
    rfl
  rw [Discovery.considerFile, hkept, bandless_language h]
  rfl

theorem mixedDisk_extensions :
    Path.extension "p/a.py" = ".py" ∧ Path.extension "p/b.py" = ".py" := by
  simp only [Path.extension, Path.baseName, Path.segments_eq_splitOn]
  decide +kernel

/-- The files of the directory are found. -/
theorem mixedDisk_files :
    Discovery.files (Discovery.findings bandless.settings mixedDisk "p") =
      .ok ["p/a.py", "p/b.py"] := by
  have hplain : Path.plain "p" = "p" := by
    simp only [Path.plain, Path.parts, Path.segments_eq_splitOn]
    decide +kernel
  have hfind : mixedDisk.find "p" =
      .ok (.directory [("a.py", .file [120]), ("b.py", .file [0])]) := by
    cbv
  have hbranches : Discovery.branches bandless.settings mixedDisk "p" "p"
      [("a.py", .file [120]), ("b.py", .file [0])] =
      [Discovery.fileBranch bandless.settings [] "p" "p/a.py" "a.py" (some [120]),
        Discovery.fileBranch bandless.settings [] "p" "p/b.py" "b.py" (some [0])] := by
    have hjoin : Path.join "p" "a.py" = "p/a.py" ∧ Path.join "p" "b.py" = "p/b.py" := by
      decide +kernel
    rw [← hjoin.1, ← hjoin.2]
    rfl
  rw [Discovery.findings, hplain, hfind]
  dsimp only
  rw [Discovery.walk, hbranches, Discovery.fileBranch, Discovery.fileBranch,
    bandless_considerFile rfl mixedDisk_extensions.1,
    bandless_considerFile rfl mixedDisk_extensions.2, Discovery.assemble,
    List.mergeSort_of_pairwise (by decide +kernel)]
  rfl

/-- The scan of the source text fails, and the other file has a report without a result. -/
theorem mixedDisk_outcomes :
    (bandless.scanFile mixedDisk "p/a.py").failure? =
        some "Error scanning p/a.py: not enough values to unpack (expected 4, got 0)" ∧
      (bandless.scanFile mixedDisk "p/b.py").report =
        .ok (unreadable "p/b.py" (some .python) "File could not be read") := by
  have hsegments : Path.segments "p/a.py" = ["p", "a.py"] ∧
      Path.segments "p/b.py" = ["p", "b.py"] := by
    rw [Path.segments_eq_splitOn, Path.segments_eq_splitOn]
    decide +kernel
  have hread : mixedDisk.read "p/a.py" = .ok [120] ∧ mixedDisk.read "p/b.py" = .ok [0] := by
    rw [Disk.read, Disk.read, Disk.find, Disk.find, Disk.locate, Disk.locate, hsegments.1,
      hsegments.2]
    constructor
    · cbv
    · cbv
  have hlanguage {path : String} (h : Path.extension path = ".py") :
      bandless.fileLanguage? path = .ok (some .python) :=
    bandless_language h
  have hbinary : Content.looksBinary [120] = false ∧ Content.looksBinary [0] = true := by
    decide +kernel
  rw [scanFile, scanFile, hlanguage mixedDisk_extensions.1, hlanguage mixedDisk_extensions.2]
  dsimp only
  rw [scanSource, scanSource, hread.1, hread.2]
  dsimp only
  rw [hbinary.1, hbinary.2]
  exact ⟨by decide +kernel, rfl⟩

/-! ## Any order -/

/-- A scan gives one report, whatever the number of workers and the order in which files are finished, up to
the order of its errors, and the report accounts for every file once. Pools of workers give that report too:
from wherever it has got to, a pool can go on to an end, and at every end it has gathered the report. -/
theorem scan_independent_of_schedule (hthere : d.contains target = true)
    (hfiles : Discovery.files (Discovery.findings s.settings d target) = .ok files)
    (hdistinct : files.Nodup) :
    ∃ r, ((s.withWorkers (.int 1)).scan .inOrder d target).report = .ok r ∧
      s.Accounts d files r ∧
      (∀ workers schedule, workers.number?.isSome →
        ∃ r', ((s.withWorkers workers).scan schedule d target).report = .ok r' ∧
          r'.Alike r ∧ s.Accounts d files r') ∧
      ∀ workers p, 0 < workers → Pool.Run s d workers { waiting := files } p →
        (∃ p', Pool.Run s d workers p p' ∧ p'.Halted s d workers) ∧
          (p.Halted s d workers → p.report.Alike r ∧ s.Accounts d files p.report) := by
  have hfiles' (workers : Value) :
      Discovery.files (Discovery.findings (s.withWorkers workers).settings d target) = .ok files := by
    rw [withWorkers, Discovery.findings_withWorkers, hfiles]
  refine ⟨.ofOutcomes (files.map (s.scanFile d)), ?_, ?_, fun workers schedule hnumber => ?_,
    fun workers p hworkers hrun => ⟨Pool.exists_halted s d workers p, fun hhalted => ?_⟩⟩
  · exact scan_report .inOrder hthere (hfiles' _) (isParallel_one files)
  · exact (ofOutcomes_like_outcomes hdistinct (.refl _)).2
  · obtain ⟨parallel, hparallel⟩ := isParallel_of_number (s := s) hnumber files
    refine ⟨_, scan_report schedule hthere (hfiles' workers) hparallel, ?_⟩
    rw [scanFile_withWorkers]
    refine ofOutcomes_like_outcomes hdistinct ?_
    split
    · exact schedule.perm _
    · exact .refl _
  · obtain ⟨hreports, herrors⟩ := hrun.gathers hworkers hhalted
    exact gathered_like_outcomes hdistinct hreports herrors

/-- The directory of two files can be scanned in any order: the scan of one fails, the other has a report. -/
theorem scan_independent_of_schedule_mixedDisk :
    mixedDisk.contains "p" = true ∧
      Discovery.files (Discovery.findings bandless.settings mixedDisk "p") =
        .ok ["p/a.py", "p/b.py"] ∧
      ["p/a.py", "p/b.py"].Nodup ∧
      (bandless.scanFile mixedDisk "p/a.py").failure? =
        some "Error scanning p/a.py: not enough values to unpack (expected 4, got 0)" ∧
      (bandless.scanFile mixedDisk "p/b.py").report =
        .ok (unreadable "p/b.py" (some .python) "File could not be read") ∧
      ∃ r, ((bandless.withWorkers (.int 1)).scan .inOrder mixedDisk "p").report = .ok r ∧
        bandless.Accounts mixedDisk ["p/a.py", "p/b.py"] r ∧
        (∀ workers schedule, workers.number?.isSome →
          ∃ r', ((bandless.withWorkers workers).scan schedule mixedDisk "p").report = .ok r' ∧
            r'.Alike r ∧ bandless.Accounts mixedDisk ["p/a.py", "p/b.py"] r') ∧
        ∀ workers p, 0 < workers →
          Pool.Run bandless mixedDisk workers { waiting := ["p/a.py", "p/b.py"] } p →
          (∃ p', Pool.Run bandless mixedDisk workers p p' ∧ p'.Halted bandless mixedDisk workers) ∧
            (p.Halted bandless mixedDisk workers →
              p.report.Alike r ∧ bandless.Accounts mixedDisk ["p/a.py", "p/b.py"] p.report) := by
  have hthere : mixedDisk.contains "p" = true := by cbv
  have hdistinct : ["p/a.py", "p/b.py"].Nodup := by decide
  exact ⟨hthere, mixedDisk_files, hdistinct, mixedDisk_outcomes.1, mixedDisk_outcomes.2,
    scan_independent_of_schedule hthere mixedDisk_files hdistinct⟩

end Scanner

end Cyclomatic
