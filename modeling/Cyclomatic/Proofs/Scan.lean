import Mathlib
import Cyclomatic.Proofs.Report

/-!
# Scans file by file

What scanning one file tells: its report bears its path, and no error that it notes looks like a failure
(`IsFailure`). So a report of the scans of distinct paths, however they were gathered, accounts for every
path once (`Scanner.gathered_accounts`): by the report of its scan or, if that failed, by one error. The
number of workers plays no part in any of this (`Scanner.withWorkers`).
-/

namespace Cyclomatic

/-! ## Failures -/

/-- How the error begins that stands for a scan that failed. -/
def failureMark : List Char :=
  "Error scanning ".toList

/-- Whether an error stands for a scan that failed. -/
def IsFailure (error : String) : Prop :=
  failureMark <+: error.toList

instance : DecidablePred IsFailure :=
  fun error => inferInstanceAs (Decidable (failureMark <+: error.toList))

/-- An error that begins otherwise stands for no failure. -/
theorem not_isFailure_append {start rest : String}
    (h : ¬failureMark.take start.toList.length <+: start.toList) : ¬IsFailure (start ++ rest) := by
  rw [IsFailure, String.toList_append]
  intro hmark
  apply h
  refine List.prefix_of_prefix_length_le ((List.take_prefix _ _).trans hmark)
    (List.prefix_append _ _) ?_
  exact List.length_take_le _ _

/-- The error that stands for an outcome, if the scan failed. -/
def Outcome.failure? (o : Outcome) : Option String :=
  match o.report with
  | .ok _ => none
  | .error f => some ("Error scanning " ++ o.path ++ ": " ++ f.message)

namespace Outcome

variable {o : Outcome}

/-- A scan that succeeds gives its report. -/
theorem report?_of_ok {f : FileReport} (h : o.report = .ok f) : o.report? = some f := by
  rw [report?, h]
  rfl

theorem report?_of_error {e : Fault} (h : o.report = .error e) : o.report? = none := by
  rw [report?, h]
  rfl

/-- The report of an outcome is that of its scan. -/
theorem report_of_report? {f : FileReport} (h : o.report? = some f) : o.report = .ok f := by
  cases hreport : o.report with
  | ok g => rwa [report?_of_ok hreport, Option.some_inj, ← Except.ok.injEq] at h
  | error e =>
    rw [report?_of_error hreport] at h
    cases h

/-- A failure tells the path and the fault. -/
theorem failure?_of_error {e : Fault} (h : o.report = .error e) :
    o.failure? = some ("Error scanning " ++ o.path ++ ": " ++ e.message) := by
  rw [failure?, h]

/-- Such an error looks like a failure. -/
theorem isFailure_of_failure? {error : String} (h : o.failure? = some error) : IsFailure error := by
  rw [failure?] at h
  split at h
  · cases h
  · obtain rfl := Option.some.inj h
    rw [IsFailure, String.append_assoc, String.append_assoc, String.toList_append]
    exact List.prefix_append _ _

/-- The errors of an outcome are those of its scan and then its failure. -/
theorem allErrors_eq (o : Outcome) : o.allErrors = o.errors ++ o.failure?.toList := by
  rw [allErrors, failure?]
  cases o.report with
  | ok f => rfl
  | error e => rfl

end Outcome

/-! ## The number of workers -/

/-- Settings with another number of workers. -/
def Settings.withWorkers (s : Settings) (workers : Value) : Settings :=
  { s with maxWorkers := workers }

namespace Discovery

variable (s : Settings) (workers : Value) (d : Disk) (base : String)

mutual

/-- The walk does not depend on the number of workers. -/
theorem walk_withWorkers (path : String) : ∀ node : Node,
    walk (s.withWorkers workers) d base path node = walk s d base path node
  | .directory entries => by rw [walk, walk, branches_withWorkers path entries]
  | .file _ => by rw [walk, walk]
  | .link _ => by rw [walk, walk]

/-- Neither do its branches. -/
theorem branches_withWorkers (path : String) : ∀ entries : List (String × Node),
    branches (s.withWorkers workers) d base path entries = branches s d base path entries
  | [] => rfl
  | (name, node) :: rest => by
    rw [branches.eq_def, branches.eq_def]
    dsimp only
    rw [branches_withWorkers path rest]
    cases node with
    | directory entries =>
      dsimp only
      rw [walk_withWorkers _ (.directory entries)]
      rfl
    | file bytes => rfl
    | link target => rfl

end

/-- What is found does not depend on the number of workers. -/
theorem findings_withWorkers (target : String) :
    findings (s.withWorkers workers) d target = findings s d target := by
  rw [findings, findings]
  split
  · rfl
  · exact walk_withWorkers s workers d target _ _
  · rfl
  · rfl
  · rfl

end Discovery

namespace Scanner

/-- A scanner with another number of workers. -/
def withWorkers (s : Scanner) (workers : Value) : Scanner :=
  { s with settings := s.settings.withWorkers workers }

/-- The scan of a file does not depend on the number of workers. -/
theorem scanFile_withWorkers (s : Scanner) (workers : Value) :
    (s.withWorkers workers).scanFile = s.scanFile :=
  rfl

variable {s : Scanner} {d : Disk} {path : String}

/-! ## The scan of a file -/

/-- What is scanned keeps its path. -/
theorem analyze_path (s : Scanner) (language : Language) (path source : String) :
    (s.analyze language path source).path = path := by
  rw [analyze]

/-- The scan of a text that could be read notes no errors. -/
theorem analyze_errors (s : Scanner) (language : Language) (path source : String) :
    (s.analyze language path source).errors = [] := by
  rw [analyze]

/-- The report of an analysis bears the path of the text and holds the analysis. -/
theorem report_of_analyze {language : Language} {source : String} {f : FileReport}
    (h : (s.analyze language path source).report = .ok f) :
    f.path = path ∧ f.result = some (Analysis.ofSource language path source).1 := by
  rw [analyze] at h
  dsimp only at h
  cases hscoring : s.settings.scoring.scoring with
  | error e =>
    rw [hscoring] at h
    cases h
  | ok scoring =>
    rw [hscoring] at h
    change (scoring.rubric.score _ >>= fun score => pure _) = _ at h
    cases hscore : scoring.rubric.score (Analysis.ofSource language path source).1 with
    | error e =>
      rw [hscore] at h
      cases h
    | ok score =>
      rw [hscore] at h
      cases h
      exact ⟨rfl, rfl⟩

@[simp] theorem scanFile_path (s : Scanner) (d : Disk) (path : String) :
    (s.scanFile d path).path = path := by
  rw [scanFile]
  split
  · rfl
  · rfl
  · rw [scanSource]
    split
    · rfl
    · rfl
    · split
      · rfl
      · exact analyze_path ..

/-- The report of a file bears its path. -/
theorem report_path {f : FileReport} (h : (s.scanFile d path).report = .ok f) : f.path = path := by
  rw [scanFile] at h
  split at h
  · cases h
  · rw [← Except.ok.inj h, unreadable]
  · rw [scanSource] at h
    split at h
    · cases h
    · rw [← Except.ok.inj h, unreadable]
    · split at h
      · rw [← Except.ok.inj h, unreadable]
      · exact (report_of_analyze h).1

/-- No error that is noted during the scan of a file looks like a failure. -/
theorem not_isFailure_of_mem_errors {error : String} (h : error ∈ (s.scanFile d path).errors) :
    ¬IsFailure error := by
  rw [scanFile] at h
  split at h
  · cases h
  · cases h
  · rw [scanSource] at h
    split at h
    · cases h
    · dsimp only at h
      obtain rfl := List.mem_singleton.1 h
      rw [String.append_assoc, String.append_assoc]
      exact not_isFailure_append (by decide +kernel)
    · split at h
      · obtain rfl := List.mem_singleton.1 h
        exact not_isFailure_append (by decide +kernel)
      · rw [analyze_errors] at h
        cases h

/-! ## Accounts -/

/-- A report accounts for every path once: by the report of its scan or, if that failed, by an error. -/
structure Accounts (s : Scanner) (d : Disk) (paths : List String) (r : Report) : Prop where
  /-- A file that was scanned has its report, and no other. -/
  reported : ∀ path ∈ paths, ∀ f, (s.scanFile d path).report = .ok f →
    r.files.filter (·.path == path) = [f]
  /-- A file whose scan failed has no report but an error. -/
  failed : ∀ path ∈ paths, ∀ e, (s.scanFile d path).report = .error e →
    r.files.filter (·.path == path) = [] ∧
      "Error scanning " ++ path ++ ": " ++ e.message ∈ r.errors
  /-- There are no reports of other files. -/
  found : ∀ f ∈ r.files, f.path ∈ paths
  /-- The failures among the errors are those of the files, one for each. -/
  failures : (r.errors.filter (IsFailure ·)).Perm
    (paths.filterMap fun path => (s.scanFile d path).failure?)

variable {paths : List String}

/-- The reports of files of distinct paths have distinct paths. -/
theorem nodup_reports (h : paths.Nodup) :
    ((paths.filterMap fun path => (s.scanFile d path).report?).map (·.path)).Nodup := by
  have hpath : (fun path => (s.scanFile d path).report?.map (·.path)) =
      Option.guard fun path => (s.scanFile d path).report?.isSome := by
    funext path
    cases hreport : (s.scanFile d path).report? with
    | none => simp [Option.guard, hreport]
    | some f => simp [Option.guard, hreport, report_path (Outcome.report_of_report? hreport)]
  rw [List.map_filterMap, hpath, List.filterMap_eq_filter]
  exact h.filter _

/-- The failures of a file are those among its errors. -/
theorem filter_isFailure_allErrors (s : Scanner) (d : Disk) (path : String) :
    (s.scanFile d path).allErrors.filter (IsFailure ·) = (s.scanFile d path).failure?.toList := by
  have herrors : (s.scanFile d path).errors.filter (IsFailure ·) = [] :=
    List.filter_eq_nil_iff.2 fun error h => by simpa using not_isFailure_of_mem_errors h
  have hfailure : (s.scanFile d path).failure?.toList.filter (IsFailure ·) =
      (s.scanFile d path).failure?.toList :=
    List.filter_eq_self.2 fun error h => by
      simpa using Outcome.isFailure_of_failure? (Option.mem_toList.1 h)
  rw [Outcome.allErrors_eq, List.filter_append, herrors, hfailure, List.nil_append]

/-- What is gathered from the scans of some files, in any order, accounts for them. -/
theorem gathered_accounts {files : List FileReport} {errors : List String} (hdistinct : paths.Nodup)
    (hfiles : files.Perm (paths.filterMap fun path => (s.scanFile d path).report?))
    (herrors : errors.Perm (paths.flatMap fun path => (s.scanFile d path).allErrors)) :
    s.Accounts d paths (.gathered files errors) := by
  have hperm : (sortedByPath files).Perm (paths.filterMap fun path => (s.scanFile d path).report?) :=
    (List.mergeSort_perm _ _).trans hfiles
  have hnodup : ((sortedByPath files).map (·.path)).Nodup :=
    (hperm.map _).nodup_iff.2 (nodup_reports hdistinct)
  have hmem {f : FileReport} : f ∈ sortedByPath files ↔
      ∃ path ∈ paths, (s.scanFile d path).report? = some f := by
    rw [hperm.mem_iff, List.mem_filterMap]
  have hfailures : (errors.filter (IsFailure ·)).Perm
      (paths.filterMap fun path => (s.scanFile d path).failure?) := by
    refine (herrors.filter _).trans (List.Perm.of_eq ?_)
    rw [List.filter_flatMap, List.filterMap_eq_flatMap_toList]
    exact congrArg (paths.flatMap ·) (funext fun path => filter_isFailure_allErrors s d path)
  refine ⟨fun path hpath f hreport => ?_, fun path hpath e hreport => ⟨?_, ?_⟩, fun f hf => ?_,
    hfailures⟩
  · have hf : f ∈ sortedByPath files := hmem.2 ⟨path, hpath, Outcome.report?_of_ok hreport⟩
    rw [← report_path hreport]
    exact filter_path_eq_singleton hnodup hf
  · rw [List.filter_eq_nil_iff]
    intro f hf heq
    obtain ⟨path', -, hreport'⟩ := hmem.1 hf
    rw [← report_path (Outcome.report_of_report? hreport'), beq_iff_eq.1 heq,
      Outcome.report?_of_error hreport] at hreport'
    cases hreport'
  · refine List.mem_of_mem_filter (hfailures.mem_iff.2 (List.mem_filterMap.2 ⟨path, hpath, ?_⟩))
    rw [Outcome.failure?_of_error hreport, scanFile_path]
  · obtain ⟨path, hpath, hreport⟩ := hmem.1 hf
    rwa [report_path (Outcome.report_of_report? hreport)]

end Scanner

end Cyclomatic
