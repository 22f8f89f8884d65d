import Mathlib
import Cyclomatic.Proofs.Limit
import Cyclomatic.Proofs.Report

/-!
# Merged reports

A merged report has all files of its parts, in the order of their paths and with files of one path in the
order in which they came (`Report.Merges`). So its totals are the sums of those of the parts, its greatest
complexity is that of the parts, and it is above a limit exactly if a part is (`Report.exceeds_merged_iff`).

A report without an analyzed file has the greatest complexity 0 by itself and has no say in a merged one. This
makes no difference as long as no complexity is negative, and none is that has been measured.
-/

namespace Cyclomatic

/-! ## Stable order -/

/-- Sorting keeps the order of the files of one path. -/
theorem filter_path_sortedByPath (files : List FileReport) (path : String) :
    (sortedByPath files).filter (·.path == path) = files.filter (·.path == path) := by
  have hsame : (files.filter (·.path == path)).Pairwise fun a b => textLe a.path b.path = true := by
    refine List.pairwise_of_forall_mem_list fun a ha b hb => ?_
    rw [eq_of_beq (List.mem_filter.1 ha).2, eq_of_beq (List.mem_filter.1 hb).2]
    exact textLe_iff.2 le_rfl
  have hsublist : (files.filter (·.path == path)).Sublist (sortedByPath files) := by
    refine List.sublist_mergeSort ?_ ?_ hsame List.filter_sublist
    · exact fun a b c => textLe_trans a.path b.path c.path
    · exact fun a b => textLe_total a.path b.path
  have hfiltered := hsublist.filter (·.path == path)
  rw [List.filter_filter] at hfiltered
  simp only [Bool.and_self] at hfiltered
  have hperm := (List.mergeSort_perm files fun a b => textLe a.path b.path).filter (·.path == path)
  exact (hfiltered.eq_of_length hperm.length_eq.symm).symm

/-- Texts in order, each once, stand in strict order. -/
theorem strict_sortedUnique (texts : List String) : (sortedUnique texts).Pairwise (· < ·) := by
  have hnodup : (sortedUnique texts).Nodup :=
    (List.mergeSort_perm _ _).nodup_iff.2 (nodup_eraseDups texts)
  exact (List.pairwise_and_iff.2 ⟨pairwise_sortedUnique texts, hnodup⟩).imp fun h =>
    lt_of_le_of_ne h.1 h.2

theorem mem_sortedUnique {texts : List String} {text : String} :
    text ∈ sortedUnique texts ↔ text ∈ texts := by
  rw [sortedUnique, (List.mergeSort_perm _ _).mem_iff, List.mem_eraseDups]

/-! ## The greatest of some numbers -/

namespace Analysis

theorem greatest_eq_max? (ns : List Int) : greatest ns = ns.max?.getD 0 := by
  cases ns with
  | nil => rfl
  | cons n ns => rw [List.max?_cons', Option.getD_some, greatest]

/-- A number of a list that no other exceeds is the greatest. -/
theorem greatest_eq {ns : List Int} {n : Int} (hn : n ∈ ns) (hmax : ∀ m ∈ ns, m ≤ n) :
    greatest ns = n := by
  rw [greatest_eq_max?, List.max?_eq_some_iff.2 ⟨hn, hmax⟩, Option.getD_some]

theorem greatest_mem {ns : List Int} (hns : ns ≠ []) :
    greatest ns ∈ ns ∧ ∀ n ∈ ns, n ≤ greatest ns := by
  obtain ⟨n, hn⟩ := Option.ne_none_iff_exists'.1 (mt List.max?_eq_none_iff.1 hns)
  rw [greatest_eq_max?, hn, Option.getD_some]
  exact List.max?_eq_some_iff.1 hn

/-- The order of numbers does not matter for the greatest of them. -/
theorem greatest_perm {ns ms : List Int} (h : ns.Perm ms) : greatest ns = greatest ms := by
  by_cases hms : ms = []
  · subst hms
    rw [h.eq_nil]
  · obtain ⟨hmem, hmax⟩ := greatest_mem hms
    exact greatest_eq (h.mem_iff.2 hmem) fun n hn => hmax n (h.mem_iff.1 hn)

/-- The greatest number of several lists is the greatest among those of the lists that are not empty. -/
theorem greatest_flatten (lists : List (List Int)) :
    greatest lists.flatten = greatest ((lists.filter (!·.isEmpty)).map greatest) := by
  by_cases hne : lists.filter (!·.isEmpty) = []
  · have hflatten : lists.flatten = [] := by
      rw [List.flatten_eq_nil_iff]
      intro ns hns
      simpa using List.filter_eq_nil_iff.1 hne ns hns
    rw [hne, hflatten]
    rfl
  · obtain ⟨hmem, hmax⟩ := greatest_mem (mt List.map_eq_nil_iff.1 hne)
    obtain ⟨ns, hns, hgreatest⟩ := List.mem_map.1 hmem
    rw [List.mem_filter] at hns
    refine greatest_eq ?_ fun n hn => ?_
    · rw [← hgreatest]
      exact List.mem_flatten.2 ⟨ns, hns.1, (greatest_mem (by simpa using hns.2)).1⟩
    · obtain ⟨ms, hms, hn⟩ := List.mem_flatten.1 hn
      have hms' : ms ∈ lists.filter (!·.isEmpty) :=
        List.mem_filter.2 ⟨hms, by simpa using List.ne_nil_of_mem hn⟩
      exact ((greatest_mem (List.ne_nil_of_mem hn)).2 n hn).trans
        (hmax _ (List.mem_map_of_mem hms'))

/-- Empty lists may be counted as 0 if no list has a negative greatest number. -/
theorem greatest_flatten_of_nonneg {lists : List (List Int)} (h : ∀ ns ∈ lists, 0 ≤ greatest ns) :
    greatest lists.flatten = greatest (lists.map greatest) := by
  by_cases hlists : lists = []
  · rw [hlists]
    rfl
  obtain ⟨hmem, hmax⟩ := greatest_mem (mt List.map_eq_nil_iff.1 hlists)
  obtain ⟨ns, hns, hgreatest⟩ := List.mem_map.1 hmem
  by_cases hflatten : lists.flatten = []
  · -- all lists are empty, so all their greatest numbers are 0
    rw [hflatten, ← hgreatest, List.flatten_eq_nil_iff.1 hflatten ns hns]
  obtain ⟨hmem', hmax'⟩ := greatest_mem hflatten
  obtain ⟨ms, hms, hmem'⟩ := List.mem_flatten.1 hmem'
  refine le_antisymm ?_ ?_
  · exact ((greatest_mem (List.ne_nil_of_mem hmem')).2 _ hmem').trans (hmax _ (List.mem_map_of_mem hms))
  · rw [← hgreatest]
    by_cases hnil : ns = []
    · have hgreatest_ms : greatest ms ∈ lists.flatten :=
        List.mem_flatten.2 ⟨ms, hms, (greatest_mem (List.ne_nil_of_mem hmem')).1⟩
      rw [hnil]
      exact (h ms hms).trans (hmax' _ hgreatest_ms)
    · exact hmax' _ (List.mem_flatten.2 ⟨ns, hns, (greatest_mem hnil).1⟩)

end Analysis

namespace Report

/-! ## Merging -/

/-- Times that are doubles, or integers within their range, have a total. -/
theorem totalTime_isOk {times : List Number} (h : ∀ t ∈ times, ∃ x, t.toFloat = .ok x) :
    ∃ t, totalTime times = .ok t := by
  have hfold : ∀ x, ∃ y, times.foldlM Number.add (.real x) = .ok (.real y) := by
    induction times with
    | nil => exact fun x => ⟨x, rfl⟩
    | cons t times ih =>
      intro x
      obtain ⟨y, hy⟩ := h t List.mem_cons_self
      obtain ⟨z, hz⟩ := ih (fun t ht => h t (List.mem_cons_of_mem _ ht)) (x + y)
      have hadd : Number.add (.real x) t = .ok (.real (x + y)) := by
        change (t.toFloat >>= fun y => _) = _
        rw [hy]
        rfl
      refine ⟨z, ?_⟩
      rw [List.foldlM_cons, hadd]
      exact hz
  obtain ⟨y, hy⟩ := hfold 0
  refine ⟨.real (Decimal.roundTo 3 y), ?_⟩
  rw [totalTime, hy]
  rfl

variable (reports : List Report) (time : Number)

theorem files_combine_perm : (combine reports time).files.Perm (reports.flatMap (·.files)) :=
  List.mergeSort_perm _ _

/-- A merged report has the analyses of all its parts. -/
theorem analyses_combine_perm :
    (combine reports time).analyses.Perm (reports.flatMap (·.analyses)) := by
  have hperm := (files_combine_perm reports time).filterMap (·.result)
  rwa [List.filterMap_flatMap] at hperm

/-- Totals of a merged report are sums over its parts. -/
theorem sum_analyses_combine {M : Type} [AddCommMonoid M] (f : Analysis → M) :
    ((combine reports time).analyses.map f).sum = (reports.map fun r => (r.analyses.map f).sum).sum := by
  rw [((analyses_combine_perm reports time).map f).sum_eq, List.map_flatMap, List.flatMap,
    List.sum_flatten, List.map_map]
  rfl

/-- A report that several reports make together. -/
structure Merges (reports : List Report) (m : Report) : Prop where
  files_sorted : m.files.Pairwise fun f g => f.path ≤ g.path
  files_perm : m.files.Perm (reports.flatMap (·.files))
  /-- Files of one path stay in order. -/
  files_stable : ∀ path, m.files.filter (·.path == path) =
    (reports.flatMap (·.files)).filter (·.path == path)
  filesScanned_eq : m.filesScanned = (reports.map (·.filesScanned)).sum
  totalCcn_eq : m.totalCcn = (reports.map (·.totalCcn)).sum
  totalNloc_eq : m.totalNloc = (reports.map (·.totalNloc)).sum
  functionCount_eq : m.functionCount = (reports.map (·.functionCount)).sum
  /-- Complexities that have been measured are at least 1, and the greatest of none is 0. -/
  maxFunctionCcn_eq_of_nonneg : (∀ r ∈ reports, 0 ≤ r.maxFunctionCcn) →
    m.maxFunctionCcn = Analysis.greatest (reports.map (·.maxFunctionCcn))
  /-- Whatever the complexities are, a part without an analyzed file has no say in the greatest. -/
  maxFunctionCcn_eq : m.maxFunctionCcn =
    Analysis.greatest ((reports.filter (!·.analyses.isEmpty)).map (·.maxFunctionCcn))
  errors_eq : m.errors = reports.flatMap (·.errors)
  languages_sorted : m.languages.Pairwise (· < ·)
  mem_languages : ∀ l, l ∈ m.languages ↔ ∃ r ∈ reports, l ∈ r.languages

variable {reports time}

/-- The numbers that the greatest complexity of a merged report is taken of, part by part. -/
theorem maxFunctionCcn_combine : (combine reports time).maxFunctionCcn =
    Analysis.greatest (reports.map fun r => r.analyses.map (·.maxFunctionCcn)).flatten := by
  rw [maxFunctionCcn, Analysis.greatest_perm ((analyses_combine_perm reports time).map _),
    List.map_flatMap, List.flatMap]

theorem merges_combine : Merges reports (combine reports time) where
  files_sorted := pairwise_sortedByPath _
  files_perm := files_combine_perm reports time
  files_stable := filter_path_sortedByPath _
  filesScanned_eq := by
    rw [filesScanned, (analyses_combine_perm reports time).length_eq, List.length_flatMap]
    rfl
  totalCcn_eq := sum_analyses_combine reports time (·.totalCcn)
  totalNloc_eq := sum_analyses_combine reports time (·.nloc)
  functionCount_eq := sum_analyses_combine reports time (·.functionCount)
  maxFunctionCcn_eq_of_nonneg := by
    intro h
    rw [maxFunctionCcn_combine, Analysis.greatest_flatten_of_nonneg, List.map_map]
    · rfl
    · exact List.forall_mem_map.2 h
  maxFunctionCcn_eq := by
    rw [maxFunctionCcn_combine, Analysis.greatest_flatten, List.filter_map, List.map_map]
    simp only [Function.comp_def, List.isEmpty_map]
    rfl
  errors_eq := rfl
  languages_sorted := strict_sortedUnique _
  mem_languages l := by
    rw [combine, mem_sortedUnique, List.mem_flatMap]

/-- A merged report is above a limit if one of its parts is, and not above it if none is. -/
theorem exceeds_merged_iff (limit : Value) :
    ((combine reports time).exceeds limit = .ok true ↔ ∃ r ∈ reports, r.exceeds limit = .ok true) ∧
      ((combine reports time).exceeds limit = .ok false ↔
        ∀ r ∈ reports, r.exceeds limit = .ok false) := by
  simp only [exceeds_eq_true_iff, exceeds_eq_false_iff, (analyses_combine_perm reports time).mem_iff,
    List.mem_flatMap]
  constructor
  · constructor
    · rintro ⟨a, ⟨r, hr, ha⟩, habove⟩
      exact ⟨r, hr, a, ha, habove⟩
    · rintro ⟨r, hr, a, ha, habove⟩
      exact ⟨a, ⟨r, hr, ha⟩, habove⟩
  · constructor
    · rintro (hnull | hbelow) r hr
      · exact .inl hnull
      · exact .inr fun a ha => hbelow a ⟨r, hr, ha⟩
    · intro h
      by_cases hnull : limit = .null
      · exact .inl hnull
      · right
        rintro a ⟨r, hr, ha⟩
        exact (h r hr).resolve_left hnull a ha

/-- The order of the parts can be told from the errors alone, if no two files have the same path. -/
theorem combine_alike {reports' : List Report} (time' : Number) (h : reports.Perm reports')
    (hdistinct : ((reports.flatMap (·.files)).map (·.path)).Nodup) :
    (combine reports time).Alike (combine reports' time') where
  files_eq := sortedByPath_perm (h.flatMap_right _) hdistinct
  languages_eq := sortedUnique_perm (h.flatMap_right _)
  errors_perm := h.flatMap_right _

/-- Reports have a merged report, whose files are those of all, in order, with the totals of all. It is
above a limit exactly if one of the reports is. If no two files have the same path, the order of the reports
can be told from the errors of the merged report alone, its time aside. -/
theorem merge_parts {reports : List Report}
    (htimes : ∀ r ∈ reports, ∃ x, r.scanTime.toFloat = .ok x) :
    ∃ m, merge reports = .ok m ∧ Merges reports m ∧
      (∀ limit, (m.exceeds limit = .ok true ↔ ∃ r ∈ reports, r.exceeds limit = .ok true) ∧
        (m.exceeds limit = .ok false ↔ ∀ r ∈ reports, r.exceeds limit = .ok false)) ∧
      (((reports.flatMap (·.files)).map (·.path)).Nodup →
        ∀ reports', reports.Perm reports' → ∃ m', merge reports' = .ok m' ∧ m.Alike m') := by
  have hmerge {parts : List Report} (htimes : ∀ r ∈ parts, ∃ x, r.scanTime.toFloat = .ok x) :
      ∃ time, merge parts = .ok (combine parts time) := by
    obtain ⟨time, htime⟩ := totalTime_isOk (List.forall_mem_map.2 htimes)
    exact ⟨time, by rw [merge, htime]; rfl⟩
  obtain ⟨time, hm⟩ := hmerge htimes
  refine ⟨_, hm, merges_combine, exceeds_merged_iff, fun hdistinct reports' hperm => ?_⟩
  obtain ⟨time', hm'⟩ := hmerge fun r hr => htimes r (hperm.mem_iff.2 hr)
  exact ⟨_, hm', combine_alike time' hperm hdistinct⟩

/-- The report of one file with one function. -/
def single (path : String) (ccn : Int) : Report where
  files := [{
    path
    language := some .python
    result := some { totalCcn := ccn, nloc := 1, tokenCount := 4, decisionPoints := 0,
                     functions := [⟨"f", 1, 1, ccn, 1, 0, 4, 0⟩] } }]
  languages := ["python"]
  errors := ["Skipping binary file " ++ path]

/-- Two reports of one file each and one without files, in two orders. -/
theorem merge_parts_files :
    (∀ r ∈ [single "b.py" 11, {}, single "a.py" 2], ∃ x, r.scanTime.toFloat = .ok x) ∧
      ∃ m m', merge [single "b.py" 11, {}, single "a.py" 2] = .ok m ∧
        merge [{}, single "a.py" 2, single "b.py" 11] = .ok m' ∧ m.Alike m' ∧
        m.totalCcn = 13 ∧ m.maxFunctionCcn = 11 ∧ m.exceeds (.int 10) = .ok true := by
  have htimes : ∀ r ∈ [single "b.py" 11, {}, single "a.py" 2], ∃ x, r.scanTime.toFloat = .ok x := by
    simp [single, Number.toFloat]
  obtain ⟨m, hm, hmerges, hlimit, horder⟩ := merge_parts htimes
  obtain ⟨m', hm', halike⟩ := horder (by decide) [{}, single "a.py" 2, single "b.py" 11]
    ((List.Perm.swap _ _ _).trans ((List.Perm.swap _ _ _).cons _))
  have hnonneg : ∀ r ∈ [single "b.py" 11, {}, single "a.py" 2], 0 ≤ r.maxFunctionCcn := by decide
  exact ⟨htimes, m, m', hm, hm', halike, hmerges.totalCcn_eq, hmerges.maxFunctionCcn_eq_of_nonneg hnonneg,
    (hlimit _).1.2 ⟨_, List.mem_cons_self, rfl⟩⟩

end Report

end Cyclomatic
