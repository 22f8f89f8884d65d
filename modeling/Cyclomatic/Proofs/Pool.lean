import Mathlib
import Cyclomatic.Proofs.Scan

/-!
# Pools of workers

Several workers share the files of a scan (`Pool`). A free worker takes the next file that waits; while it
scans, it notes errors in a list that all workers share; scans that have finished are collected in any
order. A step moves something on (`Pool.Step`), and every order of steps is possible.

No step loses or invents anything: what has been gathered and what is still due stay the same reports and
errors, in some order (`Pool.Step.reports_perm`, `Pool.Step.errors_perm`). Every step brings the end nearer by
one (`Pool.Step.remaining`), and as long as there is something left, some step is possible
(`Pool.exists_step`). So no run goes on for ever (`Pool.wellFounded_step`), and at the end of every run
everything has been gathered (`Pool.Run.gathers`).
-/

namespace Cyclomatic

/-- A scan that is under way: what will come of it, and the errors that it has still to note. -/
structure Task where
  outcome : Outcome
  unnoted : List String

/-- What workers share while they scan files. -/
structure Pool where
  /-- Files that no worker has taken. -/
  waiting : List String
  working : List Task := []
  /-- Scans that have finished but have not been collected. -/
  finished : List Outcome := []
  reports : List FileReport := []
  errors : List String := []

namespace Pool

/-- The task of scanning a file. -/
def task (s : Scanner) (d : Disk) (path : String) : Task where
  outcome := s.scanFile d path
  unnoted := (s.scanFile d path).errors

/-- What can happen next in a pool with so many workers. -/
inductive Step (s : Scanner) (d : Disk) (workers : Nat) : Pool → Pool → Prop
  /-- A free worker takes the next file. -/
  | start {p : Pool} {path : String} {rest : List String} (hfree : p.working.length < workers)
      (hwaiting : p.waiting = path :: rest) :
      Step s d workers p { p with waiting := rest, working := task s d path :: p.working }
  /-- A worker notes an error. -/
  | note {p : Pool} {before after : List Task} {o : Outcome} {error : String} {unnoted : List String}
      (hworking : p.working = before ++ ⟨o, error :: unnoted⟩ :: after) :
      Step s d workers p
        { p with working := before ++ ⟨o, unnoted⟩ :: after, errors := p.errors ++ [error] }
  /-- A worker that has noted all errors has finished and is free again. -/
  | finish {p : Pool} {before after : List Task} {o : Outcome}
      (hworking : p.working = before ++ ⟨o, []⟩ :: after) :
      Step s d workers p { p with working := before ++ after, finished := p.finished ++ [o] }
  /-- A scan that has finished is collected: its report or, if it failed, an error. -/
  | collect {p : Pool} {before after : List Outcome} {o : Outcome}
      (hfinished : p.finished = before ++ o :: after) :
      Step s d workers p
        { p with
          finished := before ++ after
          reports := p.reports ++ o.report?.toList
          errors := p.errors ++ o.failure?.toList }

/-- Some steps of a pool, one after the other. -/
abbrev Run (s : Scanner) (d : Disk) (workers : Nat) : Pool → Pool → Prop :=
  Relation.ReflTransGen (Step s d workers)

/-- Nothing more can happen in a pool. -/
def Halted (s : Scanner) (d : Disk) (workers : Nat) (p : Pool) : Prop :=
  ∀ p', ¬Step s d workers p p'

/-- The report of what a pool has gathered. -/
def report (p : Pool) : Report :=
  .gathered p.reports p.errors

/-! ## What is still due -/

/-- The reports that have been gathered, and those that are due. -/
def allReports (s : Scanner) (d : Disk) (p : Pool) : List FileReport :=
  p.reports ++ p.finished.flatMap (·.report?.toList) ++
    p.working.flatMap (·.outcome.report?.toList) ++
    p.waiting.flatMap fun path => (s.scanFile d path).report?.toList

/-- The errors that have been gathered, and those that are due. -/
def allErrors (s : Scanner) (d : Disk) (p : Pool) : List String :=
  p.errors ++ p.finished.flatMap (·.failure?.toList) ++
    p.working.flatMap (fun t => t.unnoted ++ t.outcome.failure?.toList) ++
    p.waiting.flatMap fun path => (s.scanFile d path).allErrors

/-- How many steps are left. -/
def remaining (s : Scanner) (d : Disk) (p : Pool) : Nat :=
  p.finished.length + (p.working.map fun t => t.unnoted.length + 2).sum +
    (p.waiting.map fun path => (s.scanFile d path).errors.length + 3).sum

variable {s : Scanner} {d : Disk} {workers : Nat} {p p' : Pool}

/-! ## Steps -/

/-- No step loses a report or invents one. -/
theorem Step.reports_perm (h : Step s d workers p p') :
    (p'.allReports s d).Perm (p.allReports s d) := by
  rw [List.perm_iff_count]
  intro f
  cases h with
  | start hfree hwaiting =>
    simp only [allReports, hwaiting, task, List.flatMap_cons, List.count_append]
    omega
  | note hworking =>
    simp only [allReports, hworking, List.flatMap_append, List.flatMap_cons]
  | finish hworking =>
    simp only [allReports, hworking, List.flatMap_append, List.flatMap_cons, List.flatMap_nil,
      List.append_nil, List.count_append]
    omega
  | collect hfinished =>
    simp only [allReports, hfinished, List.flatMap_append, List.flatMap_cons, List.count_append]
    omega

/-- No step loses an error or invents one. -/
theorem Step.errors_perm (h : Step s d workers p p') :
    (p'.allErrors s d).Perm (p.allErrors s d) := by
  rw [List.perm_iff_count]
  intro error
  cases h with
  | start hfree hwaiting =>
    -- the errors of a scan are those that it notes and, if it fails, one for that
    simp only [allErrors, hwaiting, task, Outcome.allErrors_eq, List.flatMap_cons,
      List.count_append]
    omega
  | note hworking =>
    simp only [allErrors, hworking, List.flatMap_append, List.flatMap_cons, List.cons_append,
      List.count_append, List.count_cons, List.count_nil]
    omega
  | finish hworking =>
    simp only [allErrors, hworking, List.flatMap_append, List.flatMap_cons, List.flatMap_nil,
      List.append_nil, List.nil_append, List.count_append]
    omega
  | collect hfinished =>
    simp only [allErrors, hfinished, List.flatMap_append, List.flatMap_cons, List.count_append]
    omega

/-- Every step brings the end nearer by one. -/
theorem Step.remaining (h : Step s d workers p p') :
    p'.remaining s d + 1 = p.remaining s d := by
  cases h with
  | start hfree hwaiting =>
    simp only [Pool.remaining, hwaiting, task, List.map_cons, List.sum_cons]
    omega
  | note hworking =>
    simp only [Pool.remaining, hworking, List.map_append, List.map_cons, List.sum_append,
      List.sum_cons, List.length_cons]
    omega
  | finish hworking =>
    simp only [Pool.remaining, hworking, List.map_append, List.map_cons, List.sum_append,
      List.sum_cons, List.length_append, List.length_cons, List.length_nil]
    omega
  | collect hfinished =>
    simp only [Pool.remaining, hfinished, List.length_append, List.length_cons]
    omega

/-- As long as anything is left, something can happen. -/
theorem exists_step (hworkers : 0 < workers) (h : p.remaining s d ≠ 0) :
    ∃ p', Step s d workers p p' := by
  obtain ⟨waiting, working, finished, reports, errors⟩ := p
  cases finished with
  | cons o finished => exact ⟨_, .collect (List.nil_append (o :: finished)).symm⟩
  | nil =>
    cases working with
    | cons t working =>
      have hworking := (List.nil_append (t :: working)).symm
      obtain ⟨o, unnoted⟩ := t
      cases unnoted with
      | nil => exact ⟨_, .finish hworking⟩
      | cons error unnoted => exact ⟨_, .note hworking⟩
    | nil =>
      cases waiting with
      | cons path waiting => exact ⟨_, .start hworkers rfl⟩
      | nil => exact absurd rfl h

/-! ## Runs -/

theorem Run.reports_perm (h : Run s d workers p p') :
    (p'.allReports s d).Perm (p.allReports s d) := by
  induction h with
  | refl => exact .refl _
  | tail _ hstep ih => exact hstep.reports_perm.trans ih

theorem Run.errors_perm (h : Run s d workers p p') :
    (p'.allErrors s d).Perm (p.allErrors s d) := by
  induction h with
  | refl => exact .refl _
  | tail _ hstep ih => exact hstep.errors_perm.trans ih

/-- No run goes on for ever. -/
theorem wellFounded_step (s : Scanner) (d : Disk) (workers : Nat) :
    WellFounded fun p' p => Step s d workers p p' :=
  Subrelation.wf (fun hstep => Nat.lt_of_succ_le hstep.remaining.le)
    (measure (Pool.remaining s d)).wf

/-- Every pool can run until nothing more can happen. -/
theorem exists_halted (s : Scanner) (d : Disk) (workers : Nat) (p : Pool) :
    ∃ p', Run s d workers p p' ∧ p'.Halted s d workers := by
  induction p using (wellFounded_step s d workers).induction with
  | _ p ih =>
    by_cases hhalted : p.Halted s d workers
    · exact ⟨p, .refl, hhalted⟩
    · obtain ⟨p', hstep⟩ := not_forall_not.1 hhalted
      obtain ⟨q, hrun, hq⟩ := ih p' hstep
      exact ⟨q, .head hstep hrun, hq⟩

/-- A pool in which nothing more can happen has gathered everything. -/
theorem Halted.remaining_eq_zero (hworkers : 0 < workers) (h : p.Halted s d workers) :
    p.remaining s d = 0 := by
  by_contra hne
  obtain ⟨p', hstep⟩ := exists_step hworkers hne
  exact h p' hstep

theorem eq_of_remaining_eq_zero (h : p.remaining s d = 0) :
    p.finished = [] ∧ p.working = [] ∧ p.waiting = [] := by
  obtain ⟨waiting, working, finished, reports, errors⟩ := p
  cases finished <;> cases working <;> cases waiting <;> simp_all [Pool.remaining]

/-- A run from the beginning to the end gathers the reports and the errors of all files, in some order. -/
theorem Run.gathers {files : List String} (hworkers : 0 < workers)
    (hrun : Run s d workers { waiting := files } p) (hhalted : p.Halted s d workers) :
    p.reports.Perm (files.filterMap fun path => (s.scanFile d path).report?) ∧
      p.errors.Perm (files.flatMap fun path => (s.scanFile d path).allErrors) := by
  obtain ⟨hfinished, hworking, hwaiting⟩ :=
    eq_of_remaining_eq_zero (hhalted.remaining_eq_zero hworkers)
  have hreports := hrun.reports_perm
  have herrors := hrun.errors_perm
  rw [allReports, hfinished, hworking, hwaiting] at hreports
  rw [allErrors, hfinished, hworking, hwaiting] at herrors
  rw [List.filterMap_eq_flatMap_toList]
  simpa [allReports, allErrors] using And.intro hreports herrors

end Pool

end Cyclomatic
