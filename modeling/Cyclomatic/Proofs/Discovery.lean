import Mathlib
import Cyclomatic.Proofs.FileTree
import Cyclomatic.Proofs.Path
import Cyclomatic.Proofs.Selection

/-!
# What discovery yields

A list of findings yields the paths of a property (`Discovery.Yields`) if there is no fault in it, no path
comes twice, and the paths to scan are those with the property. An entry of a directory yields the files that
can be reached through it (`Reaches`): no directory on the way is excluded, and the rules select the file. So
discovery yields the selected files below a target, each once (`Discovery.files_selected`).
-/

namespace Cyclomatic

/-! ## Findings -/

/-- The path that a finding gives to scan, if any. -/
def Finding.source? : Finding → Option String
  | .source path => some path
  | _ => none

namespace Discovery

/-- The paths to scan among some findings. -/
def sources (fs : List Finding) : List String :=
  fs.filterMap (·.source?)

/-- The findings are without fault, and yield the paths with a property, each once. -/
structure Yields (fs : List Finding) (P : String → Prop) : Prop where
  faultless : ∀ f, .fault f ∉ fs
  nodup : (sources fs).Nodup
  mem_iff : ∀ path, path ∈ sources fs ↔ P path

variable {fs : List Finding} {P Q : String → Prop}

/-- The property may be stated in another way. -/
theorem Yields.congr (h : Yields fs P) (hPQ : ∀ path, P path ↔ Q path) : Yields fs Q :=
  ⟨h.faultless, h.nodup, fun path => (h.mem_iff path).trans (hPQ path)⟩

/-- No finding yields no path. -/
theorem yields_nil (h : ∀ path, ¬P path) : Yields [] P :=
  ⟨by simp, by simp [sources], fun path => by simp [sources, h path]⟩

/-- The files of findings without fault are their sources. -/
theorem Yields.files_eq (h : Yields fs P) : files fs = .ok (sources fs) := by
  have hfaultless := h.faultless
  clear h
  induction fs with
  | nil => rfl
  | cons f fs ih =>
    have hrest := ih fun f hf => hfaultless f (List.mem_cons_of_mem _ hf)
    cases f with
    | source path => rw [files, hrest]; rfl
    | tooLarge path => rw [files, hrest]; rfl
    | fault f => exact absurd List.mem_cons_self (hfaultless f)

/-! ## Branches -/

/-- The order of branches changes nothing about what is yielded. -/
theorem Yields.assemble {bs : List Branch} (hobstacles : ∀ b ∈ bs, b.obstacles = [])
    (h : Yields (bs.flatMap (·.findings)) P) : Yields (assemble bs) P := by
  have hperm : (Discovery.assemble bs).Perm (bs.flatMap (·.findings)) := by
    -- Without obstacles, only the findings of files and those of directories change places.
    have hnone : bs.flatMap (·.obstacles) = [] := List.flatMap_eq_nil_iff.2 hobstacles
    rw [Discovery.assemble, hnone, List.nil_append, ← List.flatMap_append]
    refine List.Perm.flatMap_right _ ?_
    exact List.perm_append_comm.trans ((List.filter_append_perm _ _).trans (List.mergeSort_perm _ _))
  exact ⟨fun f hf => h.faultless f (hperm.mem_iff.1 hf),
    (hperm.filterMap _).nodup_iff.2 h.nodup,
    fun path => ((hperm.filterMap _).mem_iff).trans (h.mem_iff path)⟩

/-- Lists that yield different paths yield all of them together. -/
theorem yields_flatMap {α : Type} {as : List α} {g : α → List Finding} {P : α → String → Prop}
    (h : ∀ a ∈ as, Yields (g a) (P a))
    (hdisjoint : as.Pairwise fun a a' => ∀ path, P a path → ¬P a' path) :
    Yields (as.flatMap g) fun path => ∃ a ∈ as, P a path := by
  have hsources : sources (as.flatMap g) = as.flatMap fun a => sources (g a) := List.filterMap_flatMap
  refine ⟨fun f hf => ?_, ?_, fun path => ?_⟩
  · obtain ⟨a, ha, hf⟩ := List.mem_flatMap.1 hf
    exact (h a ha).faultless f hf
  · rw [hsources, List.nodup_flatMap]
    refine ⟨fun a ha => (h a ha).nodup, hdisjoint.imp_of_mem fun {a a'} ha ha' hne => ?_⟩
    intro path hpath hpath'
    exact hne path (((h a ha).mem_iff path).1 hpath) (((h a' ha').mem_iff path).1 hpath')
  · rw [hsources, List.mem_flatMap]
    exact exists_congr fun a => and_congr_right fun ha => (h a ha).mem_iff path

end Discovery

/-! ## Reaching files -/

/-- A path is that of a file that can be reached from the path of a node: no directory on the way from the
node is excluded, and the rules select the file. -/
def Reaches (r : SelectionRules) (cwd : List String) (base top : String) (node : Node) (path : String) :
    Prop :=
  ∃ place bytes, node.at? place = some (.file bytes) ∧ path = Path.below top place ∧
    (∀ outer, outer <+: place → outer ≠ place → ¬Hits r.exclusions cwd base (Path.below top outer)) ∧
    r.Selects cwd base path bytes.length

/-- A path is that of a file that can be reached from the path of a directory, whether that is excluded or
not. -/
def ReachesInside (r : SelectionRules) (cwd : List String) (base top : String) (node : Node)
    (path : String) : Prop :=
  ∃ place bytes, node.at? place = some (.file bytes) ∧ path = Path.below top place ∧
    (∀ outer, outer <+: place → outer ≠ [] → outer ≠ place →
      ¬Hits r.exclusions cwd base (Path.below top outer)) ∧
    r.Selects cwd base path bytes.length

section

variable {r : SelectionRules} {cwd : List String} {base top path : String}

/-- A file is reached through itself if the rules select it. -/
theorem reaches_file_iff {bytes : List UInt8} :
    Reaches r cwd base top (.file bytes) path ↔ path = top ∧ r.Selects cwd base top bytes.length := by
  constructor
  · rintro ⟨place, bytes', hplace, rfl, -, hselects⟩
    cases place with
    | nil =>
      rw [Node.at?, Option.some_inj, Node.file.injEq] at hplace
      rw [hplace]
      exact ⟨rfl, hselects⟩
    | cons name place => simp [Node.at?] at hplace
  · rintro ⟨rfl, hselects⟩
    refine ⟨[], bytes, rfl, rfl, fun outer houter hne => ?_, hselects⟩
    exact absurd (List.prefix_nil.1 houter) hne

variable {entries : List (String × Node)}

/-- A directory that is not excluded is a way to what it holds. -/
theorem reaches_directory_iff : Reaches r cwd base top (.directory entries) path ↔
    ¬Hits r.exclusions cwd base top ∧ ReachesInside r cwd base top (.directory entries) path := by
  constructor
  · rintro ⟨place, bytes, hplace, hpath, houter, hselects⟩
    have hne : [] ≠ place := (Node.ne_nil_of_at?_directory hplace).symm
    exact ⟨houter [] List.nil_prefix hne, place, bytes, hplace, hpath,
      fun outer hpre _ => houter outer hpre, hselects⟩
  · rintro ⟨htop, place, bytes, hplace, hpath, houter, hselects⟩
    refine ⟨place, bytes, hplace, hpath, fun outer hpre hne => ?_, hselects⟩
    by_cases hnil : outer = []
    · rw [hnil]
      exact htop
    · exact houter outer hpre hnil hne

/-- What can be reached inside a directory can be reached through one of its entries. -/
theorem reachesInside_iff (htree : (Node.directory entries).IsTree) :
    ReachesInside r cwd base top (.directory entries) path ↔
      ∃ e ∈ entries, Reaches r cwd base (Path.join top e.1) e.2 path := by
  constructor
  · rintro ⟨place, bytes, hplace, hpath, houter, hselects⟩
    cases place with
    | nil => simp [Node.at?] at hplace
    | cons name place =>
      obtain ⟨child, hmem, hchild⟩ := (Node.at?_directory_cons htree).1 hplace
      refine ⟨(name, child), hmem, place, bytes, hchild, hpath, fun outer hpre hne => ?_, hselects⟩
      exact houter (name :: outer) (List.cons_prefix_cons.2 ⟨rfl, hpre⟩) (List.cons_ne_nil _ _)
        fun heq => hne (List.cons_inj_right name |>.1 heq)
  · rintro ⟨⟨name, child⟩, hmem, place, bytes, hchild, hpath, houter, hselects⟩
    refine ⟨name :: place, bytes, (Node.at?_directory_cons htree).2 ⟨child, hmem, hchild⟩, hpath,
      fun outer hpre hnil hne => ?_, hselects⟩
    cases outer with
    | nil => exact absurd rfl hnil
    | cons name' outer =>
      obtain ⟨rfl, hpre'⟩ := List.cons_prefix_cons.1 hpre
      exact houter outer hpre' fun heq => hne (heq ▸ rfl)

/-- What can be reached through an entry cannot be reached through one with another name. -/
theorem Reaches.not_reaches {e e' : String × Node} (hname : Path.IsName e.1) (htree : e.2.IsTree)
    (hname' : Path.IsName e'.1) (htree' : e'.2.IsTree) (hne : e.1 ≠ e'.1)
    (h : Reaches r cwd base (Path.join top e.1) e.2 path) :
    ¬Reaches r cwd base (Path.join top e'.1) e'.2 path := by
  rintro ⟨place', bytes', hplace', hpath', -⟩
  obtain ⟨place, bytes, hplace, hpath, -⟩ := h
  have hinj := Path.below_inj (List.cons_ne_nil _ _) (List.cons_ne_nil _ _)
    (List.forall_mem_cons.2 ⟨hname, htree.isName_of_at? hplace⟩)
    (List.forall_mem_cons.2 ⟨hname', htree'.isName_of_at? hplace'⟩) (hpath.symm.trans hpath')
  exact hne (List.cons.inj hinj).1

end

namespace Discovery

variable {s : Settings} {r : SelectionRules} {d : Disk} {base path name : String}

/-! ## Entries -/

/-- A file is found exactly if the rules select it. -/
theorem considerFile_yields (hs : s.Follows r) (hpath : path.isEmpty = false) (cwd : List String)
    (base : String) (bytes : List UInt8) :
    ∃ fs, considerFile s cwd base path (some bytes) = .ok fs ∧
      Yields fs fun p => p = path ∧ r.Selects cwd base path bytes.length := by
  obtain ⟨ignored, hignores, hignored⟩ := hs.ignores_file hpath cwd base
  rw [considerFile, hignores, hs.languageOf?_eq, hs.tooLarge_eq]
  cases ignored with
  | true =>
    refine ⟨[], rfl, yields_nil fun p h => ?_⟩
    cases hignored.2 ⟨h.2.not_excluded, h.2.included⟩
  | false =>
    cases hlanguage : r.language? path with
    | none =>
      refine ⟨[], rfl, yields_nil fun p h => ?_⟩
      simpa [hlanguage] using h.2.language_isSome
    | some language =>
      by_cases hsize : r.maxSize < bytes.length
      · refine ⟨[.tooLarge path], by rw [decide_eq_true hsize]; rfl, by simp,
          by simp [sources, Finding.source?], fun p => ?_⟩
        have hnot : ¬(p = path ∧ r.Selects cwd base path bytes.length) := fun h =>
          absurd h.2.size_le (not_le.2 hsize)
        simp [sources, Finding.source?, hnot]
      · have hselects : r.Selects cwd base path bytes.length :=
          ⟨(hignored.1 rfl).1, (hignored.1 rfl).2, by rw [hlanguage]; rfl, not_lt.1 hsize⟩
        refine ⟨[.source path], by rw [decide_eq_false hsize]; rfl, by simp,
          by simp [sources, Finding.source?], fun p => ?_⟩
        simp [sources, Finding.source?, hselects]

/-- The branch at an entry of a directory with a path. -/
def branchAt (s : Settings) (d : Disk) (base path : String) (e : String × Node) : Branch :=
  match e.2 with
  | .directory entries =>
    directoryBranch s d.cwd base (Path.join path e.1) e.1
      (walk s d base (Path.join path e.1) (.directory entries))
  | .file bytes => fileBranch s d.cwd base (Path.join path e.1) e.1 (some bytes)
  | .link _ => linkBranch s d base (Path.join path e.1) e.1

/-- The branches are made entry by entry. -/
theorem branches_eq_map (s : Settings) (d : Disk) (base path : String) (entries : List (String × Node)) :
    branches s d base path entries = entries.map (branchAt s d base path) := by
  induction entries with
  | nil => rfl
  | cons e entries ih =>
    obtain ⟨name, node⟩ := e
    rw [branches.eq_def, List.map_cons, ← ih]
    cases node <;> rfl

/-- An entry has no obstacles, and yields the files that can be reached through it. -/
structure YieldsReached (s : Settings) (r : SelectionRules) (d : Disk) (base path : String)
    (e : String × Node) : Prop where
  obstacles : (branchAt s d base path e).obstacles = []
  findings : Yields (branchAt s d base path e).findings
    (Reaches r d.cwd base (Path.join path e.1) e.2)

/-- A file is yielded if the rules select it. -/
theorem yieldsReached_file (hs : s.Follows r) (hname : Path.IsName name) (bytes : List UInt8) :
    YieldsReached s r d base path (name, .file bytes) := by
  have hne : (Path.join path name).isEmpty = false :=
    Path.below_ne_empty (List.cons_ne_nil _ _) (List.forall_mem_singleton.2 hname)
  obtain ⟨fs, hfs, hyields⟩ := considerFile_yields hs hne d.cwd base bytes
  refine ⟨rfl, ?_⟩
  change Yields (orFault (considerFile s d.cwd base (Path.join path name) (some bytes))) _
  rw [hfs, orFault]
  exact hyields.congr fun p => reaches_file_iff.symm

/-- A directory yields what its entries yield. -/
theorem walk_yields {entries : List (String × Node)} (htree : (Node.directory entries).IsTree)
    (h : ∀ e ∈ entries, YieldsReached s r d base path e) :
    Yields (walk s d base path (.directory entries))
      (ReachesInside r d.cwd base path (.directory entries)) := by
  have hentries := htree
  rw [Node.IsTree, Node.areTrees_iff] at hentries
  have hdisjoint : entries.Pairwise fun e e' => ∀ p, Reaches r d.cwd base (Path.join path e.1) e.2 p →
      ¬Reaches r d.cwd base (Path.join path e'.1) e'.2 p := by
    refine (List.pairwise_map.1 hentries.1).imp_of_mem fun {e e'} he he' hne p => ?_
    exact Reaches.not_reaches (hentries.2 e he).1 (hentries.2 e he).2 (hentries.2 e' he').1
      (hentries.2 e' he').2 hne
  -- The walk puts the branches in order, and they have no paths in common, since their names differ.
  rw [walk, branches_eq_map]
  refine Yields.assemble (List.forall_mem_map.2 fun e he => (h e he).obstacles) ?_
  rw [List.flatMap_map]
  exact (yields_flatMap (fun e he => (h e he).findings) hdisjoint).congr fun p =>
    (reachesInside_iff htree).symm

/-- A directory is entered unless it is excluded. -/
theorem yieldsReached_directory (hs : s.Follows r) (hname : Path.IsName name)
    {entries : List (String × Node)} (htree : (Node.directory entries).IsTree)
    (h : ∀ e ∈ entries, YieldsReached s r d base (Path.join path name) e) :
    YieldsReached s r d base path (name, .directory entries) := by
  have hne : (Path.join path name).isEmpty = false :=
    Path.below_ne_empty (List.cons_ne_nil _ _) (List.forall_mem_singleton.2 hname)
  have hbranch : branchAt s d base path (name, .directory entries) =
      directoryBranch s d.cwd base (Path.join path name) name
        (walk s d base (Path.join path name) (.directory entries)) := rfl
  rcases hs.ignores_directory hne d.cwd base with ⟨hignores, hhits⟩ | ⟨hignores, hhits⟩
  · rw [directoryBranch, hignores] at hbranch
    refine ⟨by rw [hbranch], ?_⟩
    rw [hbranch]
    exact yields_nil fun p hp => (reaches_directory_iff.1 hp).1 hhits
  · rw [directoryBranch, hignores] at hbranch
    refine ⟨by rw [hbranch], ?_⟩
    rw [hbranch]
    exact (walk_yields htree h).congr fun p => (and_iff_right hhits).symm.trans reaches_directory_iff.symm

mutual

/-- Every entry that holds a tree yields the files that can be reached through it. -/
theorem yieldsReached (hs : s.Follows r) (path name : String) (hname : Path.IsName name) :
    ∀ node : Node, node.IsTree → YieldsReached s r d base path (name, node)
  | .file bytes, _ => yieldsReached_file hs hname bytes
  | .link _, htree => htree.elim
  | .directory entries, htree =>
    yieldsReached_directory hs hname htree
      (allYieldReached hs (Path.join path name) entries htree.2)

/-- All entries of a tree yield what is reached through them. -/
theorem allYieldReached (hs : s.Follows r) (path : String) :
    ∀ entries : List (String × Node), Node.AreTrees entries →
      ∀ e ∈ entries, YieldsReached s r d base path e
  | [], _ => by simp
  | (name, node) :: rest, htrees =>
    List.forall_mem_cons.2 ⟨yieldsReached hs path name htrees.1 node htrees.2.1,
      allYieldReached hs path rest htrees.2.2⟩

end

/-! ## A directory with an excluded one in it -/

/-- Source text, and source text in a directory of its own. -/
def workshop : List (String × Node) :=
  [("tool.py", .file [120]), ("build", .directory [("tool.py", .file [120])])]

def workshopRules : SelectionRules :=
  { exclusions := ["build"], inclusions := some ["*.py"], overrides := [], maxSize := 4 }

def workshopSettings : Settings :=
  { excludePatterns := Value.ofTexts ["build"], includePatterns := Value.ofTexts ["*.py"]
    maxFileSize := .int 4 }

theorem workshopSettings_follows : workshopSettings.Follows workshopRules :=
  ⟨rfl, ⟨rfl, rfl⟩, ⟨[], rfl, .nil⟩, rfl⟩

theorem workshop_isTree : (Node.directory workshop).IsTree := by
  have htool : Path.IsName "tool.py" := ⟨by decide, by decide⟩
  have hbuild : Path.IsName "build" := ⟨by decide, by decide⟩
  simp [workshop, Node.IsTree, Node.AreTrees, htool, hbuild]

theorem workshop_paths : Path.baseName "p/tool.py" = "tool.py" ∧ Path.baseName "p/build" = "build" ∧
    Path.parts "p" = ["p"] ∧ Path.parts "p/tool.py" = ["p", "tool.py"] ∧
    Path.parts "p/build" = ["p", "build"] := by
  simp only [Path.baseName, Path.parts, Path.segments_eq_splitOn]
  decide +kernel

theorem workshop_selects : workshopRules.Selects [] "p" "p/tool.py" 1 := by
  obtain ⟨hname, -, htop, htool, -⟩ := workshop_paths
  have hway : Path.relative [] "p/tool.py" "p" = .ok "tool.py" := by
    rw [Path.relative, Path.place, Path.place, htop, htool]
    cbv
  have hextension : Path.extension "p/tool.py" = ".py" := by
    rw [Path.extension, hname]
    decide +kernel
  refine ⟨?_, ?_, ?_, by decide⟩
  · rw [hits_iff hway, hname]
    decide +kernel
  · rintro patterns ⟨⟩
    rw [hits_iff hway, hname]
    cbv
  · rw [SelectionRules.language?, hextension]
    cbv

theorem workshop_ignores : workshopSettings.ignores [] "p" "p/build" true = .ok true := by
  obtain ⟨-, hname, htop, -, hbuild⟩ := workshop_paths
  have hway : Path.relative [] "p/build" "p" = .ok "build" := by
    rw [Path.relative, Path.place, Path.place, htop, hbuild]
    cbv
  rw [workshopSettings_follows.ignores_eq hway, hname]
  cbv

/-! ## Targets -/

/-- Discovery in a directory whose tree has no links yields the path of a file exactly if no directory between
the target and the file is ignored, and the rules select the file; it yields no path twice, and no others. -/
theorem files_selected (hs : s.Follows r) {target : String} {entries : List (String × Node)}
    (hfind : d.find (Path.plain target) = .ok (.directory entries))
    (htree : (Node.directory entries).IsTree) :
    ∃ paths, files (findings s d target) = .ok paths ∧ paths.Nodup ∧
      (∀ path ∈ paths, ∃ place bytes, (Node.directory entries).at? place = some (.file bytes) ∧
        path = Path.below (Path.plain target) place) ∧
      ∀ place bytes, (Node.directory entries).at? place = some (.file bytes) →
        (Path.below (Path.plain target) place ∈ paths ↔
          (∀ outer, outer <+: place → outer ≠ [] → outer ≠ place →
            s.ignores d.cwd target (Path.below (Path.plain target) outer) true = .ok false) ∧
          r.Selects d.cwd target (Path.below (Path.plain target) place) bytes.length) := by
  have hyields : Yields (walk s d target (Path.plain target) (.directory entries)) _ :=
    walk_yields htree (allYieldReached hs (Path.plain target) entries htree.2)
  have hfindings : findings s d target =
      walk s d target (Path.plain target) (.directory entries) := by
    rw [findings, hfind]
  rw [hfindings]
  refine ⟨_, hyields.files_eq, hyields.nodup, fun path hpath => ?_, fun place bytes hplace => ?_⟩
  · obtain ⟨place, bytes, hplace, hpath, -⟩ := (hyields.mem_iff path).1 hpath
    exact ⟨place, bytes, hplace, hpath⟩
  · have hnames := htree.isName_of_at? hplace
    -- A place between the target and the file has a path to be judged by, since it has a name.
    have hignored : ∀ outer, outer <+: place → outer ≠ [] →
        (s.ignores d.cwd target (Path.below (Path.plain target) outer) true = .ok false ↔
          ¬Hits r.exclusions d.cwd target (Path.below (Path.plain target) outer)) := by
      intro outer hpre hnil
      have hpath : (Path.below (Path.plain target) outer).isEmpty = false :=
        Path.below_ne_empty hnil fun name hname => hnames name (hpre.subset hname)
      rcases hs.ignores_directory hpath d.cwd target with ⟨h, hhits⟩ | ⟨h, hhits⟩
      · simp [h, hhits]
      · simp [h, hhits]
    rw [hyields.mem_iff]
    constructor
    · rintro ⟨place', bytes', hplace', hpath, houter, hselects⟩
      obtain rfl : place = place' := Path.below_inj (Node.ne_nil_of_at?_directory hplace)
        (Node.ne_nil_of_at?_directory hplace') hnames (htree.isName_of_at? hplace') hpath
      rw [hplace, Option.some_inj, Node.file.injEq] at hplace'
      subst hplace'
      exact ⟨fun outer hpre hnil hne => (hignored outer hpre hnil).2 (houter outer hpre hnil hne),
        hselects⟩
    · rintro ⟨houter, hselects⟩
      exact ⟨place, bytes, hplace, rfl,
        fun outer hpre hnil hne => (hignored outer hpre hnil).1 (houter outer hpre hnil hne),
        hselects⟩

/-- The file beside the excluded directory is yielded, and the one in it is not. -/
theorem files_selected_workshop :
    ∃ paths, files (findings workshopSettings { root := .directory [("p", .directory workshop)] } "p") =
        .ok paths ∧
      paths.Nodup ∧ "p/tool.py" ∈ paths ∧ "p/build/tool.py" ∉ paths := by
  have hplain : Path.plain "p" = "p" := by
    rw [Path.plain, workshop_paths.2.2.1]
    decide +kernel
  have hfind : ({ root := .directory [("p", .directory workshop)] } : Disk).find (Path.plain "p") =
      .ok (.directory workshop) := by
    rw [hplain]
    cbv
  have hbelow : Path.below "p" ["tool.py"] = "p/tool.py" ∧ Path.below "p" ["build"] = "p/build" ∧
      Path.below "p" ["build", "tool.py"] = "p/build/tool.py" := by
    decide +kernel
  obtain ⟨paths, hpaths, hnodup, -, hmem⟩ := files_selected workshopSettings_follows hfind workshop_isTree
  rw [hplain] at hmem
  refine ⟨paths, hpaths, hnodup, ?_, fun hbuilt => ?_⟩
  · rw [← hbelow.1, hmem ["tool.py"] [120] rfl, hbelow.1]
    refine ⟨fun outer hpre hnil hne => ?_, workshop_selects⟩
    rcases List.prefix_cons_iff.1 hpre with h | ⟨rest, rfl, hrest⟩
    · exact absurd h hnil
    · exact absurd (List.prefix_nil.1 hrest ▸ rfl) hne
  · rw [← hbelow.2.2, hmem ["build", "tool.py"] [120] rfl] at hbuilt
    have hentered := hbuilt.1 ["build"] (by decide) (by decide) (by decide)
    rw [hbelow.2.1, workshop_ignores] at hentered
    cases hentered

end Discovery

end Cyclomatic
