import Mathlib
import Cyclomatic.Discovery
import Cyclomatic.Proofs.Limit

/-!
# Rules of selection

What the settings of a scan say about single paths, in plain terms (`SelectionRules`): which patterns exclude
a path, which must match a file, which languages extensions have, and how large a file may be. Settings that
follow such rules cause no fault. They ignore a directory exactly if an exclusion hits it
(`Settings.Follows.ignores_directory`), and a file if an exclusion hits it or there are inclusions and none
does (`Settings.Follows.ignores_file`).
-/

namespace Cyclomatic

/-! ## Rules -/

/-- What a scan goes by. -/
structure SelectionRules where
  exclusions : List String
  /-- Patterns for files, if there are any to be matched. -/
  inclusions : Option (List String)
  /-- Languages of extensions. The first one for an extension counts. -/
  overrides : List (String × Language)
  maxSize : Int

/-- One of some patterns matches a path, seen from the base of a scan, or its last part. -/
def Hits (patterns cwd : List String) (base path : String) : Prop :=
  ∃ way, Path.relative cwd path base = .ok way ∧
    ∃ pattern ∈ patterns, globMatches pattern way ∨ globMatches pattern (Path.baseName path)

namespace SelectionRules

/-- The language of a path by its extension. -/
def language? (r : SelectionRules) (path : String) : Option Language :=
  let extension := Text.lower (Path.extension path)
  ((r.overrides.find? fun o => Text.lower (Language.dotted o.1) == extension).map (·.2)).or
    (Language.ofExtension? extension)

/-- The rules select a file of some size. -/
structure Selects (r : SelectionRules) (cwd : List String) (base path : String) (size : Nat) :
    Prop where
  not_excluded : ¬Hits r.exclusions cwd base path
  included : ∀ patterns, r.inclusions = some patterns → Hits patterns cwd base path
  language_isSome : (r.language? path).isSome
  size_le : size ≤ r.maxSize

end SelectionRules

/-- Settings whose values say what some rules say. -/
structure Settings.Follows (s : Settings) (r : SelectionRules) : Prop where
  exclusions : s.excludePatterns.items? = some (r.exclusions.map .text)
  inclusions : match r.inclusions with
    | some patterns =>
      s.includePatterns.isTruthy = true ∧ s.includePatterns.items? = some (patterns.map .text)
    | none => s.includePatterns.isTruthy = false
  overrides : ∃ entries, s.overrides = .ok entries ∧
    List.Forall₂ (fun e o => e.1 = .text o.1 ∧ Language.ofValue e.2 = .ok o.2) entries r.overrides
  maxFileSize : s.maxFileSize = .int r.maxSize

/-! ## Patterns -/

/-- Whether one of some patterns matches one of two texts. -/
def anyMatches (patterns : List String) (way name : String) : Bool :=
  patterns.any fun pattern => globMatches pattern way || globMatches pattern name

/-- Patterns that are texts match without a fault. -/
theorem matchesAny_texts (patterns : List String) (way name : String) :
    matchesAny way name (patterns.map .text) = .ok (anyMatches patterns way name) := by
  induction patterns with
  | nil => rfl
  | cons pattern patterns ih =>
    rw [List.map_cons, matchesAny, ih]
    change _ = Except.ok ((globMatches pattern way || globMatches pattern name) ||
      anyMatches patterns way name)
    cases globMatches pattern way || globMatches pattern name <;> rfl

/-- A path that is not empty has a way from any base. -/
theorem exists_relative {path : String} (h : path.isEmpty = false) (cwd : List String)
    (base : String) : ∃ way, Path.relative cwd path base = .ok way := by
  rw [Path.relative, h]
  exact ⟨_, rfl⟩

section

variable {s : Settings} {r : SelectionRules} {cwd : List String} {base path way : String}

/-- A pattern hits a path exactly if it matches the way to it or its last name. -/
theorem hits_iff (hway : Path.relative cwd path base = .ok way) (patterns : List String) :
    Hits patterns cwd base path ↔ anyMatches patterns way (Path.baseName path) = true := by
  simp [Hits, hway, anyMatches]

namespace Settings.Follows

/-- What ignoring a path comes to. -/
theorem ignores_eq (h : s.Follows r) (hway : Path.relative cwd path base = .ok way)
    (isDirectory : Bool) : s.ignores cwd base path isDirectory =
      .ok (anyMatches r.exclusions way (Path.baseName path) ||
        (!isDirectory &&
          r.inclusions.any fun patterns => !anyMatches patterns way (Path.baseName path))) := by
  have hexclude : s.excludePatterns.toItems = .ok (r.exclusions.map .text) := by
    rw [Value.toItems, h.exclusions]
  have hinclude := h.inclusions
  rw [ignores, hway, hexclude]
  change (matchesAny way (Path.baseName path) (r.exclusions.map .text) >>= fun excluded => _) = _
  rw [matchesAny_texts]
  change (if anyMatches r.exclusions way (Path.baseName path) = true then _ else _) = _
  cases anyMatches r.exclusions way (Path.baseName path) with
  | true => rfl
  | false =>
    cases hinclusions : r.inclusions with
    | none =>
      rw [hinclusions] at hinclude
      rw [hinclude]
      cases isDirectory <;> rfl
    | some patterns =>
      rw [hinclusions] at hinclude
      have hitems : s.includePatterns.toItems = .ok (patterns.map .text) := by
        rw [Value.toItems, hinclude.2]
      rw [hinclude.1, hitems]
      cases isDirectory with
      | true => rfl
      | false =>
        change (matchesAny way (Path.baseName path) (patterns.map .text) >>= fun included => _) = _
        rw [matchesAny_texts]
        simp only [Option.any_some, Bool.not_false, Bool.true_and, Bool.false_or]
        rfl

/-- A directory is ignored exactly if an exclusion hits it. -/
theorem ignores_directory (h : s.Follows r) (hpath : path.isEmpty = false) (cwd : List String)
    (base : String) :
    (s.ignores cwd base path true = .ok true ∧ Hits r.exclusions cwd base path) ∨
      (s.ignores cwd base path true = .ok false ∧ ¬Hits r.exclusions cwd base path) := by
  obtain ⟨way, hway⟩ := exists_relative hpath cwd base
  rw [h.ignores_eq hway, hits_iff hway]
  cases anyMatches r.exclusions way (Path.baseName path) <;> simp

/-- A file is ignored if an exclusion hits it, or if there are inclusions and none hits it. -/
theorem ignores_file (h : s.Follows r) (hpath : path.isEmpty = false) (cwd : List String)
    (base : String) :
    ∃ ignored, s.ignores cwd base path false = .ok ignored ∧
      (ignored = false ↔ ¬Hits r.exclusions cwd base path ∧
        ∀ patterns, r.inclusions = some patterns → Hits patterns cwd base path) := by
  obtain ⟨way, hway⟩ := exists_relative hpath cwd base
  refine ⟨_, h.ignores_eq hway false, ?_⟩
  simp only [hits_iff hway]
  cases r.inclusions <;> simp

/-- Overrides that name languages are looked up by the extension in lower case, the first that fits. -/
theorem ofOverrides?_eq {entries : Entries} {overrides : List (String × Language)}
    (h : List.Forall₂ (fun e o => e.1 = .text o.1 ∧ Language.ofValue e.2 = .ok o.2) entries overrides)
    (extension : String) : Language.ofOverrides? extension entries =
      .ok ((overrides.find? fun o => Text.lower (Language.dotted o.1) == extension).map (·.2)) := by
  induction h with
  | nil => rfl
  | @cons e o entries overrides he _ ih =>
    obtain ⟨key, v⟩ := e
    obtain ⟨rfl, hv⟩ := he
    rw [Language.ofOverrides?, ih, hv, List.find?_cons]
    cases Text.lower (Language.dotted o.1) == extension <;> rfl

/-- The language of a file is the one that the rules give it. -/
theorem languageOf?_eq (h : s.Follows r) (path : String) :
    s.languageOf? path = .ok (r.language? path) := by
  obtain ⟨entries, hentries, hoverrides⟩ := h.overrides
  rw [Settings.languageOf?, hentries]
  change (Language.ofOverrides? _ entries >>= fun l => _) = _
  rw [ofOverrides?_eq hoverrides]
  rfl

/-- A file is too large if it is larger than the rules allow. -/
theorem tooLarge_eq (h : s.Follows r) (size : Nat) :
    s.tooLarge size = .ok (decide (r.maxSize < size)) := by
  rw [Settings.tooLarge, h.maxFileSize, Value.exceeds_int]
  change Except.ok (compare r.maxSize size == .lt) = _
  refine congrArg Except.ok (Bool.eq_iff_iff.2 ?_)
  rw [beq_iff_eq, compare_lt_iff_lt, decide_eq_true_iff]

end Settings.Follows

end

end Cyclomatic
