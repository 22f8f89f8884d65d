import Mathlib
import Cyclomatic.Proofs.Value.Unlinking
import Cyclomatic.Settings.File
import Cyclomatic.Value.Mapping

/-!
# Settings and mappings

Settings are read from a mapping by looking their names up in it, so entries with other keys and the order of
the entries do not matter, in the mapping (`Trims`, `Reorders`) and in its sections. Settings that are written
as a mapping are read from it again (`Settings.ofEntries_toEntries`), and those of a mapping without links can
always be written (`Settings.readings_settle`).
-/

namespace Cyclomatic

variable {es es' d d' : Entries}

/-! ## Sections -/

theorem Value.isJson_getD {name : String} {default : Value} (hjson : entriesJson es = true)
    (hdefault : default.isJson = true) : (getD es name default).isJson = true := by
  rw [getD]
  cases h : get? es name with
  | none => exact hdefault
  | some v => exact isJson_of_get? hjson h

/-- A section is lawful if it is read from its names alone, each of them once, and is written under them. What
is not given is written as it is when nothing is given. -/
structure Section.Lawful {α : Type} (read : Entries → α) (write : α → Entries) (names : List String) :
    Prop where
  read_write : ∀ a, read (write a) = a
  write_read : ∀ es, write (read es) = names.map fun name =>
    (.text name, Value.getD es name (Value.getD (write (read [])) name .null))
  nodup_names : names.Nodup
  json_defaults : Value.entriesJson (write (read [])) = true

/-- The names of the scoring settings. -/
def ScoringSettings.names : List String :=
  ["ccn_thresholds", "nloc_thresholds", "ccn_weight", "size_weight", "show_threshold"]

/-- The names of the output settings. -/
def OutputSettings.names : List String :=
  ["format", "output_file", "verbose", "color", "show_functions"]

/-- The scoring settings are a lawful section. -/
theorem ScoringSettings.lawful : Section.Lawful ofEntries toEntries names :=
  ⟨fun _ => rfl, fun _ => rfl, by decide, by decide⟩

/-- So are the output settings. -/
theorem OutputSettings.lawful : Section.Lawful ofEntries toEntries names :=
  ⟨fun _ => rfl, fun _ => rfl, by decide, by decide⟩

/-- A mapping with its entries changed; other values stay. -/
def Value.mapEntries (f : Entries → Entries) : Value → Value
  | .dict entries => .dict (f entries)
  | v => v

namespace Section

variable {α : Type} {read : Entries → α} {write : α → Entries} {names : List String}

/-- Only what is found under the names matters. -/
theorem Lawful.read_congr (h : Lawful read write names)
    (hfound : ∀ name ∈ names, Value.get? es' name = Value.get? es name) : read es' = read es := by
  have hwritten : write (read es') = write (read es) := by
    rw [h.write_read es', h.write_read es]
    refine List.map_congr_left fun name hname => ?_
    rw [Value.getD, hfound name hname]
    rfl
  rw [← h.read_write (read es'), hwritten, h.read_write]

/-- A mapping without links is read and written as a mapping without links. -/
theorem Lawful.json_write_read (h : Lawful read write names) (hjson : Value.entriesJson es = true) :
    Value.entriesJson (write (read es)) = true := by
  rw [h.write_read]
  refine Value.entriesJson_of_names ?_ h.nodup_names (List.forall_mem_map.2 fun name _ => ?_)
  · rw [List.map_map]
    rfl
  · exact Value.isJson_getD hjson (Value.isJson_getD h.json_defaults rfl)

/-- A section that is written is read again, whether it was a mapping or not. -/
theorem Lawful.ofValue?_toValue (h : Lawful read write names) (v? : Option Value) :
    ofValue? read (some ((ofValue? read v?).toValue write)) = ofValue? read v? := by
  have hknown (a : α) : ofValue? read (some (.dict (write a))) = known a :=
    congrArg known (h.read_write a)
  cases v? with
  | none => exact hknown (read [])
  | some v =>
    cases hentries : v.entries? with
    | some entries =>
      have hread : ofValue? read (some v) = known (read entries) := by
        rw [ofValue?, hentries]
      rw [hread]
      exact hknown (read entries)
    | none =>
      have hraw : ofValue? read (some v) = raw v := by
        rw [ofValue?, hentries]
      rw [hraw]
      exact hraw

/-- A change of the entries that does not matter to a section does not matter to its value. -/
theorem ofValue?_mapEntries {f : Entries → Entries} {v? : Option Value}
    (h : ∀ entries, v? = some (.dict entries) → read (f entries) = read entries) :
    ofValue? read (v?.map (·.mapEntries f)) = ofValue? read v? := by
  cases v? with
  | none => rfl
  | some v =>
    cases v with
    | dict entries => exact congrArg known (h entries rfl)
    | _ => rfl

/-- A section of a mapping without links is written without links. -/
theorem Lawful.isJson_toValue (h : Lawful read write names) (hjson : Value.entriesJson d = true)
    (name : String) : ((ofValue? read (Value.get? d name)).toValue write).isJson = true := by
  cases hfound : Value.get? d name with
  | none => exact h.json_defaults
  | some v =>
    have hv := Value.isJson_of_get? hjson hfound
    cases v with
    | dict es => exact h.json_write_read hv
    | scalar | list => exact hv
    | pair | set | linked => cases hv

end Section

/-! ## Settings -/

namespace Settings

/-- The names of the settings. -/
def names : List String :=
  ["target", "exclude_patterns", "include_patterns", "max_file_size", "max_workers", "default_language",
    "extension_overrides", "scoring", "output", "max_function_ccn"]

/-- The shorter names for two of the settings. -/
def shortNames : List String :=
  ["exclude", "include"]

theorem keys_toEntries (s : Settings) : s.toEntries.map Prod.fst = names.map Scalar.text := rfl

/-- Settings that are written as a mapping are read from it again. -/
theorem ofEntries_toEntries (d : Entries) : ofEntries (ofEntries d).toEntries = ofEntries d := by
  -- all but the sections are read as they are written
  have hwritten (s : Settings) : ofEntries s.toEntries = { s with
      scoring := .ofValue? ScoringSettings.ofEntries (some (s.scoring.toValue ScoringSettings.toEntries))
      output := .ofValue? OutputSettings.ofEntries (some (s.output.toValue OutputSettings.toEntries)) } := rfl
  have hscoring := ScoringSettings.lawful.ofValue?_toValue (Value.get? d "scoring")
  have houtput := OutputSettings.lawful.ofValue?_toValue (Value.get? d "output")
  have hscoring' : (ofEntries d).scoring =
      .ofValue? ScoringSettings.ofEntries (Value.get? d "scoring") := rfl
  have houtput' : (ofEntries d).output = .ofValue? OutputSettings.ofEntries (Value.get? d "output") := rfl
  rw [hwritten, hscoring', houtput', hscoring, houtput]
  rfl

/-- Only what is found under the names matters, and of the sections only what is read from them. -/
theorem ofEntries_congr {d d' : Entries}
    (hscoring : Section.ofValue? ScoringSettings.ofEntries (Value.get? d' "scoring") =
      Section.ofValue? ScoringSettings.ofEntries (Value.get? d "scoring"))
    (houtput : Section.ofValue? OutputSettings.ofEntries (Value.get? d' "output") =
      Section.ofValue? OutputSettings.ofEntries (Value.get? d "output"))
    (h : ∀ name ∈ names ++ shortNames, name ≠ "scoring" → name ≠ "output" →
      Value.get? d' name = Value.get? d name) :
    ofEntries d' = ofEntries d := by
  simp (disch := decide) only [ofEntries, aliased, Value.getD, hscoring, houtput, h]

/-! ## Entries that do not matter -/

/-- The value under a key with its entries changed if it is one of the two sections. -/
def changed (f g : Entries → Entries) (key : Scalar) (v : Value) : Value :=
  if key.same (.text "scoring") then v.mapEntries f
  else if key.same (.text "output") then v.mapEntries g
  else v

/-- Some entries with those of the two sections changed. -/
def onSections (f g : Entries → Entries) (d : Entries) : Entries :=
  d.map fun e => (e.1, changed f g e.1 e.2)

/-- Entries whose keys name no setting are left out, and so they are in the sections. -/
def Trims (d d' : Entries) : Prop :=
  ∃ keep keepScoring keepOutput : Scalar → Bool,
    (∀ name ∈ names ++ shortNames, keep (.text name) = true) ∧
    (∀ name ∈ ScoringSettings.names, keepScoring (.text name) = true) ∧
    (∀ name ∈ OutputSettings.names, keepOutput (.text name) = true) ∧
    d' = onSections (·.filter (keepScoring ·.1)) (·.filter (keepOutput ·.1)) (d.filter (keep ·.1))

/-- The entries come in another order, and so they do in the sections. -/
def Reorders (d d' : Entries) : Prop :=
  ∃ f g : Entries → Entries, (∀ es, (f es).Perm es) ∧ (∀ es, (g es).Perm es) ∧ d'.Perm (onSections f g d)

theorem get?_onSections (f g : Entries → Entries) (d : Entries) (name : String) :
    Value.get? (onSections f g d) name = (Value.get? d name).map (changed f g (.text name)) :=
  Value.get?_map (changed f g) d name

/-- A change of the sections that does not matter to what is read from them does not matter at all. -/
theorem ofEntries_onSections {f g : Entries → Entries} {d : Entries}
    (hscoring : ∀ es, Value.get? d "scoring" = some (.dict es) →
      ScoringSettings.ofEntries (f es) = ScoringSettings.ofEntries es)
    (houtput : ∀ es, Value.get? d "output" = some (.dict es) →
      OutputSettings.ofEntries (g es) = OutputSettings.ofEntries es) :
    ofEntries (onSections f g d) = ofEntries d := by
  apply ofEntries_congr
  · rw [get?_onSections]
    exact Section.ofValue?_mapEntries hscoring
  · rw [get?_onSections]
    exact Section.ofValue?_mapEntries houtput
  · intro name _ hnotScoring hnotOutput
    have hsame : changed f g (.text name) = id := by
      funext v
      simp only [changed, Scalar.same_text_iff, Scalar.text.injEq, hnotScoring, hnotOutput, if_false]
      rfl
    rw [get?_onSections, hsame, Option.map_id]
    rfl

/-- Entries that name no setting do not matter. -/
theorem ofEntries_of_trims {d d' : Entries} (h : Trims d d') : ofEntries d' = ofEntries d := by
  obtain ⟨keep, keepScoring, keepOutput, hkeep, hscoring, houtput, rfl⟩ := h
  have hfound : ∀ name ∈ names ++ shortNames,
      Value.get? (d.filter (keep ·.1)) name = Value.get? d name :=
    fun name hname => Value.get?_filter (hkeep name hname) d
  rw [ofEntries_onSections]
  · apply ofEntries_congr
    · rw [hfound "scoring" (by decide)]
    · rw [hfound "output" (by decide)]
    · exact fun name hname _ _ => hfound name hname
  · intro es _
    exact ScoringSettings.lawful.read_congr fun name hname => Value.get?_filter (hscoring name hname) es
  · intro es _
    exact OutputSettings.lawful.read_congr fun name hname => Value.get?_filter (houtput name hname) es

/-- The order of entries does not matter where no key is there twice. -/
theorem ofEntries_of_reorders (hjson : Value.entriesJson d = true) (h : Reorders d d') :
    ofEntries d' = ofEntries d := by
  obtain ⟨f, g, hf, hg, hperm⟩ := h
  have hkeys : ((onSections f g d).map Prod.fst).Nodup := by
    have hfst : (onSections f g d).map Prod.fst = d.map Prod.fst := by
      rw [onSections, List.map_map]
      rfl
    rw [hfst]
    exact (Value.entriesJson_iff.1 hjson).2.1
  have hfound := Value.get?_perm hkeys hperm
  have hinner {name : String} {es : Entries} (hes : Value.get? d name = some (.dict es)) :
      (es.map Prod.fst).Nodup := (Value.entriesJson_iff.1 (Value.isJson_of_get? hjson hes)).2.1
  -- first the order of the entries of the mapping, then that of the entries of its sections
  have hsame : ofEntries d' = ofEntries (onSections f g d) := by
    apply ofEntries_congr
    · rw [hfound]
    · rw [hfound]
    · exact fun name _ _ _ => hfound name
  rw [hsame]
  apply ofEntries_onSections
  · intro es hes
    exact ScoringSettings.lawful.read_congr fun name _ => Value.get?_perm (hinner hes) (hf es) name
  · intro es hes
    exact OutputSettings.lawful.read_congr fun name _ => Value.get?_perm (hinner hes) (hg es) name

/-! ## Writing -/

theorem entriesJson_toEntries (h : Value.entriesJson d = true) :
    Value.entriesJson (ofEntries d).toEntries = true := by
  have halias {shortName name : String} {default : Value} (hdefault : default.isJson = true) :
      (aliased d shortName name default).isJson = true := by
    rw [aliased]
    cases hshort : Value.get? d shortName with
    | none => exact Value.isJson_getD h hdefault
    | some v => exact Value.isJson_of_get? h hshort
  apply Value.entriesJson_of_names (keys_toEntries _) (by decide)
  simp only [toEntries, List.forall_mem_cons]
  refine ⟨Value.isJson_getD h rfl, halias rfl, halias rfl, Value.isJson_getD h rfl, Value.isJson_getD h rfl,
    Value.isJson_getD h rfl, Value.isJson_getD h rfl, ?_, ?_, Value.isJson_getD h rfl,
    List.forall_mem_nil _⟩
  · exact ScoringSettings.lawful.isJson_toValue h "scoring"
  · exact OutputSettings.lawful.isJson_toValue h "output"

/-- Settings written as one value and read from it again. -/
def reread (s : Settings) : Except Fault Settings := do
  let v ← s.record
  return ofEntries (← v.toEntries)

/-- Settings of a mapping without links are the same after they have been written and read. -/
theorem reread_ofEntries (hjson : Value.entriesJson d = true) :
    reread (ofEntries d) = .ok (ofEntries d) := by
  have hwritten : (Value.dict (ofEntries d).toEntries).isJson = true := entriesJson_toEntries hjson
  rw [reread, record, writtenOut, Value.unlinked?_of_isJson hwritten]
  exact congrArg Except.ok (ofEntries_toEntries d)

/-- Settings of a mapping without links stay the same when they are written and read again. They are read from
the mapping whatever other entries there are and whatever their order. The shorter names come first. -/
theorem readings_settle (hjson : Value.entriesJson d = true) :
    reread (ofEntries d) = .ok (ofEntries d) ∧
      (∀ d', Trims d d' → ofEntries d' = ofEntries d) ∧
      (∀ d', Reorders d d' → ofEntries d' = ofEntries d) ∧
      (∀ v, (Scalar.text "exclude", v) ∈ d → (ofEntries d).excludePatterns = v) ∧
      ∀ v, (Scalar.text "include", v) ∈ d → (ofEntries d).includePatterns = v := by
  have hkeys := (Value.entriesJson_iff.1 hjson).2.1
  refine ⟨reread_ofEntries hjson, fun d' h => ofEntries_of_trims h,
    fun d' h => ofEntries_of_reorders hjson h, ?_, ?_⟩
  · intro v hv
    show aliased d "exclude" _ _ = v
    rw [aliased, (Value.get?_eq_some_iff hkeys).2 hv]
    rfl
  · intro v hv
    show aliased d "include" _ _ = v
    rw [aliased, (Value.get?_eq_some_iff hkeys).2 hv]
    rfl

/-- A mapping with both names of a setting, a section, a section that is none, and keys of no setting. -/
def mixedEntries : Entries :=
  [("exclude", .ofTexts ["vendor"]), ("exclude_patterns", .ofTexts ["dist"]), ("notes", .int 1),
    ("scoring", .dict [("notes", .null), ("show_threshold", .int 7)]), ("output", .list [.bool true])]

/-- The same settings are read without the keys of no setting, and in the opposite order, and again after they
have been written. -/
theorem readings_settle_mixedEntries :
    Value.entriesJson mixedEntries = true ∧ reread (ofEntries mixedEntries) = .ok (ofEntries mixedEntries) ∧
      Trims mixedEntries
        [("exclude", .ofTexts ["vendor"]), ("exclude_patterns", .ofTexts ["dist"]),
          ("scoring", .dict [("show_threshold", .int 7)]), ("output", .list [.bool true])] ∧
      ofEntries
        [("exclude", .ofTexts ["vendor"]), ("exclude_patterns", .ofTexts ["dist"]),
          ("scoring", .dict [("show_threshold", .int 7)]), ("output", .list [.bool true])] =
        ofEntries mixedEntries ∧
      Reorders mixedEntries (onSections List.reverse id mixedEntries).reverse ∧
      ofEntries (onSections List.reverse id mixedEntries).reverse = ofEntries mixedEntries ∧
      (Scalar.text "exclude", Value.ofTexts ["vendor"]) ∈ mixedEntries ∧
      (ofEntries mixedEntries).excludePatterns = .ofTexts ["vendor"] := by
  have hjson : Value.entriesJson mixedEntries = true := by decide
  obtain ⟨hreread, htrims, hreorders, hexclude, -⟩ := readings_settle hjson
  have htrimmed : Trims mixedEntries
      [("exclude", .ofTexts ["vendor"]), ("exclude_patterns", .ofTexts ["dist"]),
        ("scoring", .dict [("show_threshold", .int 7)]), ("output", .list [.bool true])] :=
    ⟨fun key => !key.same (.text "notes"), fun key => !key.same (.text "notes"), fun _ => true, by decide,
      by decide, by decide, rfl⟩
  have hreordered : Reorders mixedEntries (onSections List.reverse id mixedEntries).reverse :=
    ⟨List.reverse, id, List.reverse_perm, List.Perm.refl, List.reverse_perm _⟩
  have hmem : (Scalar.text "exclude", Value.ofTexts ["vendor"]) ∈ mixedEntries := List.mem_cons_self
  exact ⟨hjson, hreread, htrimmed, htrims _ htrimmed, hreordered, hreorders _ hreordered, hmem,
    hexclude _ hmem⟩

end Settings

end Cyclomatic
