import SingleFile.Proofs.Toml.Keys
import SingleFile.Settings.Load

/-!
# Loaded settings, layer by layer

Settings are read off the fields that the packaged defaults, a file and the
overrides make together (`Settings.checkedFields`). Every layer that comes of
a settings text has each key once, and so have those fields
(`Settings.keyed_checkedFields`). What they hold at a path is settled layer by
layer, and a value that is no table comes of the last layer that says anything
about its path (`Settings.value_checkedFields_iff`).
-/

namespace SingleFile

namespace Settings

open Value (Keyed Resolves merge)

section

variable {path : Text} {found : Stored} {file : Option (Text × Stored)}
variable {overrides : Option (List (Text × Value))} {layer own : List (Text × Value)}

/-- The fields that the given file contributes, none where no file is given. -/
def fileLayer (file : Option (Text × Stored)) : Except LoadError (List (Text × Value)) :=
  match file with
  | none => .ok []
  | some (path, found) => fileFields path found

/-- The fields that are checked: the packaged defaults, the layer of a file and overrides, each
laid over the ones before. -/
def checkedFields (layer overrides : List (Text × Value)) : List (Text × Value) :=
  merge (merge defaultsFields layer) overrides

/-- **Loading** reads the layer of the file and checks what the three layers make. -/
theorem load_eq :
    load file overrides = (fileLayer file).bind fun layer =>
      (ofFields (checkedFields layer (overrides.getD []))).mapError .invalid := by
  cases file <;> rfl

/-! ## The packaged layer -/

/-- The packaged text is its lines, each with a line feed. -/
theorem toList_defaultsText :
    defaultsText.toList = defaultsLines.flatMap fun l => l.toList ++ ['\n'] := by
  rw [defaultsText, String.toList_join, List.flatMap_map]
  congr 1
  funext l
  exact String.toList_append

/-- The packaged text is read, so its fields are not the empty ones that stand in for a failure. -/
theorem read?_defaultsText : Toml.read? defaultsText.toList = some defaultsFields := by
  -- the lines are evaluated as lists, which a joined text does not allow
  have hread : (Toml.read? defaultsText.toList).isSome = true := by
    rw [toList_defaultsText]
    decide +kernel
  obtain ⟨fields, hfields⟩ := Option.isSome_iff_exists.mp hread
  rw [defaultsFields, hfields, Option.getD_some]

/-! ## Layers have each key once -/

/-- What a path of keys leads to has each key once. -/
theorem keyed_of_follow {v w : Value} {keys : List Text} (hv : Keyed v)
    (h : follow v keys = some w) : Keyed w := by
  induction keys generalizing v with
  | nil =>
    cases h
    exact hv
  | cons key keys ih =>
    cases v with
    | table fields =>
      rw [follow] at h
      refine ih ?_ h
      cases hkey : Value.get? fields key with
      | none => exact Value.keyed_empty
      | some u => exact hv.of_get? hkey
    | _ => cases h

/-- A file contributes each key once. -/
theorem keyed_fileFields (h : fileFields path found = .ok layer) : Keyed (.table layer) := by
  rw [fileFields] at h
  split at h
  · cases h
  · cases h
  · rename_i text htext
    split at h
    · cases h
    · rename_i fields hread
      have hfields := Toml.read?_keyed hread
      split at h
      · split at h
        · cases h
          exact Value.keyed_empty
        · rename_i own hown
          cases h
          exact keyed_of_follow hfields hown
        · cases h
      · cases h
        exact hfields

/-- The layer of a file has each key once. -/
theorem keyed_fileLayer (h : fileLayer file = .ok layer) : Keyed (.table layer) := by
  cases file with
  | none =>
    cases h
    exact Value.keyed_empty
  | some f => exact keyed_fileFields h

/-- So what is checked has each key once. -/
theorem keyed_checkedFields (hlayer : Keyed (.table layer)) (hown : Keyed (.table own)) :
    Keyed (.table (checkedFields layer own)) :=
  ((Toml.read?_keyed read?_defaultsText).merge hlayer).merge hown

/-! ## What is checked, path by path -/

/-- The layers settle a path one after the other. -/
theorem at?_checkedFields_iff {path : List Text} {r : Option Value} (hlayer : Keyed (.table layer))
    (hown : Keyed (.table own)) :
    (Value.table (checkedFields layer own)).at? path = r ↔
      ∃ mid, Resolves ((Value.table defaultsFields).at? path) (.table layer) path mid ∧
        Resolves mid (.table own) path r := by
  rw [checkedFields, Value.at?_merge_iff hown]
  constructor
  · exact fun h => ⟨_, Value.at?_merge hlayer, h⟩
  · rintro ⟨mid, hmid, h⟩
    rwa [(Value.at?_merge hlayer).unique hmid]

/-- **A value that is no table** comes of the last layer that says anything about its path. -/
theorem value_checkedFields_iff {path : List Text} {v : Value} (hv : v.isTable = false)
    (hlayer : Keyed (.table layer)) (hown : Keyed (.table own)) :
    (Value.table (checkedFields layer own)).at? path = some v ↔
      (Value.table own).at? path = some v ∨
        (Value.table own).Silent path ∧
          ((Value.table layer).at? path = some v ∨
            (Value.table layer).Silent path ∧
              (Value.table defaultsFields).at? path = some v) := by
  rw [checkedFields, (Value.at?_merge hown).value_iff hv, (Value.at?_merge hlayer).value_iff hv]

/-- **Layers resolve path by path.** What one table laid over another holds at a path is settled
by what the two hold there. So are the fields that settings are loaded from: packaged defaults, as
they are read off their text, the file and the overrides settle each path in this order. These
fields have each key once, and a value among them that is no table comes of the last layer that
says anything about its path. -/
theorem layers_resolve :
    Toml.read? defaultsText.toList = some defaultsFields ∧
    (∀ (base overlay : List (Text × Value)) (path : List Text) (r : Option Value),
      Keyed (.table overlay) →
        ((Value.table (merge base overlay)).at? path = r ↔
          Resolves ((Value.table base).at? path) (.table overlay) path r)) ∧
    ∀ (file : Option (Text × Stored)) (overrides : Option (List (Text × Value))),
      Keyed (.table (overrides.getD [])) →
        (load file overrides = (fileLayer file).bind fun layer =>
          (ofFields (checkedFields layer (overrides.getD []))).mapError .invalid) ∧
        ∀ layer, fileLayer file = .ok layer →
          Keyed (.table (checkedFields layer (overrides.getD []))) ∧
          (∀ path r,
            ((Value.table (checkedFields layer (overrides.getD []))).at? path = r ↔
              ∃ mid, Resolves ((Value.table defaultsFields).at? path) (.table layer) path mid ∧
                Resolves mid (.table (overrides.getD [])) path r)) ∧
          ∀ path v, v.isTable = false →
            ((Value.table (checkedFields layer (overrides.getD []))).at? path = some v ↔
              (Value.table (overrides.getD [])).at? path = some v ∨
                (Value.table (overrides.getD [])).Silent path ∧
                  ((Value.table layer).at? path = some v ∨
                    (Value.table layer).Silent path ∧
                      (Value.table defaultsFields).at? path = some v)) := by
  refine ⟨read?_defaultsText, fun base overlay path r hoverlay => Value.at?_merge_iff hoverlay, ?_⟩
  intro file overrides hown
  refine ⟨load_eq, fun layer hlayer => ?_⟩
  have hkeyed := keyed_fileLayer hlayer
  exact ⟨keyed_checkedFields hkeyed hown, fun path r => at?_checkedFields_iff hkeyed hown,
    fun path v hv => value_checkedFields_iff hv hkeyed hown⟩

end

/-! ## A hidden table -/

namespace Hidden

/-- A file that spells the table of scripts as a number. -/
def file : Option (Text × Stored) := some ("own.toml".toList, .file "script = 1".toUTF8)

/-- Overrides with a table of scripts. -/
def overrides : List (Text × Value) :=
  [("script".toList, .table [("language".toList, .string "ts".toList)])]

/-- The way to the language of scripts. -/
def path : List Text := ["script".toList, "language".toList]

/-- The file is read, and what it spells is no table. -/
theorem exists_fileLayer : ∃ layer, fileLayer file = .ok layer ∧
    ∃ number, (Value.table layer).at? ["script".toList] = some number ∧
      number.isTable = false := by
  have hread : ((fileLayer file).toOption.bind
      fun layer => (Value.table layer).at? ["script".toList]).map Value.isTable = some false := by
    decide +kernel
  obtain ⟨number, hread, hno⟩ := Option.map_eq_some_iff.mp hread
  obtain ⟨layer, hread, hscript⟩ := Option.bind_eq_some_iff.mp hread
  cases hfile : fileLayer file with
  | error e =>
    rw [hfile] at hread
    cases hread
  | ok own =>
    rw [hfile] at hread
    cases hread
    exact ⟨layer, rfl, number, hscript, hno⟩

/-- The overrides have each key once. -/
theorem keyed_overrides : Keyed (.table overrides) :=
  Value.keyed_empty.put (Value.keyed_empty.put (Value.keyed_of_not_isTable rfl))

end Hidden

/-- A number in the place of a table hides what the table holds, also when a file has it in the place
of a packaged table; and overrides that hold a table there hide the number. -/
theorem layers_resolve_hidden :
    (Value.table (merge Hidden.overrides [("script".toList, .integer 1)])).at? Hidden.path =
      none ∧
    ∃ layer, fileLayer Hidden.file = .ok layer ∧
      (Value.table (checkedFields layer [])).at? Hidden.path = none ∧
      (Value.table (checkedFields layer Hidden.overrides)).at? Hidden.path =
        some (.string "ts".toList) := by
  obtain ⟨layer, hlayer, number, hscript, hno⟩ := Hidden.exists_fileLayer
  have hnumber : Keyed (.table [("script".toList, .integer 1)]) :=
    Value.keyed_empty.put (Value.keyed_of_not_isTable rfl)
  refine ⟨?_, layer, hlayer, ?_, ?_⟩
  · exact ((layers_resolve.2.1 _ _ _ _ hnumber).mp rfl).blocked
      ⟨["script".toList], "language".toList, [], _, rfl, rfl, rfl⟩
  · -- the number is in the way, and there is nothing that is laid over it
    obtain ⟨mid, hmid, hnone⟩ :=
      ((layers_resolve.2.2 _ none Value.keyed_empty).2 layer hlayer).2.1 _ _ |>.mp rfl
    have hblocks : (Value.table layer).Blocks Hidden.path :=
      ⟨["script".toList], "language".toList, [], number, rfl, hscript, hno⟩
    have hsilent : (Value.table []).Silent Hidden.path :=
      ⟨rfl, Value.not_blocks_of_get?_eq_none rfl⟩
    exact (hnone.kept hsilent).trans (hmid.blocked hblocks)
  · obtain ⟨mid, -, hvalue⟩ :=
      ((layers_resolve.2.2 _ (some _) Hidden.keyed_overrides).2 layer hlayer).2.1 _ _ |>.mp rfl
    exact hvalue.value _ rfl rfl

end Settings

end SingleFile
