import SingleFile.Settings.Layers

/-!
# Layers of settings — path by path

A table of tables is told by what it holds at each path of keys
(`Value.at?`), as long as its tables have each key once (`Value.Keyed`).
When a layer is laid over another, what the result holds at a path is
settled by what both hold there, and by whether the upper layer has a
value that is no table on the way (`Value.Resolves`, `Value.at?_merge`).
Nothing else plays a part (`Value.Resolves.unique`).
-/

namespace SingleFile

namespace Value

/-! ## What stands at a path -/

/-- What a value holds at a path of keys. -/
def at? (v : Value) : List Text → Option Value
  | [] => some v
  | key :: path =>
    match v with
    | .table fields => (get? fields key).bind fun w => w.at? path
    | _ => none

/-- Whether a value is a table. -/
def isTable : Value → Bool
  | .table _ => true
  | _ => false

/-- **Each key once**: so it is in every table that a value holds at a path. -/
def Keyed (v : Value) : Prop :=
  ∀ path fields, v.at? path = some (.table fields) → (fields.map Prod.fst).Nodup

/-- **A value in the way** of a path: it is no table, and the path goes on behind it. -/
def Blocks (v : Value) (path : List Text) : Prop :=
  ∃ front key back w, path = front ++ key :: back ∧ v.at? front = some w ∧ w.isTable = false

/-- **A value that says nothing** about a path: it holds nothing there and nothing is in the
way. -/
def Silent (v : Value) (path : List Text) : Prop := v.at? path = none ∧ ¬ v.Blocks path

variable {v w : Value} {base overlay : List (Text × Value)} {key other : Text} {path : List Text}

/-- A path leads into a table by its first key. -/
theorem at?_table_cons (fields : List (Text × Value)) (key : Text) (path : List Text) :
    (Value.table fields).at? (key :: path) = (get? fields key).bind fun w => w.at? path := rfl

/-- A value that is no table holds nothing but itself. -/
theorem at?_of_not_isTable (hv : v.isTable = false) :
    v.at? path = if path = [] then some v else none := by
  cases path with
  | nil => rfl
  | cons key path =>
    cases v with
    | table fields => cases hv
    | _ => rfl

/-! ## Each key once -/

/-- What stands behind a key has each key once as well. -/
theorem Keyed.of_get? (h : Keyed (.table overlay)) (hkey : get? overlay key = some w) :
    Keyed w := by
  intro path fields hat
  refine h (key :: path) fields ?_
  rw [at?_table_cons, hkey]
  exact hat

/-- A value that is no table has no keys. -/
theorem keyed_of_not_isTable (hv : v.isTable = false) : Keyed v := by
  intro path fields hat
  rw [at?_of_not_isTable hv] at hat
  split at hat
  · cases hat
    cases hv
  · cases hat

/-- **A table has each key once** when its own keys are, and so it is behind each of them. -/
theorem keyed_table_iff :
    Keyed (.table overlay) ↔
      (overlay.map Prod.fst).Nodup ∧ ∀ key w, get? overlay key = some w → Keyed w := by
  refine ⟨fun h => ⟨h [] overlay rfl, fun key w hkey => h.of_get? hkey⟩, ?_⟩
  rintro ⟨hnodup, hinner⟩ path fields hat
  cases path with
  | nil =>
    cases hat
    exact hnodup
  | cons key path =>
    rw [at?_table_cons, Option.bind_eq_some_iff] at hat
    obtain ⟨w, hw, hat⟩ := hat
    exact hinner key w hw path fields hat

/-- The keys after a field is put. -/
theorem mem_keys_put :
    other ∈ (put key v base).map Prod.fst ↔ other = key ∨ other ∈ base.map Prod.fst := by
  induction base with
  | nil => simp [put]
  | cons f base ih =>
    obtain ⟨k, w⟩ := f
    by_cases hk : k = key
    · subst hk
      simp [put]
    · rw [put, if_neg hk, List.map_cons, List.mem_cons, ih, List.map_cons, List.mem_cons]
      exact or_left_comm

/-- Putting a field keeps each key once. -/
theorem nodup_keys_put (h : (base.map Prod.fst).Nodup) :
    ((put key v base).map Prod.fst).Nodup := by
  induction base with
  | nil => simp [put]
  | cons f base ih =>
    obtain ⟨k, w⟩ := f
    rw [List.map_cons, List.nodup_cons] at h
    by_cases hk : k = key
    · rw [put, if_pos hk, List.map_cons, List.nodup_cons]
      exact h
    · rw [put, if_neg hk, List.map_cons, List.nodup_cons, mem_keys_put, not_or]
      exact ⟨⟨hk, h.1⟩, ih h.2⟩

/-- The empty table has no key twice. -/
theorem keyed_empty : Keyed (.table []) :=
  keyed_table_iff.mpr ⟨List.nodup_nil, fun key w h => by cases h⟩

/-- **A put field** has each key once where its value and the table have. -/
theorem Keyed.put (hbase : Keyed (.table base)) (hv : Keyed v) :
    Keyed (.table (put key v base)) := by
  obtain ⟨hnodup, hinner⟩ := keyed_table_iff.mp hbase
  refine keyed_table_iff.mpr ⟨nodup_keys_put hnodup, fun other w hother => ?_⟩
  by_cases hk : other = key
  · subst hk
    rw [get?_put_self] at hother
    cases hother
    exact hv
  · rw [get?_put_of_ne hk] at hother
    exact hinner other w hother

/-! ## Values in the way -/

/-- Nothing stands behind a value in the way. -/
theorem at?_eq_none_of_blocks (h : v.Blocks path) : v.at? path = none := by
  obtain ⟨front, key, back, w, rfl, hat, hw⟩ := h
  induction front generalizing v with
  | nil =>
    cases hat
    rw [List.nil_append, at?_of_not_isTable hw, if_neg (List.cons_ne_nil _ _)]
  | cons first front ih =>
    cases v with
    | table fields =>
      rw [at?_table_cons, Option.bind_eq_some_iff] at hat
      obtain ⟨u, hu, hat⟩ := hat
      rw [List.cons_append, at?_table_cons, hu]
      exact ih hat
    | _ => rfl

/-- What is in the way behind a key is in the way of the whole path. -/
theorem blocks_cons_iff (hkey : get? overlay key = some w) :
    (Value.table overlay).Blocks (key :: path) ↔
      (w.isTable = false ∧ path ≠ []) ∨ w.Blocks path := by
  constructor
  · rintro ⟨front, k, back, u, hpath, hat, hu⟩
    cases front with
    | nil =>
      cases hat
      cases hu
    | cons first front =>
      obtain ⟨rfl, rfl⟩ := List.cons.inj hpath
      rw [at?_table_cons, hkey] at hat
      exact .inr ⟨front, k, back, u, rfl, hat, hu⟩
  · rintro (⟨hw, hpath⟩ | ⟨front, k, back, u, rfl, hat, hu⟩)
    · obtain ⟨k, back, rfl⟩ := List.exists_cons_of_ne_nil hpath
      exact ⟨[key], k, back, w, rfl, by rw [at?_table_cons, hkey]; rfl, hw⟩
    · exact ⟨key :: front, k, back, u, rfl, by rw [at?_table_cons, hkey]; exact hat, hu⟩

/-- Where a key is missing nothing is in the way. -/
theorem not_blocks_of_get?_eq_none (hkey : get? overlay key = none) :
    ¬ (Value.table overlay).Blocks (key :: path) := by
  rintro ⟨front, k, back, u, hpath, hat, hu⟩
  cases front with
  | nil =>
    cases hat
    cases hu
  | cons first front =>
    obtain ⟨rfl, -⟩ := List.cons.inj hpath
    rw [at?_table_cons, hkey] at hat
    cases hat

/-! ## One layer over another -/

/-- **What an upper layer makes of a path** where the layers below hold `held`: a value that is no
table stands, tables are merged, a table that meets no other stands, a value in the way leaves
nothing, and where the upper layer holds nothing what was held stays. -/
structure Resolves (held : Option Value) (upper : Value) (path : List Text) (r : Option Value) :
    Prop where
  value : ∀ v, upper.at? path = some v → v.isTable = false → r = some v
  both : ∀ base overlay, held = some (.table base) → upper.at? path = some (.table overlay) →
    r = some (.table (merge base overlay))
  own : ∀ overlay, (∀ base, held ≠ some (.table base)) → upper.at? path = some (.table overlay) →
    r = some (.table overlay)
  blocked : upper.Blocks path → r = none
  kept : upper.Silent path → r = held

/-- A value laid over what is not a table, or no table itself, stands as it is. -/
theorem laidOver_eq_self {held : Option Value}
    (h : w.isTable = false ∨ ∀ base, held ≠ some (.table base)) : laidOver held w = w := by
  cases w with
  | table overlay =>
    rcases h with h | h
    · cases h
    · unfold laidOver
      split
      · exact absurd rfl (h _)
      · rfl
  | _ => rfl

/-- **A field of a merged table** is that of the upper one laid over that of the lower one. -/
theorem get?_merge (hnodup : (overlay.map Prod.fst).Nodup) :
    get? (merge base overlay) key =
      match get? overlay key with
      | some w => some (laidOver (get? base key) w)
      | none => get? base key := by
  induction overlay generalizing base with
  | nil => rfl
  | cons f overlay ih =>
    obtain ⟨k, v⟩ := f
    rw [List.map_cons, List.nodup_cons] at hnodup
    rw [merge, ih hnodup.2]
    by_cases hk : key = k
    · subst hk
      -- the key stands once among the upper fields, so nothing is laid over it again
      have hrest : get? overlay key = none := by
        refine List.lookup_eq_none_iff.mpr fun f hf => ?_
        have hne : key ≠ f.1 := by
          rintro rfl
          exact hnodup.1 (List.mem_map.mpr ⟨f, hf, rfl⟩)
        simpa using hne
      have hfirst : get? ((key, v) :: overlay) key = some v := List.lookup_cons_self
      rw [hrest, hfirst, get?_put_self]
    · have hfirst : get? ((k, v) :: overlay) key = get? overlay key := by
        have hne : (key == k) = false := by simpa using hk
        rw [get?, get?, List.lookup_cons, hne]
      rw [hfirst, get?_put_of_ne hk]

/-- Behind a key that both hold as a table, the path goes on in the two tables. -/
theorem Resolves.of_both {below above : List (Text × Value)} {r : Option Value}
    (hbase : get? base key = some (.table below))
    (hoverlay : get? overlay key = some (.table above))
    (h : Resolves ((Value.table below).at? path) (.table above) path r) :
    Resolves ((Value.table base).at? (key :: path)) (.table overlay) (key :: path) r := by
  have hblocks : (Value.table overlay).Blocks (key :: path) ↔ (Value.table above).Blocks path := by
    rw [blocks_cons_iff hoverlay]
    exact or_iff_right fun h => by cases h.1
  rw [at?_table_cons, hbase]
  constructor
  · intro v hat hv
    rw [at?_table_cons, hoverlay] at hat
    exact h.value v hat hv
  · intro lower upper hheld hat
    rw [at?_table_cons, hoverlay] at hat
    exact h.both lower upper hheld hat
  · intro upper hheld hat
    rw [at?_table_cons, hoverlay] at hat
    exact h.own upper hheld hat
  · exact fun hb => h.blocked (hblocks.mp hb)
  · rintro ⟨hat, hb⟩
    rw [at?_table_cons, hoverlay] at hat
    exact h.kept ⟨hat, mt hblocks.mpr hb⟩

/-- Behind a key where a table holds no table, it holds nothing. -/
theorem at?_eq_none_of_no_table (hbase : ∀ below, get? base key ≠ some (.table below))
    (hpath : path ≠ []) : (Value.table base).at? (key :: path) = none := by
  rw [at?_table_cons, Option.bind_eq_none_iff]
  intro v hv
  cases v with
  | table below => exact absurd hv (hbase below)
  | _ => rw [at?_of_not_isTable rfl, if_neg hpath]

/-- Behind a key where the upper value stands as it is, that value alone settles the path. -/
theorem Resolves.of_upper (hoverlay : get? overlay key = some w)
    (hself : w.isTable = false ∨ ∀ below, get? base key ≠ some (.table below)) :
    Resolves ((Value.table base).at? (key :: path)) (.table overlay) (key :: path)
      (w.at? path) := by
  have hat : (Value.table overlay).at? (key :: path) = w.at? path := by
    rw [at?_table_cons, hoverlay, Option.bind_some]
  constructor
  · exact fun v hv _ => hat ▸ hv
  · intro below above hheld habove
    rw [hat] at habove
    rcases hself with hw | hbase
    · rw [at?_of_not_isTable hw] at habove
      split at habove
      · cases habove
        cases hw
      · cases habove
    · cases path with
      | nil =>
        rw [at?_table_cons, Option.bind_eq_some_iff] at hheld
        obtain ⟨u, hu, hheld⟩ := hheld
        cases hheld
        exact absurd hu (hbase below)
      | cons k path =>
        rw [at?_eq_none_of_no_table hbase (List.cons_ne_nil _ _)] at hheld
        cases hheld
  · exact fun above _ habove => hat ▸ habove
  · exact fun hblocks => hat ▸ at?_eq_none_of_blocks hblocks
  · rintro ⟨hnone, hblocks⟩
    rw [hat] at hnone
    have hpath : path ≠ [] := by
      rintro rfl
      cases hnone
    rcases hself with hw | hbase
    · exact absurd ((blocks_cons_iff hoverlay).mpr (.inl ⟨hw, hpath⟩)) hblocks
    · rw [hnone, at?_eq_none_of_no_table hbase hpath]

/-- **Path by path.** What a merged table holds at a path is settled by what the two tables hold
there. -/
theorem at?_merge (hoverlay : Keyed (.table overlay)) :
    Resolves ((Value.table base).at? path) (.table overlay) path
      ((Value.table (merge base overlay)).at? path) := by
  induction path generalizing base overlay with
  | nil =>
    refine ⟨fun v hv hno => ?_, fun below above hheld habove => ?_, fun above hheld _ => ?_,
      fun hblocks => ?_, fun hsilent => ?_⟩
    · cases hv
      cases hno
    · cases hheld
      cases habove
      rfl
    · exact absurd rfl (hheld base)
    · cases at?_eq_none_of_blocks hblocks
    · cases hsilent.1
  | cons key path ih =>
    rw [at?_table_cons (merge base overlay), get?_merge (keyed_table_iff.mp hoverlay).1]
    rcases habove : get? overlay key with _ | w
    · -- the key is free above, so both sides go on in what stands below
      refine ⟨fun v hv => ?_, fun below above _ hv => ?_, fun above _ hv => ?_,
        fun hblocks => absurd hblocks (not_blocks_of_get?_eq_none habove), fun _ => rfl⟩
      all_goals
        rw [at?_table_cons, habove] at hv
        cases hv
    · rw [Option.bind_some]
      by_cases htable : ∃ above, w = .table above
      · obtain ⟨above, rfl⟩ := htable
        by_cases hbelow : ∃ below, get? base key = some (.table below)
        · obtain ⟨below, hbelow⟩ := hbelow
          rw [hbelow, laidOver]
          exact .of_both hbelow habove (ih (hoverlay.of_get? habove))
        · have hfree : ∀ below, get? base key ≠ some (.table below) := not_exists.mp hbelow
          rw [laidOver_eq_self (.inr hfree)]
          exact .of_upper habove (.inr hfree)
      · have hw : w.isTable = false := by
          cases w with
          | table above => exact absurd ⟨above, rfl⟩ htable
          | _ => rfl
        rw [laidOver_eq_self (.inl hw)]
        exact .of_upper habove (.inl hw)

/-- A value that is no table stands where the upper layer holds it. -/
theorem Resolves.of_value {held : Option Value} (hat : v.at? path = some w)
    (hw : w.isTable = false) : Resolves held v path (some w) := by
  refine ⟨fun u hu _ => ?_, fun below above _ hu => ?_, fun above _ hu => ?_, fun hblocks => ?_,
    fun hsilent => ?_⟩
  · rw [← hat, hu]
  · rw [hat] at hu
    cases hu
    cases hw
  · rw [← hat, hu]
  · rw [at?_eq_none_of_blocks hblocks] at hat
    cases hat
  · rw [hsilent.1] at hat
    cases hat

/-- One of the five cases of `Resolves` holds at every path. -/
theorem resolves_cases (held : Option Value) (v : Value) (path : List Text) :
    (∃ w, v.at? path = some w ∧ w.isTable = false) ∨
      (∃ below above, held = some (.table below) ∧ v.at? path = some (.table above)) ∨
      (∃ above, (∀ below, held ≠ some (.table below)) ∧ v.at? path = some (.table above)) ∨
      v.Blocks path ∨ v.Silent path := by
  by_cases hblocks : v.Blocks path
  · exact .inr (.inr (.inr (.inl hblocks)))
  cases hat : v.at? path with
  | none => exact .inr (.inr (.inr (.inr ⟨hat, hblocks⟩)))
  | some w =>
    cases w with
    | table above =>
      by_cases hheld : ∃ below, held = some (.table below)
      · obtain ⟨below, hheld⟩ := hheld
        exact .inr (.inl ⟨below, above, hheld, rfl⟩)
      · exact .inr (.inr (.inl ⟨above, not_exists.mp hheld, rfl⟩))
    | _ => exact .inl ⟨_, rfl, rfl⟩

/-- At most one outcome is right for a path. -/
theorem Resolves.unique {held r s : Option Value} (hr : Resolves held v path r)
    (hs : Resolves held v path s) : r = s := by
  rcases resolves_cases held v path with
    ⟨w, hat, hw⟩ | ⟨below, above, hheld, hat⟩ | ⟨above, hfree, hat⟩ | hblocks | hsilent
  · rw [hr.value w hat hw, hs.value w hat hw]
  · rw [hr.both below above hheld hat, hs.both below above hheld hat]
  · rw [hr.own above hfree hat, hs.own above hfree hat]
  · rw [hr.blocked hblocks, hs.blocked hblocks]
  · rw [hr.kept hsilent, hs.kept hsilent]

/-- What a merged table holds at a path is the one outcome that is right there. -/
theorem at?_merge_iff {r : Option Value} (hoverlay : Keyed (.table overlay)) :
    (Value.table (merge base overlay)).at? path = r ↔
      Resolves ((Value.table base).at? path) (.table overlay) path r :=
  ⟨fun h => h ▸ at?_merge hoverlay, (at?_merge hoverlay).unique⟩

/-- **Where a value comes from**: one that is no table is the upper layer's, or it is the one
below and the upper layer says nothing. -/
theorem Resolves.value_iff {held r : Option Value} (hr : Resolves held v path r)
    (hw : w.isTable = false) :
    r = some w ↔ v.at? path = some w ∨ (v.Silent path ∧ held = some w) := by
  constructor
  · rintro rfl
    rcases resolves_cases held v path with
      ⟨u, hat, hu⟩ | ⟨below, above, hheld, hat⟩ | ⟨above, hfree, hat⟩ | hblocks | hsilent
    · exact .inl (hat.trans (hr.value u hat hu).symm)
    · cases hr.both below above hheld hat
      cases hw
    · cases hr.own above hfree hat
      cases hw
    · cases hr.blocked hblocks
    · exact .inr ⟨hsilent, (hr.kept hsilent).symm⟩
  · rintro (hat | ⟨hsilent, hheld⟩)
    · exact hr.value w hat hw
    · rw [hr.kept hsilent, hheld]

/-! ## Merged tables have each key once -/

/-- Merging keeps the keys of a table apart. -/
theorem nodup_keys_merge (h : (base.map Prod.fst).Nodup) :
    ((merge base overlay).map Prod.fst).Nodup := by
  induction overlay generalizing base with
  | nil => exact h
  | cons f overlay ih => exact ih (nodup_keys_put h)

/-- **A merged table** has each key once where the two tables have. -/
theorem Keyed.merge (hbase : Keyed (.table base)) (hoverlay : Keyed (.table overlay)) :
    Keyed (.table (merge base overlay)) := by
  intro path fields hat
  have hresolves := (at?_merge_iff hoverlay).mp hat
  rcases resolves_cases ((Value.table base).at? path) (.table overlay) path with
    ⟨w, hw, hno⟩ | ⟨below, above, hbelow, habove⟩ | ⟨above, hfree, habove⟩ | hblocks | hsilent
  · cases hresolves.value w hw hno
    cases hno
  · cases hresolves.both below above hbelow habove
    exact nodup_keys_merge (hbase path below hbelow)
  · cases hresolves.own above hfree habove
    exact hoverlay path _ habove
  · cases hresolves.blocked hblocks
  · exact hbase path fields (hresolves.kept hsilent).symm

end Value

end SingleFile
