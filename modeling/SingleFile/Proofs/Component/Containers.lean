import SingleFile.Component
import SingleFile.Proofs.Grammar.Spans
import SingleFile.Proofs.Markup.Contents
import SingleFile.Proofs.Script.Padding

/-!
# Components — the tags that keep their children apart

Which tags keep their children apart is a choice of representation, and
the template of a component is read through either field. Its script is
not: only the children of the script element are padded and handed over,
so a script whose tag keeps them apart is read as an empty one. Two lists
of such tags make the same of a component exactly when they agree on the
tag `script` or there is no script text (`outcome_eq_iff`).
-/

namespace SingleFile

/-- The settings with another list of tags that keep their children apart. -/
def Settings.withContainers (s : Settings) (tags : List Text) : Settings :=
  { s with template := { s.template with containerTags := tags } }

namespace Regions

variable {d d' : Markup.Document}

/-- The elements at the top of documents that are the same when flat. -/
theorem elements_flat (h : Markup.flatAll d.children = Markup.flatAll d'.children) :
    (d.children.filterMap Markup.Entry.element?).map Markup.Element.flat =
      (d'.children.filterMap Markup.Entry.element?).map Markup.Element.flat := by
  have hmap : ∀ es : List Markup.Entry, (es.filterMap Markup.Entry.element?).map
      Markup.Element.flat = (Markup.flatAll es).filterMap Markup.Entry.element? := by
    intro es
    rw [Markup.flatAll_eq_map, List.map_filterMap, List.filterMap_map]
    exact congrArg (List.filterMap · es) (funext fun e => (Markup.element?_flat e).symm)
  rw [hmap, hmap, h]

/-- **The script and the template** of documents that are the same when flat are the
same when flat. -/
theorem ofDocument_flat (h : Markup.flatAll d.children = Markup.flatAll d'.children) :
    (ofDocument d).script.map Markup.Element.flat =
        (ofDocument d').script.map Markup.Element.flat ∧
      (ofDocument d).template.map Markup.Element.flat =
        (ofDocument d').template.map Markup.Element.flat := by
  have helements := elements_flat h
  have hfind : ∀ name : Text,
      ((d.children.filterMap Markup.Entry.element?).find? (·.name == name)).map
          Markup.Element.flat =
        ((d'.children.filterMap Markup.Entry.element?).find? (·.name == name)).map
          Markup.Element.flat := by
    intro name
    have hcomp : ∀ es : List Markup.Element, (es.find? (·.name == name)).map Markup.Element.flat =
        (es.map Markup.Element.flat).find? (·.name == name) := by
      intro es
      rw [List.find?_map]
      rfl
    rw [hcomp, hcomp, helements]
  exact ⟨hfind _, hfind _⟩

end Regions

namespace Script

variable {code : Text} {script script' : Option Markup.Element}

/-- A block depends on the element through the text handed over and the marks. -/
theorem block_congr (hpadded : padded code script = padded code script')
    (hmark : script.map (·.mark) = script'.map (·.mark)) (parser : ScriptParser) (asked : Nat) :
    block code script parser asked = block code script' parser asked := by
  unfold block
  rw [hpadded]
  cases script with
  | none =>
    cases script' with
    | none => rfl
    | some e' => cases hmark
  | some e =>
    cases script' with
    | none => cases hmark
    | some e' =>
      rw [Option.map_some, Option.map_some, Option.some.injEq] at hmark
      simp only [hmark]

/-- The text that a flat element hands over begins with what the element holds. -/
theorem padded_flat (e : Markup.Element) :
    padded code (some e.flat) = padded code (some { e with children := e.entries }) := by
  unfold padded Markup.Element.flat
  simp only [Option.map_some]
  cases e.entries with
  | nil => rfl
  | cons entry rest => cases entry <;> rfl

end Script

namespace Component

/-! ## The template -/

/-- A template is read through either field. -/
theorem readTemplate_flat (code : Text) (template : Option Markup.Element)
    (parser : ScriptParser) (settings : TemplateSettings) (asked : List Text) :
    readTemplate code (template.map Markup.Element.flat) parser settings asked =
      readTemplate code template parser settings asked := by
  cases template with
  | none => rfl
  | some e =>
    have htransform : ∀ t : Template.Transformer,
        t.transform [e.flat.entry] = t.transform [e.entry] := by
      intro t
      rw [Markup.Element.entry_flat]
      exact t.transform_flatAll [e.entry]
    rw [Option.map_some]
    unfold readTemplate
    simp only [htransform]
    rfl

/-! ## The script -/

section

variable {code : Text} {tags tags' : List Text} {root : Cst}

/-- The documents of a code under two lists of tags are the same when flat. -/
theorem flatAll_ofTree (code : Text) (tags tags' : List Text) (root : Cst) :
    Markup.flatAll (Markup.Document.ofTree code tags root).children =
      Markup.flatAll (Markup.Document.ofTree code tags' root).children :=
  (Markup.flatAll_entriesOf (.ofText code tags') (tags.map Text.lower) root.children 0
    code.length)

/-- The script of a document is the element of a node named so. -/
theorem exists_script {e : Markup.Element}
    (h : (Regions.ofDocument (.ofTree code tags root)).script = some e) :
    e.name = "script".toList ∧ ∃ c, e = Markup.Tree.element (.ofText code tags) c := by
  obtain ⟨c, -, -, he⟩ := Markup.exists_node (List.mem_of_find?_eq_some h)
  have hname := List.find?_some h
  exact ⟨eq_of_beq hname, c, he⟩

/-- **The text handed over for the script** is empty when the tag keeps its children
apart, else what the flat element hands over. -/
theorem padded_ofTree :
    Script.padded code (Regions.ofDocument (.ofTree code tags root)).script =
      if (tags.map Text.lower).contains "script".toList then []
      else Script.padded code
        ((Regions.ofDocument (.ofTree code tags root)).script.map Markup.Element.flat) := by
  cases hscript : (Regions.ofDocument (.ofTree code tags root)).script with
  | none => split <;> rfl
  | some e =>
    obtain ⟨hname, c, rfl⟩ := exists_script hscript
    have hchildren := Markup.Tree.children_element (s := .ofText code tags) (c := c)
    rw [hname] at hchildren
    change _ = if (tags.map Text.lower).contains "script".toList = true then _ else _ at hchildren
    split
    · rename_i hkept
      rw [if_pos hkept] at hchildren
      exact Script.padded_of_no_text fun m => by
        rw [hchildren]
        exact Option.some_ne_none _ ∘ Eq.symm
    · rename_i hkept
      rw [if_neg hkept] at hchildren
      rw [Option.map_some, Script.padded_flat]
      exact Script.padded_congr hchildren

/-- An element of a tree that begins with text has text to hand over. -/
theorem length_padded_flat {c : Cst} {m : Mark}
    (h : (Markup.Tree.element (.ofText code tags) c).entries.head? = some (.text m)) :
    0 < (Script.padded code (some (Markup.Tree.element (.ofText code tags) c).flat)).length := by
  rw [Markup.Tree.entries_element] at h
  obtain ⟨a, b, hab, hb, hm⟩ : ∃ a b, a < b ∧ b ≤ code.length ∧
      m = (Markup.Source.ofText code tags).mark a b := by
    unfold Markup.Tree.entries at h
    split at h
    · cases h
    · rcases Markup.mem_entriesOf (List.mem_of_mem_head? h) with ⟨a, b, hab, hb, hm⟩ | ⟨d, -, hd⟩
      · refine ⟨a, b, hab, ?_, Markup.Entry.text.inj hm⟩
        rcases hb with rfl | ⟨byte, rfl⟩
        · exact Markup.Tree.last_le c code tags
        · exact ByteOffsets.charIndex_le code byte
      · rcases Markup.entryOf_cases hd with ⟨-, htext⟩ | ⟨_, htext⟩ | ⟨_, htext⟩
        · cases htext
        · cases htext
        · cases htext
  obtain ⟨rest, hrest⟩ := List.head?_eq_some_iff.1 h
  rw [Script.padded_flat, Script.length_padded (by
    change (Markup.Tree.element _ c).entries = _
    rw [Markup.Tree.entries_element, hrest])
    (by rw [hm]; exact Markup.Source.placedIn_mark tags hab.le hb)]
  omega

/-- **It is empty only without script text**: a run of text is not. -/
theorem padded_flat_eq_nil_iff (code : Text) (tags : List Text) (root : Cst) :
    Script.padded code
        ((Regions.ofDocument (.ofTree code tags root)).script.map Markup.Element.flat) = [] ↔
      ¬ ∃ e m, (Regions.ofDocument (.ofTree code tags root)).script = some e ∧
        e.entries.head? = some (.text m) := by
  cases hscript : (Regions.ofDocument (.ofTree code tags root)).script with
  | none => simp [Script.padded]
  | some e =>
    obtain ⟨-, c, rfl⟩ := exists_script hscript
    rw [Option.map_some]
    constructor
    · rintro hnil ⟨e', m, he', hhead⟩
      obtain rfl := Option.some.inj he'
      have hlen := length_padded_flat hhead
      rw [hnil] at hlen
      exact absurd hlen (by simp)
    · intro hno
      rw [Script.padded_flat]
      exact Script.padded_of_no_text fun m hm => hno ⟨_, m, rfl, hm⟩

/-- **Two lists of tags hand the same text over** when they agree on the tag
`script`, or there is no script text. -/
theorem padded_eq_iff (code : Text) (tags tags' : List Text) (root : Cst) :
    Script.padded code (Regions.ofDocument (.ofTree code tags root)).script =
        Script.padded code (Regions.ofDocument (.ofTree code tags' root)).script ↔
      ((∃ e m, (Regions.ofDocument (.ofTree code tags root)).script = some e ∧
          e.entries.head? = some (.text m)) →
        (tags.map Text.lower).contains "script".toList =
          (tags'.map Text.lower).contains "script".toList) := by
  have hflat := (Regions.ofDocument_flat (flatAll_ofTree code tags tags' root)).1
  have hnil := padded_flat_eq_nil_iff code tags root
  rw [padded_ofTree, padded_ofTree, ← hflat]
  generalize Script.padded code
    ((Regions.ofDocument (.ofTree code tags root)).script.map Markup.Element.flat) = t at hnil ⊢
  rw [← Classical.not_not (a := ∃ e m, _ ∧ _), ← hnil]
  cases (tags.map Text.lower).contains "script".toList <;>
    cases (tags'.map Text.lower).contains "script".toList <;> simp [eq_comm]

/-! ## The outcome -/

/-- The script and the template that a file is read as. -/
def outcome (grammars : Grammars) (parse : Text → Except Failure Program) (settings : Settings)
    (code : Text) (file : Option Text) : Except Failure (Program × Option Template.Result) :=
  (read grammars (.ofFunction parse) settings code file none).result.map fun c =>
    (c.script, c.template)

/-- What the blocks of a document are read as. -/
theorem map_readRegions (code : Text) (file : Option Text) (settings : Settings)
    (parser : ScriptParser) (d : Markup.Document) :
    (readRegions code file settings parser d).result.map (fun c => (c.script, c.template)) =
      (Script.block code (Regions.ofDocument d).script parser 0).bind fun program =>
        (readTemplate code (Regions.ofDocument d).template parser settings.template
          [Script.padded code (Regions.ofDocument d).script]).result.map fun t => (program, t) := by
  unfold readRegions
  dsimp only
  cases Script.block code (Regions.ofDocument d).script parser 0 with
  | error e => rfl
  | ok program =>
    dsimp only [Except.bind]
    cases readTemplate code (Regions.ofDocument d).template parser settings.template
      [Script.padded code (Regions.ofDocument d).script] with
    | mk asked events result => cases result <;> rfl

/-- The template is read under either list of tags as under the other. -/
theorem readTemplate_ofTree (parser : ScriptParser) (settings : TemplateSettings)
    (asked : List Text) :
    readTemplate code (Regions.ofDocument (.ofTree code tags root)).template parser settings
        asked =
      readTemplate code (Regions.ofDocument (.ofTree code tags' root)).template parser settings
        asked := by
  rw [← readTemplate_flat, (Regions.ofDocument_flat (flatAll_ofTree code tags tags' root)).2,
    readTemplate_flat]

/-- The script is marked under either list of tags as under the other. -/
theorem map_mark_script :
    (Regions.ofDocument (.ofTree code tags root)).script.map (·.mark) =
      (Regions.ofDocument (.ofTree code tags' root)).script.map (·.mark) := by
  have hflat := congrArg (Option.map (·.mark))
    (Regions.ofDocument_flat (flatAll_ofTree code tags tags' root)).1
  rwa [Option.map_map, Option.map_map] at hflat

/-- The outcome for a component that has a markup tree. -/
theorem outcome_of_tree {grammars : Grammars} {settings : Settings} {file : Option Text}
    (hfile : settings.isComponent file = true)
    (hroot : grammars markupLanguage 0 code = .ok root)
    (parse : Text → Except Failure Program) :
    outcome grammars parse (settings.withContainers tags) code file =
      (Script.block code (Regions.ofDocument (.ofTree code tags root)).script
        (.ofFunction parse) 0).bind fun program =>
        (readTemplate code (Regions.ofDocument (.ofTree code tags root)).template
          (.ofFunction parse) (settings.withContainers tags).template
          [Script.padded code
            (Regions.ofDocument (.ofTree code tags root)).script]).result.map fun t =>
              (program, t) := by
  have hfile' : (settings.withContainers tags).isComponent file = true := hfile
  rw [← map_readRegions code (file.filter (· ≠ []))]
  unfold outcome read Markup.Document.build
  rw [if_pos hfile', hroot]
  rfl

/-- Where the same text is handed over the outcome is the same. -/
theorem outcome_congr {grammars : Grammars} {settings : Settings} {file : Option Text}
    (h : settings.isComponent file = true → ∀ root, grammars markupLanguage 0 code = .ok root →
      Script.padded code (Regions.ofDocument (.ofTree code tags root)).script =
        Script.padded code (Regions.ofDocument (.ofTree code tags' root)).script)
    (parse : Text → Except Failure Program) :
    outcome grammars parse (settings.withContainers tags) code file =
      outcome grammars parse (settings.withContainers tags') code file := by
  cases hfile : settings.isComponent file with
  | false =>
    have hplain : ∀ ts, (settings.withContainers ts).isComponent file = false := fun _ => hfile
    unfold outcome read
    rw [hplain, hplain]
    rfl
  | true =>
    cases hroot : grammars markupLanguage 0 code with
    | error problem =>
      have hcomponent : ∀ ts, (settings.withContainers ts).isComponent file = true :=
        fun _ => hfile
      unfold outcome read Markup.Document.build
      rw [hcomponent, hcomponent, hroot]
      cases problem <;> rfl
    | ok root =>
      have hpadded := h hfile root hroot
      rw [outcome_of_tree hfile hroot, outcome_of_tree hfile hroot,
        Script.block_congr hpadded map_mark_script, hpadded, readTemplate_ofTree]
      rfl

/-- A reader that rejects every text, and tells how long it is. -/
def measure (t : Text) : Except Failure Program :=
  .error (.syntaxError ⟨"", t.length, ⟨1, 0⟩⟩)

/-- Where that reader ends alike it was handed texts of one length. -/
theorem length_padded_of_outcome {grammars : Grammars} {settings : Settings} {file : Option Text}
    (hfile : settings.isComponent file = true)
    (hroot : grammars markupLanguage 0 code = .ok root)
    (h : outcome grammars measure (settings.withContainers tags) code file =
      outcome grammars measure (settings.withContainers tags') code file) :
    (Script.padded code (Regions.ofDocument (.ofTree code tags root)).script).length =
      (Script.padded code (Regions.ofDocument (.ofTree code tags' root)).script).length := by
  rw [outcome_of_tree hfile hroot, outcome_of_tree hfile hroot] at h
  injection h with hfailure
  injection hfailure with hsyntax
  injection hsyntax

/-- **When the tags that keep their children apart make no difference**: under two
lists of tags every script reader makes the same of a file, its failures included,
exactly when the lists agree on the tag `script`, or the file has no markup tree
or no script that begins with text. -/
theorem outcome_eq_iff (grammars : Grammars) (settings : Settings) (tags tags' : List Text)
    (code : Text) (file : Option Text) :
    (∀ parse, outcome grammars parse (settings.withContainers tags) code file =
        outcome grammars parse (settings.withContainers tags') code file) ↔
      (settings.isComponent file = true → ∀ root, grammars markupLanguage 0 code = .ok root →
        ∀ e m, (Regions.ofDocument (.ofTree code tags root)).script = some e →
          e.entries.head? = some (.text m) →
            ("script".toList ∈ tags.map Text.lower ↔ "script".toList ∈ tags'.map Text.lower)) := by
  constructor
  · intro h hfile root hroot e m he hhead
    -- the reader that measures tells the texts handed over apart
    have hlength := length_padded_of_outcome hfile hroot (h measure)
    obtain ⟨-, c, rfl⟩ := exists_script he
    have hpos := length_padded_flat hhead
    have hflat := (Regions.ofDocument_flat (flatAll_ofTree code tags tags' root)).1
    rw [padded_ofTree, padded_ofTree, ← hflat, he, Option.map_some] at hlength
    rw [← List.contains_iff_mem, ← List.contains_iff_mem]
    split at hlength <;> split at hlength
    · rename_i h1 h2
      exact ⟨fun _ => h2, fun _ => h1⟩
    · rw [List.length_nil] at hlength
      omega
    · rw [List.length_nil] at hlength
      omega
    · rename_i h1 h2
      exact ⟨fun h => absurd h h1, fun h => absurd h h2⟩
  · intro h
    refine outcome_congr fun hfile root hroot => (padded_eq_iff code tags tags' root).2 ?_
    rintro ⟨e, m, he, hhead⟩
    rw [Bool.eq_iff_iff, List.contains_iff_mem, List.contains_iff_mem]
    exact h hfile root hroot e m he hhead

end

/-! ## A script that is kept apart -/

namespace KeptScript

/-- A component that is a script only. -/
def code : Text := "<script>a</script>".toList

/-- The tree of its markup. -/
def root : Cst :=
  ⟨"fragment", 0, 18, true, false, false,
    [⟨"script_element", 0, 18, true, false, false,
      [⟨"start_tag", 0, 8, true, false, false,
          [⟨"<", 0, 1, false, false, false, []⟩, ⟨"tag_name", 1, 7, true, false, false, []⟩,
            ⟨">", 7, 8, false, false, false, []⟩]⟩,
        ⟨"raw_text", 8, 9, true, false, false, []⟩,
        ⟨"end_tag", 9, 18, true, false, false,
          [⟨"</", 9, 11, false, false, false, []⟩, ⟨"tag_name", 11, 17, true, false, false, []⟩,
            ⟨">", 17, 18, false, false, false, []⟩]⟩]⟩]⟩

/-- A reader that makes an empty program of every text. -/
def parse (t : Text) : Except Failure Program :=
  .ok ⟨[], [], [], ⟨0, t.length, Nat.zero_le _⟩⟩

/-- The range of the program that the component is read as. -/
def programRange (tags : List Text) : Option Range :=
  (outcome (fun _ _ _ => .ok root) parse (Settings.withContainers {} tags) code
    (some "a.vue".toList)).toOption.map (·.1.range)

end KeptScript

/-- **The choice is not one of representation only**: a script whose tag keeps its
children apart is handed over empty. -/
theorem outcome_ne_of_script_kept :
    ¬ ∀ (grammars : Grammars) (parse : Text → Except Failure Program) (settings : Settings)
        (tags tags' : List Text) (code : Text) (file : Option Text),
      outcome grammars parse (settings.withContainers tags) code file =
        outcome grammars parse (settings.withContainers tags') code file := by
  intro h
  have hsame : KeptScript.programRange ["template".toList] =
      KeptScript.programRange ["template".toList, "script".toList] :=
    congrArg (·.toOption.map (·.1.range)) (h _ _ _ _ _ _ _)
  have hread : KeptScript.programRange ["template".toList] = some ⟨8, 9, by decide⟩ := by
    decide +kernel
  have hkept : KeptScript.programRange ["template".toList, "script".toList] =
      some ⟨8, 8, by decide⟩ := by decide +kernel
  rw [hread, hkept] at hsame
  exact absurd hsame (by decide)

end Component

end SingleFile
