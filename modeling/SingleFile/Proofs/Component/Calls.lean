import SingleFile.Proofs.Component.Tokens
import SingleFile.Proofs.Template.Answers
import SingleFile.Proofs.Template.Caught

/-!
# Components — what the script reader is called with

The script reader is called first with the padded script block of a
component, or with the whole code of any other file, and then once for
each expression of the template, in the order of the tree. Only the first
call can end the reading in a rejection, and it is then the last one; the
answers to the others stay with their expressions (`calls_of_read`).
-/

namespace SingleFile

namespace Script

variable {code : Text} {script : Option Markup.Element} {parser : ScriptParser} {n : Nat}

/-- **A block is rejected when its text is**: the tags can only breach. -/
theorem block_eq_syntaxError_iff {e : SyntaxError} :
    block code script parser n = .error (.syntaxError e) ↔
      parser n (padded code script) = .error (.syntaxError e) := by
  unfold block
  cases hanswer : parser n (padded code script) with
  | error f => rfl
  | ok program =>
    refine iff_of_false (fun h => ?_) fun h => by cases h
    cases script with
    | none => cases h
    | some element =>
      exact Failure.ofBreach_ne_syntaxError (withTags code program element.mark) e h

end Script

/-- Building a markup document rejects no script. -/
theorem Markup.Document.build_ne_syntaxError (grammars : Grammars) (text : Text)
    (tags : List Text) (e : SyntaxError) :
    (Markup.Document.build grammars text tags).result ≠ .error (.syntaxError e) := by
  unfold Markup.Document.build
  split <;> exact fun h => by cases h

namespace Component

/-! ## The template -/

section

variable (code : Text) (template : Option Markup.Element) (parser : ScriptParser)
  (templateSettings : TemplateSettings) (asked : List Text)

/-- How a template is read: by a transformer that starts after the texts already handed over, or
not at all. -/
theorem readTemplate_cases :
    (∃ element : Markup.Element,
      (readTemplate code template parser templateSettings asked).asked =
        ((Template.Transformer.start (.ofSettings code parser templateSettings
          Template.transformerName) asked).transform [element.entry]).1.ledger.asked ∧
      (readTemplate code template parser templateSettings asked).result =
        ((Template.Transformer.start (.ofSettings code parser templateSettings
          Template.transformerName) asked).transform [element.entry]).2.map some) ∨
    ((readTemplate code template parser templateSettings asked).asked = asked ∧
      (readTemplate code template parser templateSettings asked).result = .ok none) := by
  unfold readTemplate
  split
  · exact .inr ⟨rfl, rfl⟩
  · rename_i element
    dsimp only
    split
    · exact .inl ⟨element, rfl, rfl⟩
    · exact .inr ⟨rfl, rfl⟩

/-- A template ends in no rejection. -/
theorem readTemplate_ne_syntaxError (e : SyntaxError) :
    (readTemplate code template parser templateSettings asked).result ≠
      .error (.syntaxError e) := by
  rcases readTemplate_cases code template parser templateSettings asked with
    ⟨element, -, hresult⟩ | ⟨-, hresult⟩
  · rw [hresult]
    have htransform := Template.Transformer.unrejected_transform (Template.Transformer.start
      (.ofSettings code parser templateSettings Template.transformerName) asked) [element.entry] e
    exact fun h => htransform (except_map_eq_error_iff.1 h)
  · rw [hresult]
    exact fun h => by cases h

/-- What was handed over before it comes first. -/
theorem asked_prefix_readTemplate :
    asked <+: (readTemplate code template parser templateSettings asked).asked := by
  rcases readTemplate_cases code template parser templateSettings asked with
    ⟨element, hasked, -⟩ | ⟨hasked, -⟩
  · rw [hasked]
    exact Template.Transformer.asked_prefix_start _ asked [element.entry]
  · exact ⟨[], (List.append_nil asked).trans hasked.symm⟩

/-- **Texts and answers of a template**: after what was handed over before, one text for each
expression of its tree, and the answer to it decides what becomes of the expression. -/
theorem answers_of_readTemplate {result : Template.Result}
    (h : (readTemplate code template parser templateSettings asked).result = .ok (some result)) :
    ∃ texts, (readTemplate code template parser templateSettings asked).asked = asked ++ texts ∧
      texts.map some = (result.root.expressions (.ofSettings code parser templateSettings
        Template.transformerName)).map (·.surrogate? (.ofText code parser
          Template.transformerName)) ∧
      ∀ k x text, (result.root.expressions (.ofSettings code parser templateSettings
          Template.transformerName))[k]? = some x → texts[k]? = some text →
        parser.Decides (asked.length + k) text x.container.outcome := by
  rcases readTemplate_cases code template parser templateSettings asked with
    ⟨element, hasked, hresult⟩ | ⟨-, hresult⟩
  · rw [hresult] at h
    obtain ⟨result', hok, hsome⟩ := except_map_eq_ok_iff.1 h
    obtain rfl := Option.some.inj hsome
    rw [hasked]
    exact Template.Transformer.answers_of_start rfl hok
  · rw [hresult] at h
    cases h

end

section

variable {grammars : Grammars} {parser : ScriptParser} {settings : Settings} {code : Text}
  {file : Option Text} {document : Option Markup.Document} {d : Markup.Document}

/-! ## The blocks -/

/-- How the blocks are read: no further than the script when that fails, and else on to the
template. -/
theorem readRegions_cases (code : Text) (file : Option Text) (settings : Settings)
    (parser : ScriptParser) (d : Markup.Document) :
    (∃ f, Script.block code (Regions.ofDocument d).script parser 0 = .error f ∧
      (readRegions code file settings parser d).asked =
        [Script.padded code (Regions.ofDocument d).script] ∧
      (readRegions code file settings parser d).result = .error f) ∨
    ∃ program, Script.block code (Regions.ofDocument d).script parser 0 = .ok program ∧
      (readRegions code file settings parser d).asked =
        (readTemplate code (Regions.ofDocument d).template parser settings.template
          [Script.padded code (Regions.ofDocument d).script]).asked ∧
      (readRegions code file settings parser d).result =
        (readTemplate code (Regions.ofDocument d).template parser settings.template
          [Script.padded code (Regions.ofDocument d).script]).result.map fun template =>
            ⟨program, template, (Regions.ofDocument d).styles⟩ := by
  unfold readRegions
  dsimp only
  cases Script.block code (Regions.ofDocument d).script parser 0 with
  | error f => exact .inl ⟨f, rfl, rfl, rfl⟩
  | ok program =>
    right
    rcases readTemplate code (Regions.ofDocument d).template parser settings.template
      [Script.padded code (Regions.ofDocument d).script] with ⟨asked, events, f | template⟩
    · exact ⟨program, rfl, rfl, rfl⟩
    · exact ⟨program, rfl, rfl, rfl⟩

/-- **The blocks end in a rejection when the script is rejected.** -/
theorem readRegions_eq_syntaxError_iff {e : SyntaxError} :
    (readRegions code file settings parser d).result = .error (.syntaxError e) ↔
      parser 0 (Script.padded code (Regions.ofDocument d).script) = .error (.syntaxError e) := by
  rw [← Script.block_eq_syntaxError_iff]
  rcases readRegions_cases code file settings parser d with
    ⟨f, hblock, -, hresult⟩ | ⟨program, hblock, -, hresult⟩
  · rw [hblock, hresult, Except.error.injEq, Except.error.injEq]
  · rw [hblock, hresult, except_map_eq_error_iff]
    exact iff_of_false (readTemplate_ne_syntaxError _ _ _ _ _ e) fun h => by cases h

/-- Nothing is handed over after that. -/
theorem asked_readRegions_of_rejected {e : SyntaxError}
    (h : parser 0 (Script.padded code (Regions.ofDocument d).script) = .error (.syntaxError e)) :
    (readRegions code file settings parser d).asked =
      [Script.padded code (Regions.ofDocument d).script] := by
  rw [← Script.block_eq_syntaxError_iff] at h
  rcases readRegions_cases code file settings parser d with
    ⟨f, -, hasked, -⟩ | ⟨program, hblock, -, -⟩
  · exact hasked
  · rw [h] at hblock
    cases hblock

/-- The script is handed over first. -/
theorem head?_asked_readRegions :
    (readRegions code file settings parser d).asked.head? =
      some (Script.padded code (Regions.ofDocument d).script) := by
  rcases readRegions_cases code file settings parser d with
    ⟨f, -, hasked, -⟩ | ⟨program, -, hasked, -⟩
  · rw [hasked, List.head?_cons]
  · obtain ⟨texts, htexts⟩ := asked_prefix_readTemplate code (Regions.ofDocument d).template parser
      settings.template [Script.padded code (Regions.ofDocument d).script]
    rw [hasked, ← htexts, List.singleton_append, List.head?_cons]

/-- The template of a component that is read was read after the script. -/
theorem readTemplate_of_readRegions {c : Component}
    (h : (readRegions code file settings parser d).result = .ok c) :
    (readTemplate code (Regions.ofDocument d).template parser settings.template
        [Script.padded code (Regions.ofDocument d).script]).result = .ok c.template ∧
      (readRegions code file settings parser d).asked =
        (readTemplate code (Regions.ofDocument d).template parser settings.template
          [Script.padded code (Regions.ofDocument d).script]).asked := by
  rcases readRegions_cases code file settings parser d with
    ⟨f, -, -, hresult⟩ | ⟨program, -, hasked, hresult⟩
  · rw [hresult] at h
    cases h
  · rw [hresult] at h
    obtain ⟨template, htemplate, rfl⟩ := except_map_eq_ok_iff.1 h
    exact ⟨htemplate, hasked⟩

/-! ## The file -/

/-- The markup document that a component is read from: the one that is given, or the one that is
built. -/
def documentOf (grammars : Grammars) (settings : Settings) (code : Text) :
    Option Markup.Document → Except Failure Markup.Document
  | some d => .ok d
  | none => (Markup.Document.build grammars code settings.template.containerTags).result

/-- The text that is handed over first: the padded script block of a component that has a markup
document, and the whole code of a file that is no component. -/
def firstText? (grammars : Grammars) (settings : Settings) (code : Text) (file : Option Text)
    (document : Option Markup.Document) : Option Text :=
  if settings.isComponent file then
    (documentOf grammars settings code document).toOption.map fun d =>
      Script.padded code (Regions.ofDocument d).script
  else some code

/-- There is a document unless the markup grammar fails, which is no rejection. -/
theorem documentOf_ne_syntaxError (grammars : Grammars) (settings : Settings) (code : Text)
    (document : Option Markup.Document) (e : SyntaxError) :
    documentOf grammars settings code document ≠ .error (.syntaxError e) := by
  cases document with
  | some d => exact fun h => by cases h
  | none => exact Markup.Document.build_ne_syntaxError _ _ _ e

/-- **How a file is read**: as a script, not at all for want of a document, or block by block. -/
theorem read_cases (grammars : Grammars) (parser : ScriptParser) (settings : Settings)
    (code : Text) (file : Option Text) (document : Option Markup.Document) :
    (firstText? grammars settings code file document = some code ∧
      (read grammars parser settings code file document).asked = [code] ∧
      (read grammars parser settings code file document).result =
        (parser 0 code).map fun p => ⟨p, none, []⟩) ∨
    (∃ f, (∀ e, f ≠ .syntaxError e) ∧
      firstText? grammars settings code file document = none ∧
      (read grammars parser settings code file document).asked = [] ∧
      (read grammars parser settings code file document).result = .error f) ∨
    ∃ d shown, firstText? grammars settings code file document =
        some (Script.padded code (Regions.ofDocument d).script) ∧
      (read grammars parser settings code file document).asked =
        (readRegions code shown settings parser d).asked ∧
      (read grammars parser settings code file document).result =
        (readRegions code shown settings parser d).result := by
  unfold read firstText?
  cases settings.isComponent file with
  | false => exact .inl ⟨rfl, rfl, rfl⟩
  | true =>
    have hno := documentOf_ne_syntaxError grammars settings code document
    rw [if_pos rfl, if_pos rfl]
    right
    cases document with
    | some d => exact .inr ⟨d, file.filter (· ≠ []), rfl, rfl, rfl⟩
    | none =>
      unfold documentOf at hno ⊢
      dsimp only at hno ⊢
      rcases hbuilt : Markup.Document.build grammars code settings.template.containerTags with
        ⟨asked, events, f | d⟩
      · rw [hbuilt] at hno
        exact .inl ⟨f, fun e heq => hno e (heq ▸ rfl), rfl, rfl, rfl⟩
      · exact .inr ⟨d, file.filter (· ≠ []), rfl, rfl, rfl⟩

/-- **The first text that is handed over.** -/
theorem head?_asked_read :
    (read grammars parser settings code file document).asked.head? =
      firstText? grammars settings code file document := by
  rcases read_cases grammars parser settings code file document with
    ⟨hfirst, hasked, -⟩ | ⟨f, -, hfirst, hasked, -⟩ | ⟨d, shown, hfirst, hasked, -⟩
  · rw [hfirst, hasked, List.head?_cons]
  · rw [hfirst, hasked, List.head?_nil]
  · rw [hfirst, hasked, head?_asked_readRegions]

/-- **A file ends in a rejection when its first text is rejected.** -/
theorem read_eq_syntaxError_iff {e : SyntaxError} :
    (read grammars parser settings code file document).result = .error (.syntaxError e) ↔
      ∃ text, firstText? grammars settings code file document = some text ∧
        parser 0 text = .error (.syntaxError e) := by
  rcases read_cases grammars parser settings code file document with
    ⟨hfirst, -, hresult⟩ | ⟨f, hno, hfirst, -, hresult⟩ | ⟨d, shown, hfirst, -, hresult⟩
  · rw [hfirst, hresult]
    simp only [Option.some.injEq, exists_eq_left', except_map_eq_error_iff]
  · rw [hfirst, hresult]
    simp [hno e]
  · rw [hfirst, hresult, readRegions_eq_syntaxError_iff]
    simp

/-- Then no other text is handed over. -/
theorem length_asked_read_of_rejected {e : SyntaxError}
    (h : (read grammars parser settings code file document).result = .error (.syntaxError e)) :
    (read grammars parser settings code file document).asked.length = 1 := by
  rcases read_cases grammars parser settings code file document with
    ⟨-, hasked, -⟩ | ⟨f, hno, -, -, hresult⟩ | ⟨d, shown, -, hasked, hresult⟩
  · rw [hasked, List.length_singleton]
  · rw [hresult, Except.error.injEq] at h
    exact absurd h (hno e)
  · rw [hresult, readRegions_eq_syntaxError_iff] at h
    rw [hasked, asked_readRegions_of_rejected h, List.length_singleton]

/-- **Texts and answers of a component**: after the script one text for each expression of the
template, and the answer to it decides what becomes of the expression. -/
theorem answers_of_read {component : Component} {result : Template.Result}
    (h : (read grammars parser settings code file document).result = .ok component)
    (htemplate : component.template = some result) :
    ∃ script texts, firstText? grammars settings code file document = some script ∧
      (read grammars parser settings code file document).asked = script :: texts ∧
      texts.map some = (result.root.expressions (.ofSettings code parser settings.template
        Template.transformerName)).map (·.surrogate? (.ofText code parser
          Template.transformerName)) ∧
      ∀ k x text, (result.root.expressions (.ofSettings code parser settings.template
          Template.transformerName))[k]? = some x → texts[k]? = some text →
        parser.Decides (k + 1) text x.container.outcome := by
  rcases read_cases grammars parser settings code file document with
    ⟨-, -, hresult⟩ | ⟨f, -, -, -, hresult⟩ | ⟨d, shown, hfirst, hasked, hresult⟩
  · rw [hresult] at h
    obtain ⟨program, -, rfl⟩ := except_map_eq_ok_iff.1 h
    cases htemplate
  · rw [hresult] at h
    cases h
  · rw [hresult] at h
    obtain ⟨hread, hsame⟩ := readTemplate_of_readRegions h
    rw [htemplate] at hread
    obtain ⟨texts, htexts, hsurrogates, hdecides⟩ := answers_of_readTemplate _ _ _ _ _ hread
    refine ⟨_, texts, hfirst, ?_, hsurrogates, fun k x text hx htext => ?_⟩
    · rw [hasked, hsame, htexts, List.singleton_append]
    · have hanswer := hdecides k x text hx htext
      rwa [List.length_singleton, Nat.add_comm] at hanswer

/-- **What the script reader is called with.** The first text handed over is the padded script
block, or the whole code of a file that is no component. A file ends in a rejection exactly when
this text is rejected, and then no other is handed over. And whenever a component is returned with
a template, the texts handed over are the script block and then one for each expression, in the
order of the walk through the tree; what becomes of the expression is the answer to its text. -/
theorem calls_of_read (grammars : Grammars) (parser : ScriptParser) (settings : Settings)
    (code : Text) (file : Option Text) (document : Option Markup.Document) :
    let reading := read grammars parser settings code file document
    let first? := firstText? grammars settings code file document
    reading.asked.head? = first? ∧
    (∀ e, reading.result = .error (.syntaxError e) ↔
      ∃ text, first? = some text ∧ parser 0 text = .error (.syntaxError e)) ∧
    (∀ e, reading.result = .error (.syntaxError e) → reading.asked.length = 1) ∧
    ∀ component result, reading.result = .ok component → component.template = some result →
      let c := Template.Context.ofSettings code parser settings.template Template.transformerName
      let expressions := result.root.expressions c
      expressions.map Template.Delimited.container =
          (Template.Item.document result.root).walk.filterMap Template.Item.container? ∧
        ∃ script texts, first? = some script ∧ reading.asked = script :: texts ∧
          texts.map some = expressions.map (·.surrogate? c.reader) ∧
          ∀ k x text, expressions[k]? = some x → texts[k]? = some text →
            parser.Decides (k + 1) text x.container.outcome := by
  refine ⟨head?_asked_read, fun e => read_eq_syntaxError_iff, fun e h =>
    length_asked_read_of_rejected h, fun component result h htemplate => ?_⟩
  exact ⟨Template.Document.container_expressions _ result.root, answers_of_read h htemplate⟩

end

/-! ## Three answers -/

namespace ThreeAnswers

/-- A component with a directive and two interpolations. -/
def code : Text :=
  "<template><p :a=\"b\">\x7b\x7b;\x7d\x7d\x7b\x7bdd\x7d\x7d</p></template>".toList ++
    "<script>s</script>".toList

/-- The paragraph in its template. -/
def paragraph : Markup.Entry :=
  .element "p".toList ⟨⟨10, 35, 1, 10⟩, some ⟨10, 20, 1, 10⟩, some ⟨31, 35, 1, 31⟩⟩
    [⟨":a".toList, "b".toList, ⟨13, 19, 1, 13⟩⟩] [.text ⟨20, 31, 1, 20⟩] none

/-- Its markup document. -/
def document : Markup.Document :=
  ⟨[.element "template".toList
      ⟨⟨0, 46, 1, 0⟩, some ⟨0, 10, 1, 0⟩, some ⟨35, 46, 1, 35⟩⟩ [] [] (some [paragraph]),
    .element "script".toList
      ⟨⟨46, 64, 1, 46⟩, some ⟨46, 54, 1, 46⟩, some ⟨55, 64, 1, 55⟩⟩ [] [.text ⟨54, 55, 1, 54⟩]
      none]⟩

/-- The error that a semicolon is rejected with. -/
def rejection : SyntaxError := ⟨"Unexpected token", 0, ⟨1, 0⟩⟩

/-- A reader that rejects every text with a semicolon. -/
def parser : ScriptParser := .ofFunction fun t =>
  if t.contains ';' then .error (.syntaxError rejection) else .ok (TemplateFirst.program t)

/-- What it is read as. -/
def reading : Reading Component :=
  read (fun _ _ _ => .error (.noTree [])) parser {} code (some "a.vue".toList) (some document)

/-- The context of its template. -/
def context : Template.Context :=
  .ofSettings code parser ({} : Settings).template Template.transformerName

end ThreeAnswers

/-- The name in the directive is an expression, the semicolon is rejected, and two letters are no
name: the three texts follow the script in this order. -/
theorem calls_of_threeAnswers : ∃ component result,
    ThreeAnswers.reading.result = .ok component ∧ component.template = some result ∧
      ThreeAnswers.reading.asked.map (·.filter (· != ' ')) =
        ["s".toList, "(b)".toList, "(;)".toList, "(dd)".toList] ∧
      (result.root.expressions ThreeAnswers.context).map (·.container.outcome.toOption.map (·.raw))
        = [some ['b'], none, none] ∧
      ∀ k x text, (result.root.expressions ThreeAnswers.context)[k]? = some x →
        ThreeAnswers.reading.asked[k + 1]? = some text →
          ThreeAnswers.parser.Decides (k + 1) text x.container.outcome := by
  have hread : ThreeAnswers.reading.result.map (fun c => c.template.map fun r =>
      (r.root.expressions ThreeAnswers.context).map (·.container.outcome.toOption.map (·.raw))) =
        .ok (some [some ['b'], none, none]) := by decide +kernel
  have hasked : ThreeAnswers.reading.asked.map (·.filter (· != ' ')) =
      ["s".toList, "(b)".toList, "(;)".toList, "(dd)".toList] := by decide +kernel
  obtain ⟨component, hok, hread⟩ := except_map_eq_ok_iff.1 hread
  obtain ⟨result, htemplate, hraws⟩ := Option.map_eq_some_iff.1 hread
  refine ⟨component, result, hok, htemplate, hasked, hraws, ?_⟩
  unfold ThreeAnswers.reading at hok ⊢
  obtain ⟨-, -, -, hcalls⟩ := calls_of_read (fun _ _ _ => .error (.noTree []))
    ThreeAnswers.parser {} ThreeAnswers.code (some "a.vue".toList) (some ThreeAnswers.document)
  obtain ⟨-, script, texts, -, hsplit, -, hdecides⟩ := hcalls component result hok htemplate
  rw [hsplit]
  exact hdecides

end Component

end SingleFile
