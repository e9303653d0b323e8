import Mathlib.Data.List.Basic
import Mathlib.Data.List.TakeWhile
import SingleFile.Directive

/-!
# Directives — the parts of a name

A name is taken apart in one of three ways: behind a shorthand, at its
first colon, or not at all before its dots (`decompose_of_shorthand`,
`decompose_of_colon`, `decompose_of_noColon`). The pieces between dots,
with the dots put back, are the text again, so the parts of a directive
spell its name (`spelled_decompose`), as long as the spellings are told
apart (`Separate`) and the lead holds no dot. What a directive ends with
is part of a piece, so its last part is not empty
(`last_decompose_ne_nil`).
-/

namespace SingleFile

/-! ## Pieces of a text -/

namespace Text

variable {c d : Char} {t u front : Text}

/-- The pieces of a text with another character in front. -/
theorem pieces_cons :
    pieces c (d :: t) =
      if d = c then ([], (pieces c t).1 :: (pieces c t).2)
      else (d :: (pieces c t).1, (pieces c t).2) := rfl

/-- **The pieces with the separators put back** are the text. -/
theorem pieces_join (c : Char) (t : Text) :
    (pieces c t).1 ++ (pieces c t).2.flatMap (c :: ·) = t := by
  induction t with
  | nil => rfl
  | cons d t ih =>
    rw [pieces_cons]
    split
    · rename_i heq
      rw [List.nil_append, List.flatMap_cons, List.cons_append, ih, heq]
    · rw [List.cons_append, ih]

/-- Texts with the same pieces are the same. -/
theorem eq_of_pieces_eq (h : pieces c t = pieces c u) : t = u := by
  rw [← pieces_join c t, ← pieces_join c u, h]

/-- The only piece of a text is all of it. -/
theorem fst_pieces_of_snd_eq_nil (h : (pieces c t).2 = []) : (pieces c t).1 = t := by
  have hjoin := pieces_join c t
  rwa [h, List.flatMap_nil, List.append_nil] at hjoin

/-- What holds no separator is of the first piece. -/
theorem pieces_append (h : c ∉ front) :
    pieces c (front ++ t) = (front ++ (pieces c t).1, (pieces c t).2) := by
  induction front with
  | nil => rfl
  | cons d front ih =>
    have hd : d ≠ c := fun heq => h (heq ▸ List.mem_cons_self)
    have hfront : c ∉ front := fun hmem => h (List.mem_cons_of_mem d hmem)
    rw [List.cons_append, pieces_cons, if_neg hd, ih hfront, List.cons_append]

/-- The last piece of a text. -/
def lastPiece (c : Char) (t : Text) : Text := (pieces c t).2.getLast?.getD (pieces c t).1

/-- **The last piece is not empty** when the text ends with another character than the separator. -/
theorem lastPiece_ne_nil (hlast : t.getLast? = some d) (hd : d ≠ c) : lastPiece c t ≠ [] := by
  induction t with
  | nil => cases hlast
  | cons e t ih =>
    have hrest : t ≠ [] → lastPiece c t ≠ [] := by
      intro hne
      refine ih ?_
      rwa [List.getLast?_cons_of_ne_nil hne] at hlast
    unfold lastPiece at hrest ⊢
    rw [pieces_cons]
    by_cases he : e = c
    · -- a separator only begins another piece, and it is not all of the text
      have hne : t ≠ [] := by
        rintro rfl
        exact hd (he ▸ (Option.some.inj hlast).symm)
      rw [if_pos he, List.getLast?_cons, Option.getD_some]
      exact hrest hne
    · rw [if_neg he]
      cases hmore : (pieces c t).2.getLast? with
      | none => exact List.cons_ne_nil _ _
      | some piece =>
        have hne : t ≠ [] := by
          rintro rfl
          cases hmore
        have := hrest hne
        rwa [hmore] at this

end Text

/-! ## Spelling of the parts -/

namespace DirectiveParts

/-- The modifiers as a name holds them. -/
def suffix (p : DirectiveParts) : Text := p.modifiers.flatMap ('.' :: ·)

/-- The name that parts come from, where long forms begin with `lead`. -/
def spelled (p : DirectiveParts) (lead : Text) : Text :=
  if p.isShorthand then p.name ++ p.argument.getD [] ++ p.suffix
  else lead ++ p.name ++ (p.argument.map (':' :: ·)).getD [] ++ p.suffix

/-- The last part that is present: a modifier, else the argument, else the name. -/
def last (p : DirectiveParts) : Text := p.modifiers.getLast?.getD (p.argument.getD p.name)

end DirectiveParts

namespace DirectiveRules

variable {r : DirectiveRules} {raw front rest sigil t : Text} {d : Char}

/-- **Spellings told apart**: the lead holds no colon, and neither the lead nor a shorthand begins
with the other. -/
structure Separate (r : DirectiveRules) : Prop where
  noColon : ':' ∉ r.lead
  lead_bind : ¬ r.lead <+: r.bind
  bind_lead : ¬ r.bind <+: r.lead
  lead_event : ¬ r.lead <+: r.event
  event_lead : ¬ r.event <+: r.lead

/-! ## Leads and shorthands -/

/-- The lead is dropped from what begins with it. -/
@[simp] theorem dropLead_append (r : DirectiveRules) (t : Text) : r.dropLead (r.lead ++ t) = t := by
  unfold dropLead
  rw [Text.dropLead?_eq_some_iff.2 rfl, Option.getD_some]

/-- All else stays as it is. -/
theorem dropLead_of_not_isPrefix (h : ¬ r.lead <+: t) : r.dropLead t = t := by
  unfold dropLead
  cases hdrop : t.dropLead? r.lead with
  | none => rfl
  | some rest => exact absurd ⟨rest, (Text.dropLead?_eq_some_iff.1 hdrop).symm⟩ h

/-- No lead is dropped from a text that does not begin with it. -/
theorem dropLead?_eq_none_iff {lead : Text} : t.dropLead? lead = none ↔ ¬ lead <+: t := by
  rw [← Text.beginsWith_iff_isPrefix, Text.beginsWith, Option.not_isSome_iff_eq_none]

/-- **The shorthand of a name** is the one it begins with, and the first of the two when it begins
with both. -/
theorem shorthand?_eq_some_iff :
    r.shorthand? raw = some (sigil, rest) ↔
      raw = sigil ++ rest ∧ (sigil = r.bind ∨ sigil = r.event ∧ ¬ r.bind <+: raw) := by
  unfold shorthand?
  simp only [List.findSome?_cons, List.findSome?_nil]
  cases hbind : raw.dropLead? r.bind with
  | some more =>
    have hraw := Text.dropLead?_eq_some_iff.1 hbind
    simp only [Option.map_some, Option.some.injEq, Prod.mk.injEq]
    constructor
    · rintro ⟨rfl, rfl⟩
      exact ⟨hraw, .inl rfl⟩
    · rintro ⟨hraw', rfl | ⟨-, hnot⟩⟩
      · exact ⟨rfl, List.append_cancel_left (hraw.symm.trans hraw')⟩
      · exact absurd ⟨more, hraw.symm⟩ hnot
  | none =>
    have hnot := dropLead?_eq_none_iff.1 hbind
    cases hevent : raw.dropLead? r.event with
    | some more =>
      have hraw := Text.dropLead?_eq_some_iff.1 hevent
      simp only [Option.map_none, Option.map_some, Option.some.injEq, Prod.mk.injEq]
      constructor
      · rintro ⟨rfl, rfl⟩
        exact ⟨hraw, .inr ⟨rfl, hnot⟩⟩
      · rintro ⟨hraw', rfl | ⟨rfl, -⟩⟩
        · exact absurd ⟨rest, hraw'.symm⟩ hnot
        · exact ⟨rfl, List.append_cancel_left (hraw.symm.trans hraw')⟩
    | none =>
      have hnot' := dropLead?_eq_none_iff.1 hevent
      simp only [Option.map_none, reduceCtorEq, false_iff]
      rintro ⟨hraw, rfl | ⟨rfl, -⟩⟩
      · exact hnot ⟨rest, hraw.symm⟩
      · exact hnot' ⟨rest, hraw.symm⟩

/-- And it has none when it begins with neither. -/
theorem shorthand?_eq_none_iff :
    r.shorthand? raw = none ↔ ¬ r.bind <+: raw ∧ ¬ r.event <+: raw := by
  unfold shorthand?
  simp only [List.findSome?_eq_none_iff, List.forall_mem_cons, Option.map_eq_none_iff,
    dropLead?_eq_none_iff, List.not_mem_nil, false_imp_iff, implies_true, and_true]

/-! ## The three ways -/

/-- **Behind a shorthand** comes the argument. -/
theorem decompose_of_shorthand (h : r.shorthand? raw = some (sigil, rest)) :
    r.decompose raw =
      ⟨r.dropLead sigil, some (rest.pieces '.').1, (rest.pieces '.').2, true⟩ := by
  unfold decompose
  rw [h]

/-- **The first colon** divides the name from the argument. -/
theorem decompose_of_colon (h : r.shorthand? raw = none) (hraw : raw = front ++ ':' :: rest)
    (hfront : ':' ∉ front) :
    r.decompose raw =
      ⟨r.dropLead front, some (rest.pieces '.').1, (rest.pieces '.').2, false⟩ := by
  have hclass : ∀ c ∈ front, decide (c ≠ ':') = true := fun c hc =>
    decide_eq_true fun heq => hfront (heq ▸ hc)
  unfold decompose
  rw [h, hraw, List.dropWhile_append_of_pos hclass, List.takeWhile_append_of_pos hclass,
    List.dropWhile_cons_of_neg (by decide), List.takeWhile_cons_of_neg (by decide),
    List.append_nil]

/-- **Without a colon** there is no argument. -/
theorem decompose_of_noColon (h : r.shorthand? raw = none) (hraw : ':' ∉ raw) :
    r.decompose raw =
      ⟨r.dropLead (raw.pieces '.').1, none, (raw.pieces '.').2, false⟩ := by
  have hnil : raw.dropWhile (· ≠ ':') = [] :=
    List.dropWhile_eq_nil_iff.2 fun c hc => decide_eq_true fun heq => hraw (heq ▸ hc)
  unfold decompose
  rw [h, hnil]

/-! ## Directives -/

/-- A directive begins with one of the three spellings, and what follows may follow it. -/
theorem isDirective_iff :
    r.isDirective raw = true ↔
      ∃ lead ∈ [r.lead, r.bind, r.event], ∃ rest, raw = lead ++ rest ∧ r.mayFollow rest = true := by
  unfold isDirective
  rw [List.any_eq_true]
  refine exists_congr fun lead => and_congr_right fun _ => ?_
  constructor
  · intro h
    split at h
    · rename_i rest hdrop
      exact ⟨rest, Text.dropLead?_eq_some_iff.1 hdrop, h⟩
    · cases h
  · rintro ⟨rest, hraw, hrest⟩
    rw [Text.dropLead?_eq_some_iff.2 hraw]
    exact hrest

/-- What may follow a lead holds a character that may end a directive, and its own last character is
neither a dot nor a colon. -/
theorem ends_of_mayFollow (h : r.mayFollow rest = true) :
    (∃ d ∈ rest, r.mayEnd d = true) ∧ ∃ d, rest.getLast? = some d ∧ d ≠ '.' ∧ d ≠ ':' := by
  have hend : ∀ c, r.mayEnd c = true → c ≠ '.' ∧ c ≠ ':' := by
    intro c hc
    constructor <;>
    · rintro rfl
      simp [mayEnd] at hc
  unfold mayFollow at h
  have hmem : ∀ d, d ∈ rest ↔ d ∈ rest.reverse := fun d => List.mem_reverse.symm
  rw [List.getLast?_eq_head?_reverse]
  simp only [hmem]
  generalize rest.reverse = back at h ⊢
  rcases back with _ | ⟨c, before⟩
  · cases h
  rcases Bool.or_eq_true_iff.1 h with hc | hc
  · exact ⟨⟨c, List.mem_cons_self, hc⟩, c, rfl, hend c hc⟩
  · -- a line feed may stand behind the end
    obtain ⟨hfeed, hbefore⟩ := Bool.and_eq_true_iff.1 hc
    obtain rfl := of_decide_eq_true hfeed
    refine ⟨?_, '\n', rfl, by decide⟩
    rcases before with _ | ⟨d, before⟩
    · cases hbefore
    · exact ⟨d, by simp, hbefore⟩

/-- No shorthand may hold an end. -/
theorem mayEnd_of_mem_sigil (hsigil : sigil = r.bind ∨ sigil = r.event) (hd : d ∈ sigil) :
    r.mayEnd d = false := by
  rcases hsigil with rfl | rfl <;> simp [mayEnd, hd]

/-- **A directive goes on behind its shorthand**, and neither with a dot nor with a colon at the
end. -/
theorem getLast?_of_shorthand (h : r.isDirective raw = true)
    (hshort : r.shorthand? raw = some (sigil, rest)) :
    ∃ d, rest.getLast? = some d ∧ d ≠ '.' ∧ d ≠ ':' := by
  obtain ⟨rfl, hsigil⟩ := shorthand?_eq_some_iff.1 hshort
  obtain ⟨lead, -, more, hraw, hmore⟩ := isDirective_iff.1 h
  obtain ⟨⟨e, he, hend⟩, d, hlast, hd⟩ := ends_of_mayFollow hmore
  have hne : rest ≠ [] := by
    rintro rfl
    have hmem : e ∈ sigil := by
      rw [List.append_nil] at hraw
      rw [hraw]
      exact List.mem_append_right lead he
    rw [mayEnd_of_mem_sigil (hsigil.imp_right And.left) hmem] at hend
    cases hend
  have hmore : more ≠ [] := List.ne_nil_of_mem he
  refine ⟨d, ?_, hd⟩
  rw [← List.getLast?_append_of_ne_nil sigil hne, hraw, List.getLast?_append_of_ne_nil lead hmore,
    hlast]

/-- A directive in long form goes on behind the lead, with the same characters excluded. -/
theorem exists_behind_lead (h : r.isDirective raw = true) (hnone : r.shorthand? raw = none) :
    ∃ rest, raw = r.lead ++ rest ∧ ∃ d, rest.getLast? = some d ∧ d ≠ '.' ∧ d ≠ ':' := by
  obtain ⟨hbind, hevent⟩ := shorthand?_eq_none_iff.1 hnone
  obtain ⟨lead, hlead, rest, hraw, hrest⟩ := isDirective_iff.1 h
  have hprefix : lead <+: raw := ⟨rest, hraw.symm⟩
  simp only [List.mem_cons, List.not_mem_nil, or_false] at hlead
  rcases hlead with rfl | rfl | rfl
  · exact ⟨rest, hraw, (ends_of_mayFollow hrest).2⟩
  · exact absurd hprefix hbind
  · exact absurd hprefix hevent

/-! ## Nothing is lost -/

/-- **The parts of a directive spell its name**, where the spellings are told apart and the lead
holds no dot. -/
theorem spelled_decompose (hr : r.Separate) (hdot : '.' ∉ r.lead) (h : r.isDirective raw = true) :
    (r.decompose raw).spelled r.lead = raw := by
  cases hshort : r.shorthand? raw with
  | some found =>
    obtain ⟨sigil, rest⟩ := found
    obtain ⟨hraw, hsigil⟩ := shorthand?_eq_some_iff.1 hshort
    have hname : r.dropLead sigil = sigil := by
      rcases hsigil with rfl | ⟨rfl, -⟩
      · exact dropLead_of_not_isPrefix hr.lead_bind
      · exact dropLead_of_not_isPrefix hr.lead_event
    rw [decompose_of_shorthand hshort, hname, DirectiveParts.spelled, if_pos rfl, Option.getD_some,
      DirectiveParts.suffix, List.append_assoc, Text.pieces_join, hraw]
  | none =>
    obtain ⟨rest, rfl, -⟩ := exists_behind_lead h hshort
    by_cases hcolon : ':' ∈ rest
    · obtain ⟨front, back, rfl, hfront⟩ := List.eq_append_cons_of_mem hcolon
      have hlead : ':' ∉ r.lead ++ front := by
        rw [List.mem_append]
        exact not_or.2 ⟨hr.noColon, hfront⟩
      rw [decompose_of_colon hshort (List.append_assoc _ _ _).symm hlead, dropLead_append,
        DirectiveParts.spelled, if_neg Bool.false_ne_true, Option.map_some, Option.getD_some,
        DirectiveParts.suffix]
      simp only [List.append_assoc, List.cons_append, Text.pieces_join]
    · have hraw : ':' ∉ r.lead ++ rest := by
        rw [List.mem_append]
        exact not_or.2 ⟨hr.noColon, hcolon⟩
      rw [decompose_of_noColon hshort hraw, Text.pieces_append hdot, dropLead_append,
        DirectiveParts.spelled, if_neg Bool.false_ne_true, DirectiveParts.suffix]
      simp only [Option.map_none, Option.getD_none, List.append_nil, List.append_assoc,
        Text.pieces_join]

/-- **The last part of a directive is not empty**, whatever the spellings are. -/
theorem last_decompose_ne_nil (h : r.isDirective raw = true) : (r.decompose raw).last ≠ [] := by
  cases hshort : r.shorthand? raw with
  | some found =>
    obtain ⟨sigil, rest⟩ := found
    obtain ⟨d, hlast, hdot, -⟩ := getLast?_of_shorthand h hshort
    rw [decompose_of_shorthand hshort]
    exact Text.lastPiece_ne_nil hlast hdot
  | none =>
    obtain ⟨rest, rfl, d, hlast, hdot, hd⟩ := exists_behind_lead h hshort
    have hne : rest ≠ [] := by
      rintro rfl
      cases hlast
    have hraw : (r.lead ++ rest).getLast? = some d := by
      rw [List.getLast?_append_of_ne_nil r.lead hne, hlast]
    by_cases hcolon : ':' ∈ r.lead ++ rest
    · obtain ⟨front, back, heq, hfront⟩ := List.eq_append_cons_of_mem hcolon
      rw [decompose_of_colon hshort heq hfront]
      refine Text.lastPiece_ne_nil (d := d) ?_ hdot
      rw [heq, List.getLast?_append_of_ne_nil front (List.cons_ne_nil _ _)] at hraw
      rcases back with _ | ⟨e, back⟩
      · exact absurd (Option.some.inj hraw).symm hd
      · rwa [List.getLast?_cons_cons] at hraw
    · rw [decompose_of_noColon hshort hcolon]
      have hpiece := Text.lastPiece_ne_nil hraw hdot
      unfold Text.lastPiece at hpiece
      unfold DirectiveParts.last
      cases hmore : ((r.lead ++ rest).pieces '.').2.getLast? with
      | some m =>
        rw [hmore] at hpiece
        exact hpiece
      | none =>
        -- without modifiers the name is all that follows the lead
        rw [Text.fst_pieces_of_snd_eq_nil (List.getLast?_eq_none_iff.1 hmore), dropLead_append]
        exact hne

/-- Behind a shorthand there always is an argument. -/
theorem exists_argument_of_isShorthand (h : (r.decompose raw).isShorthand = true) :
    ∃ argument, (r.decompose raw).argument = some argument := by
  cases hshort : r.shorthand? raw with
  | some found =>
    rw [decompose_of_shorthand hshort]
    exact ⟨_, rfl⟩
  | none =>
    unfold decompose at h
    rw [hshort] at h
    dsimp only at h
    split at h <;> cases h

/-! ## The default spellings -/

/-- The default spellings are told apart. -/
theorem separate_default : (ofSettings {}).Separate where
  noColon := by decide
  lead_bind := by decide
  bind_lead := by decide
  lead_event := by decide
  event_lead := by decide

/-- **Directives in the default spelling are taken apart without loss.** A name is spelled by its
parts in order, the last part that is present is not empty, and no other directive has the same
parts. -/
theorem eq_parts_of_isDirective (h : (ofSettings {}).isDirective raw = true) :
    (((ofSettings {}).decompose raw).isShorthand = true →
        ∃ argument, ((ofSettings {}).decompose raw).argument = some argument ∧
          raw = ((ofSettings {}).decompose raw).name ++ argument ++
            ((ofSettings {}).decompose raw).suffix) ∧
      (((ofSettings {}).decompose raw).isShorthand = false →
        raw = ['v', '-'] ++ ((ofSettings {}).decompose raw).name ++
          (((ofSettings {}).decompose raw).argument.map (':' :: ·)).getD [] ++
            ((ofSettings {}).decompose raw).suffix) ∧
      ((ofSettings {}).decompose raw).last ≠ [] ∧
      ∀ other, (ofSettings {}).isDirective other = true →
        (ofSettings {}).decompose other = (ofSettings {}).decompose raw → other = raw := by
  have hspelled : ∀ {name}, (ofSettings {}).isDirective name = true →
      ((ofSettings {}).decompose name).spelled ['v', '-'] = name := fun hname =>
    spelled_decompose separate_default (by decide) hname
  refine ⟨fun hshort => ?_, fun hlong => ?_, last_decompose_ne_nil h, fun other hother heq => ?_⟩
  · obtain ⟨argument, hargument⟩ := exists_argument_of_isShorthand hshort
    have hraw := hspelled h
    rw [DirectiveParts.spelled, if_pos hshort, hargument, Option.getD_some] at hraw
    exact ⟨argument, hargument, hraw.symm⟩
  · have hraw := hspelled h
    rw [DirectiveParts.spelled, hlong, if_neg Bool.false_ne_true] at hraw
    exact hraw.symm
  · rw [← hspelled hother, heq, hspelled h]

/-- A dot before the colon is of the name, an empty modifier is one, and a further colon is of the
modifier it stands in. -/
theorem eq_parts_of_isDirective_dotted :
    (ofSettings {}).isDirective "v-a.b:c..d:e".toList = true ∧
      (ofSettings {}).decompose "v-a.b:c..d:e".toList =
        ⟨['a', '.', 'b'], some ['c'], [[], ['d', ':', 'e']], false⟩ ∧
      "v-a.b:c..d:e".toList = ['v', '-'] ++ ['a', '.', 'b'] ++ [':', 'c'] ++
        DirectiveParts.suffix ⟨['a', '.', 'b'], some ['c'], [[], ['d', ':', 'e']], false⟩ := by
  have hdirective : (ofSettings {}).isDirective "v-a.b:c..d:e".toList = true := by decide
  have hparts : (ofSettings {}).decompose "v-a.b:c..d:e".toList =
      ⟨['a', '.', 'b'], some ['c'], [[], ['d', ':', 'e']], false⟩ := by decide
  obtain ⟨-, hlong, -⟩ := eq_parts_of_isDirective hdirective
  rw [hparts] at hlong
  exact ⟨hdirective, hparts, hlong rfl⟩

end DirectiveRules

end SingleFile
