import TestImpact.Proofs.Text
import TestImpact.Record

/-! The grammar of frames, and frames as they are written. -/
namespace TestImpact
open Text

/-! ## Grammar

The grammar of tokens. A token is read exactly if its first reference has a loader, a class and a
selector; any other token is refused for the first of five causes that applies to it. -/

namespace Loader
variable {text : String} {l : Loader}

theorem ofName?_eq_some_iff {name : String} : ofName? name = some l ↔ l.name = name := by
  constructor
  · intro h
    simpa using List.find?_some h
  · rintro rfl
    exact ofName?_name l

theorem trimmed_name (l : Loader) : trimmed l.name = l.name := by cases l <;> rfl

theorem parse_eq_ok_iff : parse text = .ok l ↔ trimmed text = l.name := by
  rw [eq_comm (a := trimmed text), ← ofName?_eq_some_iff, parse]
  cases ofName? (trimmed text) <;> simp

theorem parse_of_unknown (h : ∀ l : Loader, l.name ≠ trimmed text) :
    parse text = .error (.malformedAt .unknownLoader (trimmed text)) := by
  have hnone : ofName? (trimmed text) = none := by
    apply Option.eq_none_iff_forall_ne_some.mpr
    intro l hl
    exact h l (ofName?_eq_some_iff.mp hl)
  rw [parse, hnone]

end Loader

namespace Frame

/-! ### Fields -/

section Fields
variable {inside loader className selector : List Char}

theorem cut?_comma_eq_some_iff {s before after : List Char} :
    cut? comma s = some (before, after) ↔ s = before ++ comma ++ after ∧ ¬ comma <:+: before :=
  cut?_mark_eq_some_iff (by decide)

theorem fields?_eq_some_iff : fields? inside = some (loader, className, selector) ↔
    inside = loader ++ comma ++ className ++ comma ++ selector ∧ ¬ comma <:+: loader ∧
      ¬ comma <:+: className := by
  rw [fields?]
  constructor
  · intro h
    cases hloader : cut? comma inside with
    | none => simp [hloader] at h
    | some p =>
      rw [hloader] at h
      obtain ⟨⟨c, s⟩, hclass, he⟩ := Option.map_eq_some_iff.mp h
      cases he
      obtain ⟨hinside, hl⟩ := cut?_comma_eq_some_iff.mp hloader
      obtain ⟨hrest, hc⟩ := cut?_comma_eq_some_iff.mp hclass
      rw [hrest] at hinside
      exact ⟨by simpa using hinside, hl, hc⟩
  · rintro ⟨rfl, hl, hc⟩
    have hloader : cut? comma (loader ++ comma ++ className ++ comma ++ selector) =
        some (loader, className ++ comma ++ selector) :=
      cut?_comma_eq_some_iff.mpr ⟨by simp, hl⟩
    have hclass : cut? comma (className ++ comma ++ selector) = some (className, selector) :=
      cut?_comma_eq_some_iff.mpr ⟨rfl, hc⟩
    rw [hloader]
    simp only [hclass, Option.map_some]

/-- A comma behind another one is there behind the first one too. -/
theorem fields?_ne_none (loader className selector : List Char) :
    fields? (loader ++ comma ++ className ++ comma ++ selector) ≠ none := by
  obtain ⟨before, rest, hfirst, hsecond⟩ : ∃ before rest,
      cut? comma (loader ++ comma ++ className ++ comma ++ selector) = some (before, rest) ∧
        comma <:+: rest := by
    cases hloader : cut? comma loader with
    | none =>
      refine ⟨loader, className ++ comma ++ selector, ?_, ⟨className, selector, rfl⟩⟩
      exact cut?_comma_eq_some_iff.mpr ⟨by simp, cut?_eq_none_iff.mp hloader⟩
    | some p =>
      obtain ⟨heq, hp⟩ := cut?_comma_eq_some_iff.mp hloader
      refine ⟨p.1, p.2 ++ comma ++ (className ++ comma ++ selector), ?_, ⟨p.2, _, rfl⟩⟩
      exact cut?_comma_eq_some_iff.mpr ⟨by rw [heq]; simp, hp⟩
  rw [fields?, hfirst]
  simpa [cut?_eq_none_iff] using hsecond

end Fields

/-! ### The first reference -/

/-- The token, cut at its first opening mark. -/
structure Opens (token before body : String) : Prop where
  token_eq : token = before ++ "< " ++ body
  first : OnlyAtEnd opening (before ++ "< ").toList

/-- Behind the first opening mark in the token, `inside` stands before the first closing mark. -/
def Encloses (token inside : String) : Prop :=
  ∃ before after, Opens token before (inside ++ " >" ++ after) ∧ ¬ closing <:+: inside.toList

/-- The first reference in the token has these fields. The selector may hold further commas. -/
structure HasFields (token loader className selector : String) : Prop where
  encloses : Encloses token (loader ++ ", " ++ className ++ ", " ++ selector)
  loader_whole : ¬ comma <:+: loader.toList
  className_whole : ¬ comma <:+: className.toList

/-- The token is written as the grammar asks, and says the frame. -/
structure Spells (token : String) (f : Frame) (loader : String) : Prop where
  fields : HasFields token loader f.method.className f.method.selector
  className_ne : f.method.className ≠ ""
  selector_ne : f.method.selector ≠ ""
  trimmed_loader : trimmed loader = f.loader.name

/-- A cause to refuse a token, with the text that the error blames. -/
inductive Fault (token : String) : Malformation → String → Prop
  | noReference (hnone : ¬ opening <:+: token.toList) : Fault token .noReference token
  | unterminated {before body : String} (hopens : Opens token before body)
      (hnone : ¬ closing <:+: body.toList) : Fault token .unterminated token
  | missingFields {inside : String} (hinside : Encloses token inside)
      (hfew : ∀ loader className selector : String,
        inside ≠ loader ++ ", " ++ className ++ ", " ++ selector) :
      Fault token .missingFields token
  | emptyField {loader className selector : String}
      (hfields : HasFields token loader className selector)
      (hempty : className = "" ∨ selector = "") : Fault token .emptyField token
  | unknownLoader {loader className selector : String}
      (hfields : HasFields token loader className selector)
      (hunknown : ∀ l : Loader, l.name ≠ trimmed loader) :
      Fault token .unknownLoader (trimmed loader)

/-- The causes, the first to be looked for first. -/
def causes : List Malformation :=
  [.noReference, .unterminated, .missingFields, .emptyField, .unknownLoader]

/-- A cause that applies to the token while no earlier one does. -/
structure FirstFault (token : String) (cause : Malformation) (text : String) : Prop where
  fault : Fault token cause text
  no_earlier : ∀ c ∈ causes.takeWhile (· ≠ cause), ∀ t, ¬ Fault token c t

section Reference
variable {token before body inside inside' loader className selector loader' className'
  selector' text : String} {f : Frame}

theorem opens_iff :
    Opens token before body ↔ cut? opening token.toList = some (before.toList, body.toList) := by
  have hmark : OnlyAtEnd opening (before ++ "< ").toList ↔ ¬ opening <:+: before.toList := by
    rw [String.toList_append]
    exact onlyAtEnd_append_mark_iff (by decide)
  have htoken : token = before ++ "< " ++ body ↔
      token.toList = before.toList ++ opening ++ body.toList := by
    rw [← String.toList_inj, String.toList_append, String.toList_append]
    rfl
  rw [opening, cut?_mark_eq_some_iff (by decide), ← opening, ← hmark, ← htoken]
  exact ⟨fun h => ⟨h.token_eq, h.first⟩, fun h => ⟨h.1, h.2⟩⟩

theorem opens_ofList {before : List Char} (body : List Char) (h : ¬ opening <:+: before) :
    Opens (String.ofList (before ++ opening ++ body)) (String.ofList before)
      (String.ofList body) := by
  simp only [opens_iff, String.toList_ofList]
  exact cut?_mark (by decide) body h

theorem Opens.infix_opening (h : Opens token before body) : opening <:+: token.toList := by
  by_cases hmark : opening <:+: token.toList
  · exact hmark
  · rw [opens_iff, cut?_eq_none_iff.mpr hmark] at h
    cases h

theorem encloses_iff : Encloses token inside ↔ ∃ before body after,
    cut? opening token.toList = some (before, body) ∧
      cut? closing body = some (inside.toList, after) := by
  constructor
  · rintro ⟨before, after, hopens, hclosing⟩
    refine ⟨_, _, after.toList, opens_iff.mp hopens, ?_⟩
    rw [closing, cut?_mark_eq_some_iff (by decide), ← closing]
    refine ⟨?_, hclosing⟩
    rw [String.toList_append, String.toList_append]
    rfl
  · rintro ⟨before, body, after, hopening, hclosing⟩
    rw [closing, cut?_mark_eq_some_iff (by decide), ← closing] at hclosing
    obtain ⟨rfl, hnone⟩ := hclosing
    refine ⟨String.ofList before, String.ofList after, opens_iff.mpr ?_, hnone⟩
    simp only [hopening, String.toList_append, String.toList_ofList]
    rfl

theorem Encloses.unique (h : Encloses token inside) (h' : Encloses token inside') :
    inside = inside' := by
  obtain ⟨before, body, after, hopening, hclosing⟩ := encloses_iff.mp h
  obtain ⟨before', body', after', hopening', hclosing'⟩ := encloses_iff.mp h'
  obtain ⟨-, rfl⟩ := Prod.mk.inj (Option.some.inj (hopening.symm.trans hopening'))
  obtain ⟨hinside, -⟩ := Prod.mk.inj (Option.some.inj (hclosing.symm.trans hclosing'))
  exact String.toList_inj.mp hinside

theorem HasFields.fields?_eq (h : HasFields token loader className selector) :
    fields? (loader ++ ", " ++ className ++ ", " ++ selector).toList =
      some (loader.toList, className.toList, selector.toList) := by
  refine fields?_eq_some_iff.mpr ⟨?_, h.loader_whole, h.className_whole⟩
  simp only [String.toList_append]
  rfl

/-- Three fields are read from the text between the marks exactly if there are two commas. -/
theorem fields?_eq_none_iff : fields? inside.toList = none ↔ ∀ loader className selector : String,
    inside ≠ loader ++ ", " ++ className ++ ", " ++ selector := by
  constructor
  · rintro h loader className selector rfl
    simp only [String.toList_append] at h
    exact fields?_ne_none _ _ _ h
  · intro h
    apply Option.eq_none_iff_forall_ne_some.mpr
    rintro ⟨l, c, s⟩ hfields
    apply h (String.ofList l) (String.ofList c) (String.ofList s)
    rw [← String.toList_inj, (fields?_eq_some_iff.mp hfields).1]
    simp [comma]

/-! ### What is read -/

theorem parse_of_noReference (h : ¬ opening <:+: token.toList) :
    parse token = .error (.malformedAt .noReference token) := by
  rw [parse, cut?_eq_none_iff.mpr h]

theorem parse_of_unterminated (hopens : Opens token before body)
    (hnone : ¬ closing <:+: body.toList) :
    parse token = .error (.malformedAt .unterminated token) := by
  rw [parse, opens_iff.mp hopens]
  simp only [cut?_eq_none_iff.mpr hnone]

theorem parse_of_missingFields (hinside : Encloses token inside)
    (hnone : fields? inside.toList = none) :
    parse token = .error (.malformedAt .missingFields token) := by
  obtain ⟨before, body, after, hopening, hclosing⟩ := encloses_iff.mp hinside
  rw [parse, hopening]
  simp only [hclosing, hnone]

/-- With three fields, it is the class and the selector that are looked at first. -/
theorem parse_of_hasFields (h : HasFields token loader className selector) : parse token =
    if className = "" ∨ selector = "" then .error (.malformedAt .emptyField token)
    else (Loader.parse loader).map fun l => ⟨l, className, selector⟩ := by
  obtain ⟨before, body, after, hopening, hclosing⟩ := encloses_iff.mp h.encloses
  rw [parse, hopening]
  simp only [hclosing, h.fields?_eq, String.ofList_toList, Bool.or_eq_true, List.isEmpty_iff,
    String.toList_eq_nil_iff]
  cases Loader.parse loader <;> rfl

theorem Spells.parse_eq (h : Spells token f loader) : parse token = .ok f := by
  rw [parse_of_hasFields h.fields, if_neg (not_or.mpr ⟨h.className_ne, h.selector_ne⟩),
    Loader.parse_eq_ok_iff.mpr h.trimmed_loader]
  rfl

theorem FirstFault.parse_eq {cause : Malformation} (h : FirstFault token cause text) :
    parse token = .error (.malformedAt cause text) := by
  obtain ⟨hfault, hearlier⟩ := h
  cases hfault with
  | noReference hnone => exact parse_of_noReference hnone
  | unterminated hopens hnone => exact parse_of_unterminated hopens hnone
  | missingFields hinside hfew =>
    exact parse_of_missingFields hinside (fields?_eq_none_iff.mpr hfew)
  | emptyField hfields hempty => rw [parse_of_hasFields hfields, if_pos hempty]
  | unknownLoader hfields hunknown =>
    have hempty := fun he => hearlier .emptyField (by decide) token (.emptyField hfields he)
    rw [parse_of_hasFields hfields, if_neg hempty, Loader.parse_of_unknown hunknown]
    rfl

/-! ### What a token can be -/

theorem Opens.not_noReference (h : Opens token before body) : ¬ Fault token .noReference text := by
  intro hfault
  cases hfault with
  | noReference hnone => exact hnone h.infix_opening

theorem Encloses.not_noReference (h : Encloses token inside) :
    ¬ Fault token .noReference text := by
  obtain ⟨before, after, hopens, -⟩ := h
  exact hopens.not_noReference

theorem Encloses.not_unterminated (h : Encloses token inside) :
    ¬ Fault token .unterminated text := by
  intro hfault
  cases hfault with
  | unterminated hopens hnone =>
    obtain ⟨before, body, after, hopening, hclosing⟩ := encloses_iff.mp h
    rw [opens_iff.mp hopens] at hopening
    cases hopening
    rw [cut?_eq_none_iff.mpr hnone] at hclosing
    cases hclosing

theorem HasFields.not_missingFields (h : HasFields token loader className selector) :
    ¬ Fault token .missingFields text := by
  intro hfault
  cases hfault with
  | missingFields hinside hfew => exact hfew _ _ _ (hinside.unique h.encloses)

theorem HasFields.unique (h : HasFields token loader className selector)
    (h' : HasFields token loader' className' selector') :
    loader = loader' ∧ className = className' ∧ selector = selector' := by
  have hfields := h.fields?_eq
  rw [h.encloses.unique h'.encloses, h'.fields?_eq] at hfields
  simpa [String.toList_inj, eq_comm] using hfields

theorem HasFields.not_emptyField (h : HasFields token loader className selector)
    (hne : ¬ (className = "" ∨ selector = "")) : ¬ Fault token .emptyField text := by
  intro hfault
  cases hfault with
  | emptyField hfields hempty =>
    obtain ⟨-, rfl, rfl⟩ := h.unique hfields
    exact hne hempty

/-- A token holds no reference, or part of one, or one without three fields, or three fields. -/
theorem reference_cases (token : String) : ¬ opening <:+: token.toList ∨
    (∃ before body, Opens token before body ∧ ¬ closing <:+: body.toList) ∨
    (∃ inside, Encloses token inside ∧ fields? inside.toList = none) ∨
    ∃ loader className selector, HasFields token loader className selector := by
  cases hopening : cut? opening token.toList with
  | none => exact .inl (cut?_eq_none_iff.mp hopening)
  | some p =>
    have hopens : Opens token (String.ofList p.1) (String.ofList p.2) := by
      rw [opens_iff, hopening, String.toList_ofList, String.toList_ofList]
    cases hclosing : cut? closing p.2 with
    | none =>
      refine .inr (.inl ⟨_, _, hopens, ?_⟩)
      rw [String.toList_ofList]
      exact cut?_eq_none_iff.mp hclosing
    | some q =>
      have hinside : Encloses token (String.ofList q.1) := by
        rw [encloses_iff, String.toList_ofList]
        exact ⟨p.1, p.2, q.2, hopening, hclosing⟩
      cases hfields : fields? q.1 with
      | none => exact .inr (.inr (.inl ⟨_, hinside, by rwa [String.toList_ofList]⟩))
      | some fields =>
        obtain ⟨l, c, s⟩ := fields
        obtain ⟨heq, hl, hc⟩ := fields?_eq_some_iff.mp hfields
        refine .inr (.inr (.inr ⟨String.ofList l, String.ofList c, String.ofList s, ?_, ?_, ?_⟩))
        · have hjoined : String.ofList q.1 =
              String.ofList l ++ ", " ++ String.ofList c ++ ", " ++ String.ofList s := by
            rw [← String.toList_inj, String.toList_ofList, heq]
            simp [comma]
          rwa [← hjoined]
        · rwa [String.toList_ofList]
        · rwa [String.toList_ofList]

/-- A token spells a frame, or some cause to refuse it is the first. -/
theorem spells_or_firstFault (token : String) : (∃ f loader, Spells token f loader) ∨
    ∃ cause text, FirstFault token cause text := by
  rcases reference_cases token with hnone | ⟨before, body, hopens, hnone⟩ |
    ⟨inside, hinside, hfew⟩ | ⟨loader, className, selector, hfields⟩
  · exact .inr ⟨_, _, .noReference hnone, by simp [causes]⟩
  · refine .inr ⟨_, _, .unterminated hopens hnone, ?_⟩
    simp [causes, hopens.not_noReference]
  · refine .inr ⟨_, _, .missingFields hinside (fields?_eq_none_iff.mp hfew), ?_⟩
    simp [causes, hinside.not_noReference, hinside.not_unterminated]
  · have hreference : ∀ t, ¬ Fault token .noReference t := fun _ => hfields.encloses.not_noReference
    have hclosed : ∀ t, ¬ Fault token .unterminated t := fun _ => hfields.encloses.not_unterminated
    have hthree : ∀ t, ¬ Fault token .missingFields t := fun _ => hfields.not_missingFields
    by_cases hempty : className = "" ∨ selector = ""
    · refine .inr ⟨_, _, .emptyField hfields hempty, ?_⟩
      simp [causes, hreference, hclosed, hthree]
    · by_cases hloader : ∃ l : Loader, l.name = trimmed loader
      · obtain ⟨l, hl⟩ := hloader
        obtain ⟨hclass, hselector⟩ := not_or.mp hempty
        exact .inl ⟨⟨l, className, selector⟩, loader, hfields, hclass, hselector, hl.symm⟩
      · refine .inr ⟨_, _, .unknownLoader hfields (not_exists.mp hloader), ?_⟩
        simp [causes, hreference, hclosed, hthree, hfields.not_emptyField hempty]

end Reference

/-- A token is read as a frame exactly if it spells that frame; every other token is refused for the
first cause that applies to it, with the words for that cause. -/
theorem parse_eq_iff (token : String) :
    (∀ f, parse token = .ok f ↔ ∃ loader, Spells token f loader) ∧
      (∀ e, parse token = .error e ↔
        ∃ cause text, FirstFault token cause text ∧ e = .malformedAt cause text) ∧
      causes.map Malformation.reason = ["missing method reference",
        "unterminated method reference", "expected loader, class and selector",
        "empty class or selector", "unknown class loader"] := by
  refine ⟨fun f => ⟨fun h => ?_, ?_⟩, fun e => ⟨fun h => ?_, ?_⟩, rfl⟩
  · rcases spells_or_firstFault token with ⟨f', loader, hspells⟩ | ⟨cause, text, hfault⟩
    · obtain rfl : f' = f := Except.ok.inj (hspells.parse_eq.symm.trans h)
      exact ⟨loader, hspells⟩
    · cases hfault.parse_eq.symm.trans h
  · rintro ⟨loader, hspells⟩
    exact hspells.parse_eq
  · rcases spells_or_firstFault token with ⟨f, loader, hspells⟩ | ⟨cause, text, hfault⟩
    · cases hspells.parse_eq.symm.trans h
    · exact ⟨cause, text, hfault, (Except.error.inj (hfault.parse_eq.symm.trans h)).symm⟩
  · rintro ⟨cause, text, hfault, rfl⟩
    exact hfault.parse_eq

end Frame

end TestImpact

namespace TestImpact.Frame
open Text

/-! ## Written frames

Frames read back from their text. Each mark is found where it was written, since no field holds it
and none straddles the ends of a field; what follows the reference in its token does not matter. -/

section WrittenFrames
/-- A text that can stand as the class or the selector of a written frame. -/
structure IsField (field : String) : Prop where
  ne_empty : field ≠ ""
  no_newline : '\n' ∉ field.toList
  no_closing : ¬ closing <:+: field.toList
  head_ne : field.toList.head? ≠ some '>'

instance : DecidablePred IsField := fun field =>
  decidable_of_iff (field ≠ "" ∧ '\n' ∉ field.toList ∧ hasInfix closing field.toList = false ∧
      field.toList.head? ≠ some '>')
    ⟨fun ⟨hne, hline, hmark, hhead⟩ => ⟨hne, hline, hasInfix_eq_false_iff.mp hmark, hhead⟩,
      fun ⟨hne, hline, hmark, hhead⟩ => ⟨hne, hline, hasInfix_eq_false_iff.mpr hmark, hhead⟩⟩

/-- A frame that can be written; its class holds no comma that would end it. -/
structure Writable (f : Frame) : Prop where
  className : IsField f.method.className
  selector : IsField f.method.selector
  no_comma : ¬ comma <:+: f.method.className.toList

instance : DecidablePred Writable := fun f =>
  decidable_of_iff (IsField f.method.className ∧ IsField f.method.selector ∧
      hasInfix comma f.method.className.toList = false)
    ⟨fun ⟨hclass, hselector, hmark⟩ => ⟨hclass, hselector, hasInfix_eq_false_iff.mp hmark⟩,
      fun ⟨hclass, hselector, hmark⟩ => ⟨hclass, hselector, hasInfix_eq_false_iff.mpr hmark⟩⟩

/-- The frame has the separator of frames inside it. -/
def HoldsSeparator (f : Frame) : Prop :=
  Record.separator ∈ f.method.className.toList ∨ Record.separator ∈ f.method.selector.toList

instance : DecidablePred HoldsSeparator := fun _ => inferInstanceAs (Decidable (_ ∨ _))

/-- What stands between the marks of a reference. -/
def inside (f : Frame) : List Char :=
  f.loader.name.toList ++ comma ++ (f.method.className.toList ++ comma ++ f.method.selector.toList)

variable {f : Frame}

theorem toList_text (f : Frame) : f.text.toList = opening ++ f.inside ++ closing := by
  simp [text, inside, opening, closing, comma]

/-- A token, cut behind the mark that opens its reference. -/
theorem token_eq (f : Frame) (before after : List Char) : before ++ f.text.toList ++ after =
    before ++ opening ++ (f.inside ++ closing ++ after) := by
  simp only [toList_text, List.append_assoc]

theorem separator_mem_inside_iff : Record.separator ∈ f.inside ↔ f.HoldsSeparator := by
  have hname : Record.separator ∉ f.loader.name.toList := by cases f.loader <;> decide
  have hcomma : Record.separator ∉ comma := by decide
  simp only [inside, HoldsSeparator, List.mem_append, hname, hcomma, or_false, false_or]

theorem separator_mem_text_iff : Record.separator ∈ f.text.toList ↔ f.HoldsSeparator := by
  have hmarks : Record.separator ∉ opening ∧ Record.separator ∉ closing := by decide
  simp only [toList_text, List.mem_append, hmarks, or_false, false_or, separator_mem_inside_iff]

theorem Writable.newline_not_mem (h : f.Writable) : '\n' ∉ f.text.toList := by
  have hname : '\n' ∉ f.loader.name.toList := by cases f.loader <;> decide
  have hmarks : '\n' ∉ opening ∧ '\n' ∉ closing ∧ '\n' ∉ comma := by decide
  simp only [toList_text, inside, List.mem_append, hname, hmarks, h.className.no_newline,
    h.selector.no_newline, or_self, not_false_eq_true]

/-- No closing mark stands in a reference before its own. -/
theorem Writable.no_closing (h : f.Writable) : ¬ closing <:+: f.inside := by
  have hname : ¬ closing <:+: f.loader.name.toList := by cases f.loader <;> decide +kernel
  have hcomma : ¬ closing <:+: comma := by decide +kernel
  have hclass := h.className.no_closing
  have hselector := h.selector.no_closing
  rw [closing] at hname hcomma hclass hselector ⊢
  simp only [inside, mark_infix_append_iff, hname, hcomma, hclass, hselector, false_or]
  -- the marks before the two fields end in a blank, and neither field starts by closing it
  have hne := mt String.toList_eq_nil_iff.mp h.className.ne_empty
  obtain ⟨c, rest, hc⟩ := List.exists_cons_of_ne_nil hne
  have hhead := h.className.head_ne
  rw [hc] at hhead ⊢
  simpa [comma, h.selector.head_ne] using hhead

/-- The reference that was written is the first one in its token, with the fields that were
written. -/
theorem hasFields_text (h : f.Writable) {before : List Char} (after : List Char)
    (hbefore : ¬ opening <:+: before) :
    HasFields (String.ofList (before ++ f.text.toList ++ after)) f.loader.name f.method.className
      f.method.selector where
  encloses := by
    have hinside : (f.loader.name ++ ", " ++ f.method.className ++ ", " ++
        f.method.selector).toList = f.inside := by
      simp [inside, comma]
    have hbody : String.ofList (f.inside ++ closing ++ after) =
        f.loader.name ++ ", " ++ f.method.className ++ ", " ++ f.method.selector ++ " >" ++
          String.ofList after := by
      rw [← hinside, ← String.toList_inj]
      simp [closing]
    rw [token_eq]
    refine ⟨String.ofList before, String.ofList after, hbody ▸ opens_ofList _ hbefore, ?_⟩
    rw [hinside]
    exact h.no_closing
  loader_whole := by cases f.loader <;> decide +kernel
  className_whole := h.no_comma

/-- A written frame is read back, whatever stands around it in its token. -/
theorem parse_text (h : f.Writable) {before : List Char} (after : List Char)
    (hbefore : ¬ opening <:+: before) :
    parse (String.ofList (before ++ f.text.toList ++ after)) = .ok f := by
  have hspells : Spells (String.ofList (before ++ f.text.toList ++ after)) f f.loader.name :=
    ⟨hasFields_text h after hbefore, h.className.ne_empty, h.selector.ne_empty,
      f.loader.trimmed_name⟩
  exact hspells.parse_eq

/-- A token that breaks off inside a reference cannot be read. -/
theorem parse_of_broken {before part : List Char} (hbefore : ¬ opening <:+: before)
    (hpart : ¬ closing <:+: part) :
    parse (String.ofList (before ++ opening ++ part)) =
      .error (.malformedAt .unterminated (String.ofList (before ++ opening ++ part))) := by
  apply parse_of_unterminated (opens_ofList part hbefore)
  rwa [String.toList_ofList]

end WrittenFrames

end TestImpact.Frame
