import TestImpact.Node
import TestImpact.Proofs.Text

/-! The names of methods, and the nodes that lines name. -/
namespace TestImpact

/-! ## Names of methods

Classes in dotted form. A path without dots is found again in its dotted form, and with it a method
in its qualified selector. -/

/-- A path with dots for its slashes. -/
def dotted (path : List Char) : List Char := path.map fun c => if c = '/' then '.' else c

/-- A dotted name with slashes for its dots. -/
def slashed (name : List Char) : List Char := name.map fun c => if c = '.' then '/' else c

theorem slashed_dotted {path : List Char} (h : '.' ∉ path) : slashed (dotted path) = path := by
  rw [slashed, dotted, List.map_map]
  refine (List.map_congr_left fun c hc => ?_).trans (List.map_id _)
  have hdot : c ≠ '.' := fun he => h (he ▸ hc)
  by_cases hslash : c = '/' <;> simp [hslash, hdot]

theorem slash_not_mem_dotted (path : List Char) : '/' ∉ dotted path := by
  intro h
  obtain ⟨c, -, hc⟩ := List.mem_map.mp h
  by_cases hslash : c = '/' <;> simp [hslash] at hc

theorem dot_mem_dotted {path : List Char} (h : '/' ∈ path) : '.' ∈ dotted path :=
  List.mem_map.mpr ⟨'/', h, rfl⟩

namespace MethodRef
variable {m m' : MethodRef}

theorem toList_qualified (m : MethodRef) :
    m.qualified.toList = m.dottedClass.toList ++ '.' :: m.selector.toList := by
  simp [qualified]

theorem toList_dottedClass {path : List Char} (h : m.className.toList = 'L' :: path) :
    m.dottedClass.toList = dotted path := by
  rw [dottedClass, h, String.toList_ofList]
  rfl

theorem mem_dottedClass {c : Char} (h : c ∈ m.dottedClass.toList) :
    c ∈ m.className.toList ∨ c = '.' := by
  have hbare : ∀ bare ⊆ m.className.toList, c ∈ dotted bare → c ∈ m.className.toList ∨ c = '.' := by
    intro bare hsub hc
    obtain ⟨d, hd, rfl⟩ := List.mem_map.mp hc
    split
    · exact .inr rfl
    · exact .inl (hsub hd)
  rw [dottedClass, String.toList_ofList] at h
  split at h
  · rename_i rest hclass
    exact hbare rest (hclass ▸ List.subset_cons_self _ _) h
  · exact hbare _ (List.Subset.refl _) h

/-- The class is a path without dots behind an `L`, and no dot is in the selector either. -/
structure IsPlain (m : MethodRef) : Prop where
  head : m.className.toList.head? = some 'L'
  no_dot : '.' ∉ m.className.toList
  selector : '.' ∉ m.selector.toList

/-- The last dot of a qualified selector stands before the selector, and the class is read off what
is before it. -/
theorem IsPlain.eq_of_qualified (h : m.IsPlain) (h' : m'.IsPlain)
    (heq : m.qualified = m'.qualified) : m = m' := by
  obtain ⟨path, hclass⟩ := List.head?_eq_some_iff.mp h.head
  obtain ⟨path', hclass'⟩ := List.head?_eq_some_iff.mp h'.head
  have hparts := congrArg String.toList heq
  rw [toList_qualified, toList_qualified, Text.append_cons_inj_of_last h.selector h'.selector,
    toList_dottedClass hclass, toList_dottedClass hclass'] at hparts
  obtain ⟨hdotted, hselector⟩ := hparts
  have hpath : path = path' := by
    have hdot : '.' ∉ path := fun hc => h.no_dot (hclass ▸ List.mem_cons_of_mem _ hc)
    have hdot' : '.' ∉ path' := fun hc => h'.no_dot (hclass' ▸ List.mem_cons_of_mem _ hc)
    rw [← slashed_dotted hdot, hdotted, slashed_dotted hdot']
  have hname : m.className = m'.className :=
    String.toList_inj.mp (by rw [hclass, hclass', hpath])
  cases m
  cases m'
  exact MethodRef.mk.injEq .. ▸ ⟨hname, String.toList_inj.mp hselector⟩

-- a dot in a selector reads as a step of the path
example :
    (⟨"Lp/A", "B.c()V"⟩ : MethodRef).qualified = (⟨"Lp/A/B", "c()V"⟩ : MethodRef).qualified := by
  decide

end MethodRef

/-! ## Nodes

Nodes read back from their text. A line falls into its first word and the rest; what is found there
can be written on a line of its own, and is then found again. -/

/-- A class as it is found in a line: one word, and a descriptor. -/
structure IsClassName (className : List Char) : Prop where
  ne_nil : className ≠ []
  no_blank : ∀ c ∈ className, Text.isBlank c = false
  slash_or_no_dot : '/' ∈ className ∨ '.' ∉ className

instance (className : List Char) : Decidable (IsClassName className) :=
  decidable_of_iff (className ≠ [] ∧ className.all (!Text.isBlank ·) ∧
      ('/' ∈ className ∨ '.' ∉ className)) (by
    rw [List.all_eq_true]
    constructor
    · rintro ⟨hne, hblank, hdot⟩
      exact ⟨hne, fun c hc => by simpa using hblank c hc, hdot⟩
    · rintro ⟨hne, hblank, hdot⟩
      exact ⟨hne, fun c hc => by simpa using hblank c hc, hdot⟩)

/-- A member as it is found in a line. -/
structure IsMember (member : List Char) : Prop where
  ne_nil : member ≠ []
  trimmed : Text.IsTrimmed member

namespace Node
open Text

/-- A node as it is found in a line. -/
structure Readable (n : Node) : Prop where
  className : IsClassName n.className.toList
  member : ∀ m ∈ n.member, IsMember m.toList

/-! ### Descriptors -/

section Descriptor
variable {word : List Char}

theorem descriptor_of_isClassName (h : IsClassName word) : descriptor word = word :=
  if_pos h.slash_or_no_dot

theorem mem_descriptor {c : Char} (h : c ∈ descriptor word) : c ∈ word ∨ c = 'L' ∨ c = '/' := by
  unfold descriptor at h
  split at h
  · exact .inl h
  · rcases List.mem_cons.mp h with rfl | h
    · exact .inr (.inl rfl)
    · obtain ⟨d, hd, rfl⟩ := List.mem_map.mp h
      split
      · exact .inr (.inr rfl)
      · exact .inl hd

theorem isClassName_descriptor (hne : word ≠ []) (hblank : ∀ c ∈ word, isBlank c = false) :
    IsClassName (descriptor word) where
  ne_nil := by
    unfold descriptor
    split
    · exact hne
    · exact List.cons_ne_nil _ _
  no_blank := by
    intro c hc
    rcases mem_descriptor hc with h | rfl | rfl
    · exact hblank c h
    · decide
    · decide
  slash_or_no_dot := by
    unfold descriptor
    split
    · assumption
    · rename_i h
      have hdot : '.' ∈ word := by simpa using (not_or.mp h).2
      exact .inl (List.mem_cons_of_mem _ (List.mem_map.mpr ⟨'.', hdot, rfl⟩))

end Descriptor

/-! ### What a line holds -/

variable {n : Node} {line : String} {level : Granularity}

/-- The first word of a line. -/
def firstWord (line : String) : List Char := (trim line.toList).takeWhile (!isBlank ·)

/-- The rest of a line, without the blanks around it. -/
def remainder (line : String) : List Char := trim ((trim line.toList).dropWhile (!isBlank ·))

theorem parse_class (line : String) : parse line .class =
    if (firstWord line).isEmpty then .error (.invalidNode .class line)
    else .ok (ofClass (String.ofList (descriptor (firstWord line)))) := rfl

theorem parse_method (line : String) : parse line .method =
    if (firstWord line).isEmpty || (remainder line).isEmpty then .error (.invalidNode .method line)
    else .ok (ofMethod (String.ofList (descriptor (firstWord line)))
      (String.ofList (remainder line))) := rfl

theorem parse_class_eq_ok_iff : parse line .class = .ok n ↔
    firstWord line ≠ [] ∧ ofClass (String.ofList (descriptor (firstWord line))) = n := by
  rw [parse_class]
  by_cases hword : firstWord line = [] <;> simp [hword]

theorem parse_method_eq_ok_iff : parse line .method = .ok n ↔
    firstWord line ≠ [] ∧ remainder line ≠ [] ∧
      ofMethod (String.ofList (descriptor (firstWord line)))
        (String.ofList (remainder line)) = n := by
  rw [parse_method]
  by_cases hword : firstWord line = [] <;> by_cases hrest : remainder line = [] <;>
    simp [hword, hrest]

/-- What stands before the first blank is the first of the words. -/
theorem parse_class_eq_parseClass (line : String) : parse line .class = parseClass line := by
  have hhead := (isTrimmed_trim line.toList).head
  rw [parse_class, parseClass, head?_words hhead, firstWord]
  cases htrim : trim line.toList with
  | nil => rfl
  | cons c r =>
    have hc : isBlank c = false := hhead c (by rw [htrim]; rfl)
    simp [hc]

/-- The blank at which the line is cut goes with the blanks behind it. -/
theorem parse_method_eq_parseMethod (line : String) : parse line .method = parseMethod line := by
  rw [parse_method, parseMethod, cutAtBlank?_eq, firstWord, remainder]
  cases hrest : (trim line.toList).dropWhile (!isBlank ·) with
  | nil =>
    have hnone : (trim []).isEmpty = true := rfl
    rw [hnone, Bool.or_true, if_pos rfl]
    rfl
  | cons b rest =>
    rw [trim_cons_of_isBlank (isBlank_of_dropWhile_eq_cons hrest)]
    rfl

theorem isClassName_descriptor_firstWord (h : firstWord line ≠ []) :
    IsClassName (descriptor (firstWord line)) :=
  isClassName_descriptor h fun c hc => by simpa using List.mem_takeWhile_imp hc

theorem isMember_remainder (h : remainder line ≠ []) : IsMember (remainder line) :=
  ⟨h, isTrimmed_trim _⟩

theorem readable_of_parse (h : parse line level = .ok n) : n.Readable ∧ n.granularity = level := by
  cases level with
  | «class» =>
    obtain ⟨hword, rfl⟩ := parse_class_eq_ok_iff.mp h
    exact ⟨⟨by simpa [ofClass] using isClassName_descriptor_firstWord hword,
      by simp [ofClass]⟩, rfl⟩
  | method =>
    obtain ⟨hword, hrest, rfl⟩ := parse_method_eq_ok_iff.mp h
    exact ⟨⟨by simpa [ofMethod] using isClassName_descriptor_firstWord hword,
      by simpa [ofMethod] using isMember_remainder hrest⟩, rfl⟩

theorem firstWord_subset (line : String) : firstWord line ⊆ line.toList :=
  List.Subset.trans (List.takeWhile_subset _) (isInfix_trim _).subset

theorem remainder_subset (line : String) : remainder line ⊆ line.toList :=
  List.Subset.trans (isInfix_trim _).subset
    (List.Subset.trans (List.dropWhile_subset _) (isInfix_trim _).subset)

/-! ### Writing on a line -/

theorem toList_text_ofMethod (className member : String) :
    (ofMethod className member).text.toList = className.toList ++ ' ' :: member.toList := by
  simp [text, ofMethod]

theorem newline_not_mem_text (h : parse line level = .ok n) (hline : '\n' ∉ line.toList) :
    '\n' ∉ n.text.toList := by
  have hword : '\n' ∉ descriptor (firstWord line) := by
    intro hmem
    rcases mem_descriptor hmem with hmem | hmem | hmem
    · exact hline (firstWord_subset line hmem)
    · exact absurd hmem (by decide)
    · exact absurd hmem (by decide)
  cases level with
  | «class» =>
    obtain ⟨-, rfl⟩ := parse_class_eq_ok_iff.mp h
    simpa [text, ofClass] using hword
  | method =>
    obtain ⟨-, -, rfl⟩ := parse_method_eq_ok_iff.mp h
    have hrest : '\n' ∉ remainder line := fun hmem => hline (remainder_subset line hmem)
    simp [toList_text_ofMethod, hword, hrest]

theorem isTrimmed_of_isClassName {className : List Char} (h : IsClassName className) :
    IsTrimmed className where
  head := fun c hc => h.no_blank c (List.mem_of_mem_head? hc)
  last := fun c hc => h.no_blank c (List.mem_of_getLast? hc)

section Fields
variable {word member : List Char} (hne : word ≠ []) (hblank : ∀ c ∈ word, isBlank c = false)
  (hmember : IsMember member)
include hne hblank hmember

/-- A word and a member with a space between them are trimmed. -/
theorem isTrimmed_fields : IsTrimmed (word ++ ' ' :: member) where
  head := by
    intro c hc
    rw [List.head?_append_of_ne_nil _ hne] at hc
    exact hblank c (List.mem_of_mem_head? hc)
  last := by
    intro c hc
    rw [List.getLast?_append_of_ne_nil _ (List.cons_ne_nil _ _),
      List.getLast?_cons_of_ne_nil hmember.ne_nil] at hc
    exact hmember.trimmed.last c hc

theorem firstWord_fields (hline : line.toList = word ++ ' ' :: member) : firstWord line = word := by
  rw [firstWord, hline, (isTrimmed_fields hne hblank hmember).trim_eq,
    List.takeWhile_append_of_pos (by simpa using hblank), List.takeWhile_cons_of_neg (by decide),
    List.append_nil]

theorem remainder_fields (hline : line.toList = word ++ ' ' :: member) :
    remainder line = member := by
  rw [remainder, hline, (isTrimmed_fields hne hblank hmember).trim_eq,
    List.dropWhile_append_of_pos (by simpa using hblank), List.dropWhile_cons_of_neg (by decide),
    trim, trimStart, List.dropWhile_cons_of_pos (by decide), ← trimStart, ← trim,
    hmember.trimmed.trim_eq]

/-- What a line of a word and a member names. -/
theorem parse_fields (hline : line.toList = word ++ ' ' :: member) :
    parse line .method =
        .ok (ofMethod (String.ofList (descriptor word)) (String.ofList member)) ∧
      parse line .class = .ok (ofClass (String.ofList (descriptor word))) := by
  have hfirst : firstWord line = word := firstWord_fields hne hblank hmember hline
  have hlast : remainder line = member := remainder_fields hne hblank hmember hline
  constructor
  · refine parse_method_eq_ok_iff.mpr ⟨hfirst ▸ hne, hlast ▸ hmember.ne_nil, ?_⟩
    rw [hfirst, hlast]
  · refine parse_class_eq_ok_iff.mpr ⟨hfirst ▸ hne, ?_⟩
    rw [hfirst]

end Fields

theorem Readable.isTrimmed_text (h : n.Readable) : IsTrimmed n.text.toList := by
  obtain ⟨className, member⟩ := n
  have hclass : IsClassName className.toList := h.className
  cases member with
  | none => exact isTrimmed_of_isClassName hclass
  | some member =>
    rw [← ofMethod, toList_text_ofMethod]
    exact isTrimmed_fields hclass.ne_nil hclass.no_blank (h.member member rfl)

/-- A node that was found in a line is found again in its own text. -/
theorem parse_text (h : n.Readable) : parse n.text n.granularity = .ok n := by
  obtain ⟨className, member⟩ := n
  have hclass : IsClassName className.toList := h.className
  have hdescriptor : String.ofList (descriptor className.toList) = className := by
    rw [descriptor_of_isClassName hclass, String.ofList_toList]
  cases member with
  | none =>
    have hword : ∀ c ∈ className.toList, (!isBlank c) = true := by simpa using hclass.no_blank
    have hfirst : firstWord className = className.toList := by
      rw [firstWord, (isTrimmed_of_isClassName hclass).trim_eq]
      exact List.takeWhile_eq_self_iff.mpr hword
    refine parse_class_eq_ok_iff.mpr ⟨hfirst ▸ hclass.ne_nil, ?_⟩
    rw [text, hfirst, hdescriptor, ofClass]
  | some member =>
    have hparse := (parse_fields hclass.ne_nil hclass.no_blank (h.member member rfl)
      (toList_text_ofMethod className member)).1
    rwa [hdescriptor, String.ofList_toList] at hparse

end Node

end TestImpact
