import TestImpact.Node
import TestImpact.Proofs.Node
import TestImpact.Selection

/-! Lines of nodes: what a list of lines is read as, at two levels and in two spellings. -/
namespace TestImpact
open Std Text

/-! ## Lists of lines

What lists of nodes hold, and how one list reads at the two levels. Lines that each name a node are
read without a loss. -/

/-- A line that names a method names its class at class level. -/
theorem Node.parse_class_of_parse_method {line : String} {n : Node}
    (h : parse line .method = .ok n) : parse line .class = .ok n.toClass := by
  simp only [parse] at h ⊢
  split at h
  · simp at h
  · rename_i hne
    rw [if_neg fun he => hne (by rw [he, Bool.true_or])]
    obtain rfl := Except.ok.inj h
    rfl

namespace NodeList

theorem mem_nodes_read {level : Granularity} {lines : List String} {n : Node} :
    n ∈ (read level lines).nodes ↔
      ∃ line ∈ lines, isBlankLine line = false ∧ Node.parse line level = .ok n := by
  simp only [read, mem_setOfList, List.mem_filterMap, List.mem_map, List.mem_filter,
    Bool.not_eq_true']
  constructor
  · rintro ⟨_, ⟨line, ⟨hline, hblank⟩, rfl⟩, hn⟩
    cases hp : Node.parse line level with
    | error e => simp [hp, Except.toOption] at hn
    | ok m => exact ⟨line, hline, hblank, by simpa [hp, Except.toOption] using hn⟩
  · rintro ⟨line, hline, hblank, hp⟩
    exact ⟨_, ⟨line, ⟨hline, hblank⟩, rfl⟩, by simp [hp, Except.toOption]⟩

end NodeList

/-- A line that names a node is no blank one. -/
theorem isBlankLine_of_parse {level : Granularity} {line : String} {n : Node}
    (h : Node.parse line level = .ok n) : isBlankLine line = false := by
  have hword : Node.firstWord line ≠ [] := by
    cases level with
    | «class» => exact (Node.parse_class_eq_ok_iff.mp h).1
    | method => exact (Node.parse_method_eq_ok_iff.mp h).1
  obtain ⟨c, hc⟩ := List.exists_mem_of_ne_nil _ hword
  refine List.all_eq_false.mpr ⟨c, Node.firstWord_subset line hc, ?_⟩
  simpa using List.mem_takeWhile_imp hc

theorem NodeList.read_of_map_parse {level : Granularity} {lines : List String} {nodes : List Node}
    (h : lines.map (Node.parse · level) = nodes.map .ok) :
    read level lines = ⟨ExtTreeSet.ofList nodes, []⟩ := by
  have hlines : lines.filter (fun l => !isBlankLine l) = lines := by
    refine List.filter_eq_self.mpr fun line hline => ?_
    have hparse := List.mem_map_of_mem (f := (Node.parse · level)) hline
    rw [h] at hparse
    obtain ⟨n, -, hn⟩ := List.mem_map.mp hparse
    rw [isBlankLine_of_parse hn.symm]
    rfl
  have hnodes : (nodes.map Except.ok).filterMap (Except.toOption (ε := Error)) = nodes := by
    rw [List.filterMap_map]
    exact List.filterMap_some
  simp [read, hlines, h, hnodes]

/-- The classes of the methods that lines name are among the classes that they name. -/
theorem ChangeSet.toClass_mem_ofLines {lines : List String} {n : Node}
    (h : n ∈ (ofLines .method lines).nodes) : n.toClass ∈ (ofLines .class lines).nodes := by
  obtain ⟨line, hline, hblank, hp⟩ := NodeList.mem_nodes_read.mp h
  exact NodeList.mem_nodes_read.mpr
    ⟨line, hline, hblank, Node.parse_class_of_parse_method hp⟩

/-! ## Two levels

Lines read at the two levels. Only a blank line names no class, and a line names a method if it has
a blank inside; so changes and known tests that are read line by line agree on the methods, and the
classes lose none of them. -/

/-- A blank stands inside the line, so that it falls into a first word and a rest. -/
def isDivided (line : String) : Bool := (trimmed line).toList.any isBlank

section Line
variable {line : String}

theorem isBlankLine_eq_false_iff : isBlankLine line = false ↔ trim line.toList ≠ [] := by
  rw [isBlankLine, allBlank, ne_eq, trim_eq_nil_iff, ← Bool.not_eq_true, List.all_eq_true]

theorem isDivided_eq_false_iff :
    isDivided line = false ↔ ∀ c ∈ trim line.toList, isBlank c = false := by
  simp [isDivided, trimmed]

/-- Only a line with something on it is divided. -/
theorem isBlankLine_of_isDivided (h : isDivided line = true) : isBlankLine line = false := by
  rw [isBlankLine_eq_false_iff]
  intro hnil
  simp [isDivided, trimmed, hnil] at h

namespace Node

theorem firstWord_ne_nil_iff : firstWord line ≠ [] ↔ isBlankLine line = false := by
  have hhead := (isTrimmed_trim line.toList).head
  rw [isBlankLine_eq_false_iff, firstWord]
  cases htrim : trim line.toList with
  | nil => simp
  | cons c rest =>
    have hc : isBlank c = false := hhead c (by rw [htrim]; rfl)
    simp [hc]

theorem remainder_ne_nil_iff : remainder line ≠ [] ↔ isDivided line = true := by
  rw [remainder, ne_eq, (isTrimmed_trim line.toList).trim_dropWhile_eq_nil_iff,
    ← isDivided_eq_false_iff, Bool.not_eq_false]

theorem exists_parse_class_iff : (∃ n, parse line .class = .ok n) ↔ isBlankLine line = false := by
  simp only [parse_class_eq_ok_iff, exists_and_left, exists_eq', and_true, firstWord_ne_nil_iff]

theorem exists_parse_method_iff : (∃ n, parse line .method = .ok n) ↔ isDivided line = true := by
  simp only [parse_method_eq_ok_iff, exists_and_left, exists_eq', and_true, firstWord_ne_nil_iff,
    remainder_ne_nil_iff, and_iff_right_iff_imp]
  exact isBlankLine_of_isDivided

theorem isOk_parse_iff {level : Granularity} :
    (parse line level).isOk = true ↔ ∃ n, parse line level = .ok n := by
  cases parse line level <;> simp [Except.isOk, Except.toBool]

/-- A node that a line names is named by its own text, and its class can stand in a line. -/
theorem parse_text_of_parse {level : Granularity} {n : Node} (h : parse line level = .ok n) :
    parse n.text level = .ok n ∧ IsClassName n.className.toList := by
  obtain ⟨hreadable, rfl⟩ := readable_of_parse h
  exact ⟨parse_text hreadable, hreadable.className⟩

end Node
end Line

/-! ### Line by line -/

namespace NodeList
variable {level : Granularity} {lines : List String} {line : String}

theorem read_concat_of_blank (h : isBlankLine line = true) :
    read level (lines ++ [line]) = read level lines := by
  simp [read, h]

theorem nodes_read_concat_of_ok {n : Node} (h : Node.parse line level = .ok n) :
    (read level (lines ++ [line])).nodes = (read level lines).nodes.insert n := by
  have hblank : isBlankLine line = false := isBlankLine_of_parse h
  apply ExtTreeSet.ext_mem
  intro k
  simp [mem_nodes_read, ExtTreeSet.mem_insert, or_and_right, exists_or, hblank, h, or_comm]

theorem rejected_read_concat_of_ok {n : Node} (h : Node.parse line level = .ok n) :
    (read level (lines ++ [line])).rejected = (read level lines).rejected := by
  have hblank : isBlankLine line = false := isBlankLine_of_parse h
  simp [read, hblank, h]

theorem read_concat_of_error {e : Error} (hblank : isBlankLine line = false)
    (h : Node.parse line level = .error e) :
    read level (lines ++ [line]) =
      ⟨(read level lines).nodes, (read level lines).rejected ++ [e]⟩ := by
  have hentries : [Except.error (α := Node) e].filterMap Except.toOption = [] := rfl
  simp [read, hblank, h, hentries]

/-- The lines that are rejected are those that are not blank and name nothing. -/
theorem length_rejected_read : (read level lines).rejected.length =
    lines.countP fun line => !isBlankLine line && !(Node.parse line level).isOk := by
  rw [read, List.length_filterMap_eq_countP, List.countP_map, List.countP_filter]
  apply List.countP_congr
  intro line _
  simp only [Function.comp_apply]
  cases Node.parse line level <;> simp [Except.isOk, Except.toBool]

theorem length_rejected_read_class : (read .class lines).rejected.length = 0 := by
  rw [length_rejected_read, List.countP_eq_zero]
  intro line _ hrejected
  obtain ⟨hblank, hfails⟩ := Bool.and_eq_true_iff.mp hrejected
  have hok : (Node.parse line .class).isOk = true :=
    Node.isOk_parse_iff.mpr (Node.exists_parse_class_iff.mpr (by simpa using hblank))
  simp [hok] at hfails

theorem length_rejected_read_method : (read .method lines).rejected.length =
    lines.countP fun line => !isBlankLine line && !isDivided line := by
  rw [length_rejected_read]
  apply List.countP_congr
  intro line _
  have hok : (Node.parse line .method).isOk = isDivided line := by
    rw [Bool.eq_iff_iff, Node.isOk_parse_iff, Node.exists_parse_method_iff]
  rw [hok]

end NodeList

namespace ChangeSet
variable {level : Granularity}

theorem ofLines_concat (lines : List String) (line : String) :
    ofLines level (lines ++ [line]) = (ofLines level lines).add line := by
  unfold add
  split
  · rename_i hblank
    rw [ofLines, NodeList.read_concat_of_blank hblank]
    rfl
  · rename_i hblank
    have hlevel : (ofLines level lines).granularity = level := rfl
    rw [hlevel]
    cases hparse : Node.parse line level with
    | ok n =>
      simp only [ofLines, ofNodeList, insert, NodeList.nodes_read_concat_of_ok hparse,
        NodeList.rejected_read_concat_of_ok hparse]
    | error e =>
      simp [ofLines, ofNodeList,
        NodeList.read_concat_of_error (Bool.eq_false_iff.mpr hblank) hparse]

/-- Taking in the lines one by one gives the changes of the whole list. -/
theorem foldl_add (lines : List String) : lines.foldl add (empty level) = ofLines level lines := by
  induction lines using List.reverseRecOn with
  | nil => rfl
  | append_singleton lines line ih => rw [List.foldl_concat, ih, ofLines_concat]

end ChangeSet

namespace Universe

theorem ofLines_concat (lines : List String) (line : String) :
    ofLines (lines ++ [line]) = add (ofLines lines) line := by
  unfold add
  split
  · rename_i hblank
    rw [ofLines, NodeList.read_concat_of_blank hblank]
    rfl
  · rename_i hblank
    cases hparse : Node.parse line .method with
    | ok n => exact NodeList.nodes_read_concat_of_ok hparse
    | error e =>
      rw [ofLines, NodeList.read_concat_of_error (Bool.eq_false_iff.mpr hblank) hparse]
      rfl

theorem foldl_add (lines : List String) : lines.foldl add ∅ = ofLines lines := by
  induction lines using List.reverseRecOn with
  | nil => rfl
  | append_singleton lines line ih => rw [List.foldl_concat, ih, ofLines_concat]

end Universe

/-- What a line names at the two levels. -/
structure Node.ParsesAtLevels (line : String) : Prop where
  class_eq : parse line .class = parseClass line
  method_eq : parse line .method = parseMethod line
  exists_class_iff : (∃ n, parse line .class = .ok n) ↔ isBlankLine line = false
  exists_method_iff : (∃ n, parse line .method = .ok n) ↔ isDivided line = true
  /-- The class of a method is the class that its line names. -/
  class_of_method : ∀ n, parse line .method = .ok n → parse line .class = .ok n.toClass
  /-- What a line names is named by its own text. -/
  parse_text : ∀ level n, parse line level = .ok n → parse n.text level = .ok n
  isClassName : ∀ level n, parse line level = .ok n → IsClassName n.className.toList

theorem Node.parsesAtLevels (line : String) : ParsesAtLevels line where
  class_eq := parse_class_eq_parseClass line
  method_eq := parse_method_eq_parseMethod line
  exists_class_iff := exists_parse_class_iff
  exists_method_iff := exists_parse_method_iff
  class_of_method _ := parse_class_of_parse_method
  parse_text _ _ h := (parse_text_of_parse h).1
  isClassName _ _ h := (parse_text_of_parse h).2

/-- What is read from lines one by one: changes at each of the two levels, and known tests. -/
structure NodeList.ReadsLineByLine (changes : Granularity → ChangeSet) (tests : Universe)
    (lines : List String) : Prop where
  changes_eq : ∀ level, changes level = .ofLines level lines
  tests_eq : tests = Universe.ofLines lines
  nodes_method_eq : (changes .method).nodes = tests
  skipped_method_eq : (changes .method).skipped =
    lines.countP fun line => !isBlankLine line && !isDivided line
  skipped_class_eq : (changes .class).skipped = 0
  toClass_mem : ∀ n ∈ (changes .method).nodes, n.toClass ∈ (changes .class).nodes

theorem NodeList.readsLineByLine (lines : List String) :
    ReadsLineByLine (fun level => lines.foldl ChangeSet.add (.empty level))
      (lines.foldl Universe.add ∅) lines := by
  have hchanges (level : Granularity) : lines.foldl ChangeSet.add (.empty level) =
      .ofLines level lines := ChangeSet.foldl_add lines
  have htests : lines.foldl Universe.add ∅ = Universe.ofLines lines := Universe.foldl_add lines
  constructor
  case changes_eq => exact hchanges
  case tests_eq => exact htests
  case nodes_method_eq =>
    rw [hchanges, htests]
    rfl
  case skipped_method_eq =>
    rw [hchanges]
    exact length_rejected_read_method
  case skipped_class_eq =>
    rw [hchanges]
    exact length_rejected_read_class
  case toClass_mem =>
    rw [hchanges, hchanges]
    exact fun n hn => ChangeSet.toClass_mem_ofLines hn

/-- A line names a class by the first of its words, unless it is blank, and a method by what stands
before and behind its first blank, if a blank stands inside it; the class of the method is the class
that it names, and what it names is named by its own text. Read line by line, changed methods and
known tests are the same; the lines with one word are skipped among methods and none among classes,
and the classes of the changed methods are changed classes. -/
theorem Node.parse_and_read_levels (line : String) (lines : List String) :
    ParsesAtLevels line ∧
      NodeList.ReadsLineByLine (fun level => lines.foldl ChangeSet.add (.empty level))
        (lines.foldl Universe.add ∅) lines :=
  ⟨parsesAtLevels line, NodeList.readsLineByLine lines⟩

/-- A dotted name between blanks, a line with one word, a blank line and a descriptor. -/
theorem Node.parse_and_read_levels_of_dotted :
    let line := "\u2003p.A\t p.A.f()V "
    let lines := [line, "Lp/B", " \r", "Lp/A  p.A.f()V"]
    let n : Node := ofMethod "Lp/A" "p.A.f()V"
    parse line .method = .ok n ∧ parse line .class = .ok (ofClass "Lp/A") ∧
      parse n.text .method = .ok n ∧
      (lines.foldl ChangeSet.add (.empty .method)).nodes = lines.foldl Universe.add ∅ ∧
      (lines.foldl ChangeSet.add (.empty .method)).skipped = 1 ∧
      n ∈ (lines.foldl ChangeSet.add (.empty .method)).nodes ∧
      ofClass "Lp/A" ∈ (lines.foldl ChangeSet.add (.empty .class)).nodes := by
  intro line lines n
  obtain ⟨hlevels, hread⟩ := parse_and_read_levels line lines
  have hparse : parse line .method = .ok n := by decide +kernel
  have hmem : n ∈ (lines.foldl ChangeSet.add (.empty .method)).nodes := by decide +kernel
  have hskipped : lines.countP (fun line => !isBlankLine line && !isDivided line) = 1 := by
    decide +kernel
  exact ⟨hparse, hlevels.class_of_method n hparse, hlevels.parse_text _ n hparse,
    hread.nodes_method_eq, hread.skipped_method_eq.trans hskipped, hmem, hread.toClass_mem n hmem⟩

/-! ## Two spellings

The names that users write meet the names that records give. A line names a method by the descriptor
of its class or by its dotted class, and is read as the node of the method either way; so it makes
no difference to a selection which of the two the lines use. -/

namespace MethodRef
variable {m : MethodRef} {line : String} {refs : List MethodRef} {lines : List String}

/-- A method that can be named on a line. -/
structure IsNameable (m : MethodRef) : Prop where
  className : IsClassName m.className.toList
  selector_ne_nil : m.selector.toList ≠ []
  selector_last : ∀ c ∈ m.selector.toList.getLast?, isBlank c = false

instance : DecidablePred IsNameable := fun m =>
  decidable_of_iff (IsClassName m.className.toList ∧ m.selector.toList ≠ [] ∧
      m.selector.toList.getLast?.all (!isBlank ·)) (by
    rw [Option.all_eq_true]
    constructor
    · rintro ⟨hclass, hne, hlast⟩
      exact ⟨hclass, hne, fun c hc => by simpa using hlast c hc⟩
    · rintro ⟨hclass, hne, hlast⟩
      exact ⟨hclass, hne, fun c hc => by simpa using hlast c hc⟩)

/-- The class is written `L`, and then a path with a slash and without a dot. -/
def HasPath (m : MethodRef) : Prop :=
  ∃ path, m.className.toList = 'L' :: path ∧ '/' ∈ path ∧ '.' ∉ path

/-- The lines that name a method: the text of its node, and with a path for a class also the line
with the dotted class in the place of the descriptor. -/
inductive Names (m : MethodRef) : String → Prop
  | descriptor : Names m (Node.ofMethodRef m).text
  | dotted (h : m.HasPath) : Names m (m.dottedClass ++ " " ++ m.qualified)

/-- The method itself or its class. -/
def node (level : Granularity) (m : MethodRef) : Node :=
  match level with
  | .class => (Node.ofMethodRef m).toClass
  | .method => .ofMethodRef m

theorem IsNameable.no_blank (hm : m.IsNameable) {c : Char} (hc : c ∈ m.dottedClass.toList) :
    isBlank c = false := by
  rcases mem_dottedClass hc with hc | rfl
  · exact hm.className.no_blank c hc
  · decide

theorem IsNameable.isMember_qualified (hm : m.IsNameable) : IsMember m.qualified.toList := by
  rw [toList_qualified]
  refine ⟨by simp, ?_, ?_⟩
  · intro c hc
    cases hdotted : m.dottedClass.toList with
    | nil =>
      rw [hdotted] at hc
      cases hc
      decide
    | cons d rest =>
      rw [hdotted] at hc
      cases hc
      exact hm.no_blank (hdotted ▸ List.mem_cons_self)
  · intro c hc
    rw [List.getLast?_append_of_ne_nil _ (List.cons_ne_nil _ _),
      List.getLast?_cons_of_ne_nil hm.selector_ne_nil] at hc
    exact hm.selector_last c hc

/-- The dotted class is rewritten to the descriptor that it was made from. -/
theorem descriptor_dottedClass (h : m.HasPath) :
    Node.descriptor m.dottedClass.toList = m.className.toList := by
  obtain ⟨path, hclass, hslash, hdot⟩ := h
  have hplain : ¬ ('/' ∈ dotted path ∨ '.' ∉ dotted path) :=
    not_or.mpr ⟨slash_not_mem_dotted path, not_not.mpr (dot_mem_dotted hslash)⟩
  rw [toList_dottedClass hclass, Node.descriptor, if_neg hplain, ← slashed, slashed_dotted hdot,
    hclass]

theorem dottedClass_ne_nil (h : m.HasPath) : m.dottedClass.toList ≠ [] := by
  obtain ⟨path, hclass, hslash, -⟩ := h
  rw [toList_dottedClass hclass]
  exact List.ne_nil_of_mem (dot_mem_dotted hslash)

/-- However a line names a method, it is read as the method. -/
theorem parse_of_names (hm : m.IsNameable) (h : m.Names line) (level : Granularity) :
    Node.parse line level = .ok (m.node level) := by
  have hmember : IsMember m.qualified.toList := hm.isMember_qualified
  have hfields : Node.parse line .method = .ok (m.node .method) ∧
      Node.parse line .class = .ok (m.node .class) := by
    cases h with
    | descriptor =>
      have hparse := Node.parse_fields hm.className.ne_nil hm.className.no_blank hmember
        (Node.toList_text_ofMethod m.className m.qualified)
      rwa [Node.descriptor_of_isClassName hm.className, String.ofList_toList,
        String.ofList_toList] at hparse
    | dotted hpath =>
      have hline : (m.dottedClass ++ " " ++ m.qualified).toList =
          m.dottedClass.toList ++ ' ' :: m.qualified.toList := by simp
      have hparse := Node.parse_fields (dottedClass_ne_nil hpath) (fun _ => hm.no_blank) hmember
        hline
      rwa [descriptor_dottedClass hpath, String.ofList_toList, String.ofList_toList] at hparse
  cases level with
  | «class» => exact hfields.2
  | method => exact hfields.1

theorem map_parse_of_names (hrefs : ∀ m ∈ refs, m.IsNameable) (h : List.Forall₂ Names refs lines)
    (level : Granularity) :
    lines.map (Node.parse · level) = (refs.map (node level)).map .ok := by
  induction h with
  | nil => rfl
  | cons hname _ ih =>
    obtain ⟨hm, hrest⟩ := List.forall_mem_cons.mp hrefs
    simp only [List.map_cons, parse_of_names hm hname level, ih hrest]

theorem ofLines_of_names (hrefs : ∀ m ∈ refs, m.IsNameable) (h : List.Forall₂ Names refs lines)
    (level : Granularity) :
    ChangeSet.ofLines level lines = ⟨level, ExtTreeSet.ofList (refs.map (node level)), 0⟩ := by
  rw [ChangeSet.ofLines, NodeList.read_of_map_parse (map_parse_of_names hrefs h level)]
  rfl

/-- A line that names a method is read as its node, and at class level as its class. Lines that name
the same methods, each in either way, give the same changes, the same known tests and the same
selection. -/
theorem read_names (refs : List MethodRef) (hrefs : ∀ m ∈ refs, m.IsNameable) :
    (∀ m ∈ refs, ∀ line, m.Names line →
      Node.parse line .method = .ok (.ofMethodRef m) ∧
        Node.parse line .class = .ok (Node.ofMethodRef m).toClass) ∧
      ∀ lines lines', List.Forall₂ Names refs lines → List.Forall₂ Names refs lines' →
        Universe.ofLines lines = Universe.ofLines lines' ∧
          ∀ level, let changes : ChangeSet := ⟨level, ExtTreeSet.ofList (refs.map (node level)), 0⟩
            ChangeSet.ofLines level lines = changes ∧ ChangeSet.ofLines level lines' = changes ∧
              ∀ graphs tests rule names,
                Selection.select graphs tests rule names (.ofLines level lines) =
                  Selection.select graphs tests rule names (.ofLines level lines') := by
  constructor
  · intro m hm line hname
    exact ⟨parse_of_names (hrefs m hm) hname .method, parse_of_names (hrefs m hm) hname .class⟩
  · intro lines lines' h h'
    constructor
    · rw [Universe.ofLines, Universe.ofLines,
        NodeList.read_of_map_parse (map_parse_of_names hrefs h .method),
        NodeList.read_of_map_parse (map_parse_of_names hrefs h' .method)]
    · intro level changes
      have hlines : ChangeSet.ofLines level lines = changes := ofLines_of_names hrefs h level
      have hlines' : ChangeSet.ofLines level lines' = changes := ofLines_of_names hrefs h' level
      refine ⟨hlines, hlines', fun graphs tests rule names => ?_⟩
      rw [hlines, hlines']

/-- A constructor with a blank in its selector and a method of an inner class, both named in each of
the two ways. -/
theorem read_names_crosswise :
    let init : MethodRef := ⟨"Lnet/mooctest/CMD", "<init>(I, J)V"⟩
    let run : MethodRef := ⟨"Lp/Outer$Inner", "run()V"⟩
    let lines := [init.dottedClass ++ " " ++ init.qualified, (Node.ofMethodRef run).text]
    let lines' := [(Node.ofMethodRef init).text, run.dottedClass ++ " " ++ run.qualified]
    lines = ["net.mooctest.CMD net.mooctest.CMD.<init>(I, J)V",
        "Lp/Outer$Inner p.Outer$Inner.run()V"] ∧
      (∀ m ∈ [init, run], m.IsNameable) ∧ List.Forall₂ Names [init, run] lines ∧
      List.Forall₂ Names [init, run] lines' ∧
      Node.parse (init.dottedClass ++ " " ++ init.qualified) .method = .ok (.ofMethodRef init) ∧
      ChangeSet.ofLines .class lines =
        ⟨.class, ExtTreeSet.ofList ([init, run].map (node .class)), 0⟩ ∧
      Universe.ofLines lines = Universe.ofLines lines' := by
  intro init run lines lines'
  have hrefs : ∀ m ∈ [init, run], m.IsNameable := by decide +kernel
  have hinit : init.HasPath := ⟨"net/mooctest/CMD".toList, by decide, by decide, by decide⟩
  have hrun : run.HasPath := ⟨"p/Outer$Inner".toList, by decide, by decide, by decide⟩
  have h : List.Forall₂ Names [init, run] lines :=
    .cons (.dotted hinit) (.cons .descriptor .nil)
  have h' : List.Forall₂ Names [init, run] lines' :=
    .cons .descriptor (.cons (.dotted hrun) .nil)
  obtain ⟨hparse, hread⟩ := read_names [init, run] hrefs
  obtain ⟨htests, hchanges⟩ := hread lines lines' h h'
  exact ⟨by decide, hrefs, h, h', (hparse init (by simp) _ (.dotted hinit)).1, (hchanges .class).1,
    htests⟩

end MethodRef

end TestImpact
