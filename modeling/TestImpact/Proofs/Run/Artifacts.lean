import TestImpact.Proofs.Files.Tree
import TestImpact.Proofs.Run.Reading
import TestImpact.Proofs.Selection.Members
import TestImpact.Proofs.Text

/-!
What a run makes of the directory of compiled classes: the label of the project, and the names of
the test files.
-/
open TestImpact.Path

namespace TestImpact
open Text

/-! ## The label

The label of a project, made from the name of a directory. It is to drop an ordinal in front of
the name and nothing else, but is what follows the first hyphen, whatever stands before it. Names
with an ordinal and names without a hyphen are treated as they should be; others may lose what tells
them apart. -/

/-- One or more decimal digits. -/
def IsOrdinal (s : String) : Prop := s ≠ "" ∧ ∀ c ∈ s.toList, c.isDigit = true

/-- An ordinal and a hyphen stand in front of the rest of the name. -/
def HasOrdinal (name rest : String) : Prop :=
  rest ≠ "" ∧ ∃ ordinal, IsOrdinal ordinal ∧ name = ordinal ++ "-" ++ rest

/-- The name goes on with the rest behind its first hyphen. -/
def GoesOn (name rest : String) : Prop :=
  rest ≠ "" ∧ ∃ before, '-' ∉ before.toList ∧ name = before ++ "-" ++ rest

/-- The label is the name without its ordinal, or the whole name if it has none. -/
def DropsOrdinal (name label : String) : Prop :=
  HasOrdinal name label ∨ (∀ rest, ¬ HasOrdinal name rest) ∧ label = name

section Labels
variable {name rest : String}

theorem HasOrdinal.goesOn (h : HasOrdinal name rest) : GoesOn name rest := by
  obtain ⟨hrest, ordinal, ⟨-, hdigits⟩, rfl⟩ := h
  exact ⟨hrest, ordinal, fun hmem => absurd (hdigits _ hmem) (by decide), rfl⟩

/-- A name that does not start with a digit has no ordinal. -/
theorem not_hasOrdinal_of_head {c : Char} (hhead : name.toList.head? = some c)
    (hc : c.isDigit = false) (rest : String) : ¬ HasOrdinal name rest := by
  rintro ⟨-, ordinal, ⟨hne, hdigits⟩, rfl⟩
  obtain ⟨d, more, hordinal⟩ := List.exists_cons_of_ne_nil (mt String.toList_eq_nil_iff.mp hne)
  obtain rfl : d = c := by simpa [hordinal] using hhead
  exact absurd (hdigits d (hordinal ▸ List.mem_cons_self)) (by simp [hc])

theorem goesOn_iff : GoesOn name rest ↔
    rest ≠ "" ∧ ∃ before, cut? ['-'] name.toList = some (before, rest.toList) := by
  simp only [cut?_singleton_eq_some_iff]
  refine and_congr_right fun _ => ⟨?_, ?_⟩
  · rintro ⟨before, hbefore, rfl⟩
    exact ⟨before.toList, by simp, hbefore⟩
  · rintro ⟨before, hname, hbefore⟩
    refine ⟨String.ofList before, by rwa [String.toList_ofList], String.toList_inj.mp ?_⟩
    simp [hname]

theorem GoesOn.labelOf_eq (h : GoesOn name rest) : labelOf name = rest := by
  obtain ⟨hrest, before, hcut⟩ := goesOn_iff.mp h
  have hne : rest.toList.isEmpty = false := by simpa using hrest
  simp [labelOf, hcut, hne]

theorem labelOf_of_not_goesOn (h : ∀ rest, ¬ GoesOn name rest) : labelOf name = name := by
  unfold labelOf
  split
  · rename_i before rest hcut
    have hnone := h (String.ofList rest)
    rw [goesOn_iff, String.toList_ofList, not_and_or, not_not] at hnone
    rcases hnone with hempty | hnone
    · rw [if_pos (by simpa using hempty)]
    · exact absurd ⟨before, hcut⟩ hnone
  · rfl

theorem GoesOn.ne (h : GoesOn name rest) : rest ≠ name := by
  obtain ⟨-, before, -, rfl⟩ := h
  intro he
  have hlength := congrArg String.length he
  simp [String.length_append] at hlength

/-- More than an ordinal is dropped from just those names that have none and go on behind a
hyphen. -/
theorem dropsOrdinal_labelOf_iff : DropsOrdinal name (labelOf name) ↔
    (∃ rest, HasOrdinal name rest) ∨ ∀ rest, ¬ GoesOn name rest := by
  constructor
  · rintro (hordinal | ⟨-, hwhole⟩)
    · exact .inl ⟨_, hordinal⟩
    · refine .inr fun rest hrest => hrest.ne ?_
      rw [← hrest.labelOf_eq, hwhole]
  · rintro (⟨rest, hordinal⟩ | hnone)
    · exact .inl (hordinal.goesOn.labelOf_eq.symm ▸ hordinal)
    · exact .inr ⟨fun rest hordinal => hnone rest hordinal.goesOn, labelOf_of_not_goesOn hnone⟩

/-- A drawing is named by its level and its label. -/
theorem dotFileName_inj {g g' : Granularity} {label label' : String} :
    CallGraph.dotFileName g label = CallGraph.dotFileName g' label' ↔ g = g' ∧ label = label' := by
  constructor
  · intro h
    have hlist := congrArg String.toList h
    cases g <;> cases g' <;> simp [CallGraph.dotFileName, Granularity.name] at hlist
    · exact ⟨rfl, String.toList_inj.mp hlist⟩
    · exact ⟨rfl, String.toList_inj.mp hlist⟩
  · rintro ⟨rfl, rfl⟩
    rfl

end Labels

/-- How a label is made from a name: it is what follows the first hyphen, or the whole name if
nothing does. So just an ordinal is dropped if and only if the name has one or does not go on behind
a hyphen. -/
structure LabelsBehindHyphen (name label : String) : Prop where
  of_hasOrdinal : ∀ rest, HasOrdinal name rest → label = rest
  of_goesOn : ∀ rest, GoesOn name rest → label = rest
  of_not_goesOn : (∀ rest, ¬ GoesOn name rest) → label = name
  dropsOrdinal_iff :
    DropsOrdinal name label ↔ (∃ rest, HasOrdinal name rest) ∨ ∀ rest, ¬ GoesOn name rest

theorem labelsBehindHyphen_labelOf (name : String) : LabelsBehindHyphen name (labelOf name) where
  of_hasOrdinal _ h := h.goesOn.labelOf_eq
  of_goesOn _ h := h.labelOf_eq
  of_not_goesOn := labelOf_of_not_goesOn
  dropsOrdinal_iff := dropsOrdinal_labelOf_iff

theorem on_projectLabel {s : Session} {root name : String} (h : s.holder? root = some name) :
    Act.on (projectLabel root) s = (.ok (labelOf name), s) := by
  unfold projectLabel
  rw [Act.on_bind, Session.on_holder?, h]
  rfl

/-- The label of a root is what follows the first hyphen in the name of the directory that holds it,
or the whole name if nothing does. So just an ordinal is dropped if and only if the name has one or
does not go on behind a hyphen. The drawings of two projects share a name if and only if their
labels are the same; different names that do not go on behind a hyphen keep them apart. -/
theorem label_behind_first_hyphen {s : Session} {root name : String}
    (h : s.holder? root = some name) :
    ∃ label, Act.on (projectLabel root) s = (.ok label, s) ∧ LabelsBehindHyphen name label ∧
      ∀ (s' : Session) (root' name' : String), s'.holder? root' = some name' →
        ∃ label', Act.on (projectLabel root') s' = (.ok label', s') ∧
          (∀ g g', CallGraph.dotFileName g label = CallGraph.dotFileName g' label' ↔
            g = g' ∧ label = label') ∧
          ((∀ rest, ¬ GoesOn name rest) → (∀ rest, ¬ GoesOn name' rest) → name ≠ name' →
            ∀ g g', CallGraph.dotFileName g label ≠ CallGraph.dotFileName g' label') := by
  refine ⟨labelOf name, on_projectLabel h, labelsBehindHyphen_labelOf name, ?_⟩
  intro s' root' name' h'
  refine ⟨labelOf name', on_projectLabel h', fun g g' => dotFileName_inj, ?_⟩
  intro hnone hnone' hne g g' hshared
  rw [dotFileName_inj, labelOf_of_not_goesOn hnone, labelOf_of_not_goesOn hnone'] at hshared
  exact hne hshared.2

/-- An ordinal is dropped, and a name without a hyphen stays apart. -/
theorem label_behind_first_hyphen_of_ordinal :
    let tree := (((FileTree.empty.put [] "3-Data-Log" .directory).put ["3-Data-Log"] "target"
      .directory).put [] "plain" .directory).put ["plain"] "target" .directory
    let s := Session.ofTree tree
    s.holder? "3-Data-Log/target" = some "3-Data-Log" ∧ s.holder? "plain/target" = some "plain" ∧
      HasOrdinal "3-Data-Log" "Data-Log" ∧
      Act.on (projectLabel "3-Data-Log/target") s = (.ok "Data-Log", s) ∧
      DropsOrdinal "3-Data-Log" "Data-Log" ∧
      Act.on (projectLabel "plain/target") s = (.ok "plain", s) := by
  intro tree s
  have hholder : s.holder? "3-Data-Log/target" = some "3-Data-Log" := by decide +kernel
  have hplain : s.holder? "plain/target" = some "plain" := by decide +kernel
  have hordinal : HasOrdinal "3-Data-Log" "Data-Log" :=
    ⟨by decide, "3", ⟨by decide, by simp⟩, by decide⟩
  have hnone : ∀ rest, ¬ GoesOn "plain" rest := by
    rintro rest ⟨-, before, -, hname⟩
    have hhyphen : '-' ∈ (before ++ "-" ++ rest).toList := by simp
    rw [← hname] at hhyphen
    exact absurd hhyphen (by decide)
  clear_value s
  obtain ⟨label, hon, hlabel, -⟩ := label_behind_first_hyphen hholder
  obtain ⟨label', hon', hlabel', -⟩ := label_behind_first_hyphen hplain
  obtain rfl := hlabel.of_hasOrdinal "Data-Log" hordinal
  obtain rfl := hlabel'.of_not_goesOn hnone
  have hdrops := hlabel.dropsOrdinal_iff.mpr (.inl ⟨_, hordinal⟩)
  exact ⟨hholder, hplain, hordinal, hon, hdrops, hon'⟩

/-- Two names without an ordinal lose what stands before their hyphens, and with it what tells their
drawings apart. -/
theorem label_drops_more_than_ordinal :
    let tree := (((FileTree.empty.put [] "cool-proj" .directory).put ["cool-proj"] "target"
      .directory).put [] "a-proj" .directory).put ["a-proj"] "target" .directory
    let s := Session.ofTree tree
    s.isDirectory "cool-proj/target" = true ∧ s.holder? "cool-proj/target" = some "cool-proj" ∧
      s.isDirectory "a-proj/target" = true ∧ s.holder? "a-proj/target" = some "a-proj" ∧
      (∀ rest, ¬ HasOrdinal "cool-proj" rest) ∧ (∀ rest, ¬ HasOrdinal "a-proj" rest) ∧
      Act.on (projectLabel "cool-proj/target") s = (.ok "proj", s) ∧
      ¬ DropsOrdinal "cool-proj" "proj" ∧
      Act.on (projectLabel "a-proj/target") s = (.ok "proj", s) := by
  intro tree s
  have hcool : ∀ rest, ¬ HasOrdinal "cool-proj" rest :=
    not_hasOrdinal_of_head (c := 'c') (by decide) (by decide)
  have ha : ∀ rest, ¬ HasOrdinal "a-proj" rest :=
    not_hasOrdinal_of_head (c := 'a') (by decide) (by decide)
  have hholder : s.holder? "cool-proj/target" = some "cool-proj" := by decide +kernel
  have hholder' : s.holder? "a-proj/target" = some "a-proj" := by decide +kernel
  have hlabel : labelOf "cool-proj" = "proj" := by decide +kernel
  have hlabel' : labelOf "a-proj" = "proj" := by decide +kernel
  refine ⟨by decide +kernel, hholder, by decide +kernel, hholder', hcool, ha, ?_, ?_, ?_⟩
  · rw [on_projectLabel hholder, hlabel]
  · rintro (hordinal | ⟨-, hwhole⟩)
    · exact hcool _ hordinal
    · exact absurd hwhole (by decide)
  · rw [on_projectLabel hholder', hlabel']

/-! ## Test files

The names that test classes are recognised by. They are the stems of the files below a directory, at
any depth, in order; and the file of a class gives a name that recognises the class. -/

/-! ### Files below a directory -/

namespace FileTree
variable {t : FileTree} {place : Place} {name : String}

theorem isName_of_isSome_file? (h : (t.file? (name :: place)).isSome) : isName name = true := by
  obtain ⟨bytes, hentry⟩ := isSome_file?_iff.mp h
  exact t.isNamed name place _ hentry

end FileTree

/-! ### Stems -/

/-- A text that stands before the first dot of a name, or the whole name if it has none. -/
def IsStem (name x : String) : Prop :=
  '.' ∉ x.toList ∧ (name = x ∨ ∃ ending, name = x ++ "." ++ ending)

section Stems
variable {name x : String} {names : List String}

theorem stem_of_isStem (h : IsStem name x) : stem name = x := by
  obtain ⟨hdot, hname⟩ := h
  have hall : ∀ c ∈ x.toList, decide (c ≠ '.') = true := by
    intro c hc
    rw [decide_eq_true_iff]
    rintro rfl
    exact hdot hc
  have hstem : name.toList.takeWhile (· ≠ '.') = x.toList := by
    rcases hname with rfl | ⟨ending, rfl⟩
    · exact List.takeWhile_eq_self_iff.mpr hall
    · have hsplit : (x ++ "." ++ ending).toList = x.toList ++ '.' :: ending.toList := by simp
      rw [hsplit, List.takeWhile_append_of_pos hall, List.takeWhile_cons_of_neg (by simp),
        List.append_nil]
  rw [stem, hstem, String.ofList_toList]

theorem isStem_stem (name : String) : IsStem name (stem name) := by
  have hwhole : (stem name).toList ++ name.toList.dropWhile (· ≠ '.') = name.toList := by
    rw [stem, String.toList_ofList, List.takeWhile_append_dropWhile]
  constructor
  · intro hdot
    rw [stem, String.toList_ofList] at hdot
    simpa using List.mem_takeWhile_imp hdot
  · cases hrest : name.toList.dropWhile (· ≠ '.') with
    | nil =>
      rw [hrest, List.append_nil] at hwhole
      exact .inl (String.toList_inj.mp hwhole.symm)
    | cons c ending =>
      have hfirst := List.head?_dropWhile_not (· ≠ '.') name.toList
      rw [hrest] at hfirst
      obtain rfl : c = '.' := by simpa using hfirst
      refine .inr ⟨String.ofList ending, String.toList_inj.mp ?_⟩
      rw [← hwhole, hrest]
      simp

theorem isStem_iff : IsStem name x ↔ stem name = x :=
  ⟨stem_of_isStem, fun h => h ▸ isStem_stem name⟩

theorem isStem_classFile (hdot : '.' ∉ x.toList) : IsStem (x ++ ".class") x := by
  refine ⟨hdot, .inr ⟨"class", ?_⟩⟩
  rw [String.append_assoc]
  rfl

theorem mem_stems : x ∈ stems names ↔ x ≠ "" ∧ ∃ name ∈ names, IsStem name x := by
  simp only [stems, Std.ExtTreeSet.mem_toList, mem_setOfList, List.mem_filter, List.mem_map,
    isStem_iff, Bool.not_eq_true', String.isEmpty_eq_false_iff]
  exact and_comm

end Stems

/-! ### The names of a root -/

/-- A session lists the files below a directory: the walker misses none and goes nowhere else. -/
theorem Session.mem_fileNames {s : Session} {path : String} (h : s.isDirectory path = true)
    (name : String) : name ∈ s.fileNames path ↔ s.tree.HasFile (place s.cwd path) name := by
  unfold isDirectory at h
  split at h
  · rename_i hentry
    obtain ⟨q, hplace, hget⟩ := Option.bind_eq_some_iff.mp hentry
    rw [fileNames, hplace, ← FileTree.resolve_eq_some hplace]
    exact s.walker.mem_names (FileTree.isDirectory_iff.mpr hget) name
  · cases h

/-- The names of test files are found if the directory of test classes is there. They ascend, and
are the stems of all files in the directory and below it that have one. The file of a class gives a
name that recognises the class, by either rule. -/
theorem testFileNames_of_directory {s : Session} {root : String}
    (h : s.isDirectory (testClassesDirectory root) = true) :
    let top := place s.cwd (testClassesDirectory root)
    ∃ names log, Act.on (testFileNames root) s = (.ok names, { s with log }) ∧
      names.Pairwise (· < ·) ∧
      (∀ x, x ∈ names ↔ x ≠ "" ∧ ∃ name, s.tree.HasFile top name ∧ IsStem name x) ∧
      ∀ (packages : List String) (name : String), name ≠ "" → '.' ∉ name.toList →
        (s.tree.file? ((name ++ ".class") :: (packages.reverse ++ top))).isSome →
        ∃ x ∈ names, ∀ m : ClassMatch, m.accepts (classIn packages name) x = true := by
  intro top
  have hreads : Act.Reads (testFileNames root) s _ _ := reads_testFileNames
  obtain ⟨log, hon⟩ := hreads.on_eq
  have hmem (x : String) : x ∈ stems (s.fileNames (testClassesDirectory root)) ↔
      x ≠ "" ∧ ∃ name, s.tree.HasFile top name ∧ IsStem name x := by
    simp only [mem_stems, Session.mem_fileNames h, top]
  refine ⟨_, log, ?_, Text.pairwise_lt_toList _, hmem, ?_⟩
  · rw [hon, answer, firstFault_cons, h]
    rfl
  · intro packages name hname hdot hfile
    have hslash : '/' ∉ name.toList := by
      have hlonger : '/' ∉ (name ++ ".class").toList :=
        (isName_iff.mp (FileTree.isName_of_isSome_file? hfile)).2.2.1
      rw [String.toList_append] at hlonger
      exact fun hmem => hlonger (List.mem_append_left _ hmem)
    have hlisted : s.tree.HasFile top (name ++ ".class") := FileTree.hasFile_iff.mpr ⟨_, hfile⟩
    refine ⟨name, (hmem name).mpr ⟨hname, _, hlisted, isStem_classFile hdot⟩, ?_⟩
    exact ClassMatch.accepts_classIn hslash packages

/-- One class in a hidden directory and in a package, a file without a stem, a file without a dot
and a directory that is called like a class file. -/
theorem testFileNames_of_hidden_directory :
    let root := (FileTree.empty.put [] "t" .directory).put ["t"] "test-classes" .directory
    let top : Place := ["test-classes", "t"]
    let inner := ((root.put top ".h" .directory).put top "p" .directory).put top "D.class"
      .directory
    let tree := (((inner.put (".h" :: top) "FooTest.class" (.file "".toUTF8)).put ("p" :: top)
      "FooTest.class" (.file "".toUTF8)).put ("p" :: top) ".class" (.file "".toUTF8)).put top "Bar"
        (.file "".toUTF8)
    let s := Session.ofTree tree
    s.isDirectory (testClassesDirectory "t") = true ∧
      (s.tree.file? ("FooTest.class" :: (["p"].reverse ++ top))).isSome ∧
      (Act.on (testFileNames "t") s).1 = .ok ["Bar", "FooTest"] ∧
      ("Bar" ∈ ["Bar", "FooTest"] ↔
        "Bar" ≠ "" ∧ ∃ name, s.tree.HasFile top name ∧ IsStem name "Bar") ∧
      ∃ x ∈ ["Bar", "FooTest"], ∀ m : ClassMatch, m.accepts "Lp/FooTest" x = true := by
  intro root top inner tree s
  have hd : s.isDirectory (testClassesDirectory "t") = true := by decide +kernel
  have hfile : (s.tree.file? ("FooTest.class" :: (["p"].reverse ++ top))).isSome := by
    decide +kernel
  have hon : (Act.on (testFileNames "t") s).1 = .ok ["Bar", "FooTest"] := by decide +kernel
  have htop : place s.cwd (testClassesDirectory "t") = top := by decide +kernel
  clear_value s top
  obtain ⟨names, log, hnames, -, hmem, hclass⟩ := testFileNames_of_directory hd
  rw [hnames] at hon
  obtain rfl : names = ["Bar", "FooTest"] := Except.ok.inj hon
  rw [htop] at hmem hclass
  refine ⟨hd, hfile, by rw [hnames], hmem "Bar", ?_⟩
  exact hclass ["p"] "FooTest" (by decide) (by decide) hfile

end TestImpact
