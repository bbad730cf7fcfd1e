import TestImpact.Proofs.Run.Output
import TestImpact.Run

/-! What a run reads, and how it fails before it writes. -/
namespace TestImpact

/-! ## Reading

Actions that only read. Each performs a list of checks in order, fails at the first that does not
hold, and else answers what the files of the session say; it changes nothing but the log. -/

section Reading
/-- What must hold, and the error if it does not. -/
abbrev Check := Bool × Error

/-- The error of the first check that does not hold. -/
def firstFault (checks : List Check) : Option Error := (checks.find? fun c => !c.1).map (·.2)

@[simp] theorem firstFault_nil : firstFault [] = none := rfl

@[simp] theorem firstFault_cons {holds : Bool} {e : Error} {cs : List Check} :
    firstFault ((holds, e) :: cs) = if holds then firstFault cs else some e := by
  cases holds <;> rfl

theorem firstFault_append {cs cs' : List Check} :
    firstFault (cs ++ cs') = (firstFault cs <|> firstFault cs') := by
  unfold firstFault
  rw [List.find?_append]
  cases cs.find? fun c => !c.1 <;> rfl

theorem firstFault_eq_none_iff {cs : List Check} : firstFault cs = none ↔ ∀ c ∈ cs, c.1 = true := by
  simp [firstFault]

theorem firstFault_append_eq_none_iff {cs cs' : List Check} :
    firstFault (cs ++ cs') = none ↔ firstFault cs = none ∧ firstFault cs' = none := by
  simp only [firstFault_eq_none_iff, List.forall_mem_append]

/-- The value, unless one of the checks does not hold. -/
def answer (checks : List Check) (v : α) : Except Error α :=
  match firstFault checks with
  | some e => .error e
  | none => .ok v

/-- In a session the action performs the checks, answers `v` if all hold, and only adds to the
log. -/
def Act.Reads (a : Act α) (s : Session) (checks : List Check) (v : α) : Prop :=
  ∀ log, ∃ log', Act.on a { s with log } = (answer checks v, { s with log := log' })

namespace Act.Reads
variable {a : Act α} {f : α → Act β} {s : Session} {cs cs' : List Check} {v : α} {w : β}

theorem on_eq (h : Act.Reads a s cs v) : ∃ log, Act.on a s = (answer cs v, { s with log }) :=
  h s.log

theorem pure : Act.Reads (pure v) s [] v := fun log => ⟨log, rfl⟩

theorem bind (ha : Act.Reads a s cs v) (hf : Act.Reads (f v) s cs' w) :
    Act.Reads (a >>= f) s (cs ++ cs') w := by
  intro log
  obtain ⟨log₁, h₁⟩ := ha log
  obtain ⟨log₂, h₂⟩ := hf log₁
  rw [Act.on_bind, h₁]
  unfold answer at h₁ h₂ ⊢
  rw [firstFault_append]
  cases hfault : firstFault cs with
  | some e => exact ⟨log₁, rfl⟩
  | none => exact ⟨log₂, h₂⟩

theorem tell (e : Event) : Act.Reads (FileStore.tell e) s [] () := fun log => ⟨log ++ [e], rfl⟩

theorem tellAll (es : List Event) : Act.Reads (tellAll es) s [] () := by
  induction es with
  | nil => exact pure
  | cons e rest ih => exact (tell e).bind ih

end Act.Reads
/-! ### Reading files -/

namespace Session

/-- The text of a file; empty if it cannot be read. -/
def text (s : Session) (path : String) : String := (textOf? (s.read path)).getD ""

/-- A file can be read if it is there and in UTF-8. -/
def fileChecks (s : Session) (input : InputKind) (path : String) : List Check :=
  [(s.isFile path, .inputNotFound path),
    ((textOf? (s.read path)).isSome, .unreadable input path)]

/-- The name under which the graphs of a root are drawn. -/
def label (s : Session) (root : String) : String :=
  ((s.holder? root <|> (Path.parent? root).bind Path.fileName?).map labelOf).getD standardLabel

end Session

section Readers
variable {s : Session} {input : InputKind} {path root : String}

theorem reads_requireFile :
    Act.Reads (requireFile path) s [(s.isFile path, .inputNotFound path)] () := by
  intro log
  refine ⟨log, ?_⟩
  unfold requireFile
  rw [Act.on_bind, Session.on_isFile]
  change Act.on (if s.isFile path = true then _ else _) _ = _
  cases s.isFile path <;> rfl

theorem reads_requireDirectory :
    Act.Reads (requireDirectory path) s [(s.isDirectory path, .inputNotFound path)] () := by
  intro log
  refine ⟨log, ?_⟩
  unfold requireDirectory
  rw [Act.on_bind, Session.on_isDirectory]
  change Act.on (if s.isDirectory path = true then _ else _) _ = _
  cases s.isDirectory path <;> rfl

theorem reads_readText :
    Act.Reads (readText input path) s (s.fileChecks input path) (s.text path) := by
  change Act.Reads _ s ([(s.isFile path, .inputNotFound path)] ++
    [((textOf? (s.read path)).isSome, .unreadable input path)]) _
  refine reads_requireFile.bind fun log => ⟨log, ?_⟩
  rw [Act.on_bind, Session.on_read, show Session.read { s with log } path = s.read path from rfl,
    Session.text]
  dsimp only
  cases textOf? (s.read path) <;> rfl

theorem reads_readRecords : Act.Reads (readRecords path) s (s.fileChecks .descriptors path)
    (Record.split (s.text path)) :=
  reads_readText.bind ((Act.Reads.tell _).bind .pure)

theorem reads_readChanges {g : Granularity} : Act.Reads (readChanges path g) s
    (s.fileChecks .changes path) (ChangeSet.ofLines g (linesOf (s.text path))) := by
  refine reads_readText.bind ((Act.Reads.tellAll _).bind ((Act.Reads.tell _).bind ?_))
  split
  · exact .pure
  · exact (Act.Reads.tell _).bind .pure

theorem reads_readTests : Act.Reads (readTests path) s (s.fileChecks .tests path)
    (Universe.ofLines (linesOf (s.text path))) :=
  reads_readText.bind ((Act.Reads.tellAll _).bind ((Act.Reads.tell _).bind .pure))

theorem reads_readNames : Act.Reads (readNames path) s (s.fileChecks .nameList path)
    (namesIn (s.text path)) :=
  reads_readText.bind .pure

theorem reads_loadGraphs {f : PlatformFilter} : Act.Reads (loadGraphs path f) s
    (s.fileChecks .descriptors path)
    (let n := Normalized.ofRecords (Record.split (s.text path))
     (Graphs.build f n.edges, n.counts)) :=
  reads_readRecords.bind
    ((Act.Reads.tellAll _).bind ((Act.Reads.tell _).bind ((Act.Reads.tell _).bind .pure)))

theorem reads_testFileNames : Act.Reads (testFileNames root) s
    [(s.isDirectory (testClassesDirectory root), .inputNotFound (testClassesDirectory root))]
    (stems (s.fileNames (testClassesDirectory root))) := by
  have hnames : Act.Reads (FileStore.fileNames (testClassesDirectory root)) s []
      (s.fileNames (testClassesDirectory root)) := fun log =>
    ⟨log, Session.on_fileNames _ _⟩
  exact reads_requireDirectory.bind (hnames.bind ((Act.Reads.tell _).bind .pure))

theorem reads_projectLabel : Act.Reads (projectLabel root) s [] (s.label root) := by
  have hholder : Act.Reads (FileStore.holder? root) s [] (s.holder? root) := fun log =>
    ⟨log, Session.on_holder? _ _⟩
  exact hholder.bind .pure

theorem reads_verifyRoot : Act.Reads (verifyRoot root) s
    [(s.isDirectory root, .inputNotFound root),
      (s.isDirectory (classesDirectory root), .inputNotFound (classesDirectory root)),
      (s.isDirectory (testClassesDirectory root), .inputNotFound (testClassesDirectory root))] () :=
  reads_requireDirectory.bind (reads_requireDirectory.bind reads_requireDirectory)

end Readers

/-! ### Planning a run -/

namespace RunConfig
variable (config : RunConfig) (s : Session)

/-- The checks on the names of test classes, which only the class level asks for. -/
def nameChecks : List Check :=
  match config.granularity, config.testNames with
  | .method, _ => []
  | .class, some path => s.fileChecks .nameList path
  | .class, none => [(s.isDirectory (testClassesDirectory config.artifactRoot),
      .inputNotFound (testClassesDirectory config.artifactRoot))]

/-- The directories that every run needs. -/
def directories : List String :=
  [config.artifactRoot, classesDirectory config.artifactRoot,
    testClassesDirectory config.artifactRoot]

/-- The files that every run needs. -/
def files : List String := [config.changes, config.descriptors, config.tests]

/-- The checks of a run, in the order in which they are made. -/
def checks : List Check :=
  (config.directories.map fun path => (s.isDirectory path, .inputNotFound path)) ++
    (config.files.map fun path => (s.isFile path, .inputNotFound path)) ++
    (s.fileChecks .descriptors config.descriptors ++ (s.fileChecks .changes config.changes ++
      (s.fileChecks .tests config.tests ++ config.nameChecks s)))

/-- The names of test classes that a run goes by. -/
def names : List String :=
  match config.granularity, config.testNames with
  | .method, _ => []
  | .class, some path => namesIn (s.text path)
  | .class, none => stems (s.fileNames (testClassesDirectory config.artifactRoot))

def calls : Normalized := Normalized.ofRecords (Record.split (s.text config.descriptors))

def graphs : Graphs := Graphs.build config.platform (config.calls s).edges

def changed : ChangeSet := ChangeSet.ofLines config.granularity (linesOf (s.text config.changes))

def selection : Selection :=
  Selection.select (config.graphs s) (Universe.ofLines (linesOf (s.text config.tests)))
    config.classMatch (config.names s) (config.changed s)

def runReport : Report :=
  Report.make s.now (config.calls s).counts (config.graphs s) (config.changed s)
    (config.selection s)

def reportFiles : List PendingFile :=
  (config.report.map fun path => PendingFile.ofReport path (config.runReport s)).toList

def dotFiles : List PendingFile :=
  if config.emitDot then
    PendingFile.ofGraphs config.outDir (s.label config.artifactRoot) (config.graphs s)
  else []

def listing : PendingFile := PendingFile.ofSelection config.outDir (config.selection s)

/-- What a run makes of the files of a session. -/
def planned : Plan where
  outcome :=
    { selection := config.selection s
      selectionPath := (config.listing s).path
      dotPaths := (config.dotFiles s).map (·.path)
      report := config.runReport s }
  files := config.reportFiles s ++ config.dotFiles s ++ [config.listing s]

end RunConfig

variable {config : RunConfig} {s : Session}

theorem reads_testNames :
    Act.Reads (testNames config) s (config.nameChecks s) (config.names s) := by
  unfold testNames RunConfig.nameChecks RunConfig.names
  cases config.granularity with
  | method => exact .pure
  | «class» =>
    cases config.testNames with
    | some path => exact reads_readNames
    | none => exact reads_testFileNames

theorem reads_plan : Act.Reads (plan config) s (config.checks s) (config.planned s) := by
  have hclock : Act.Reads FileStore.clock s [] s.now := fun log => ⟨log, Session.on_clock _⟩
  refine (Act.Reads.tell _).bind (reads_verifyRoot.bind (reads_requireFile.bind
    (reads_requireFile.bind (reads_requireFile.bind (reads_loadGraphs.bind
      (reads_readChanges.bind (reads_readTests.bind ?_)))))))
  rw [← List.append_nil (config.nameChecks s)]
  exact reads_testNames.bind ((Act.Reads.tellAll _).bind
    (hclock.bind (reads_projectLabel.bind .pure)))

end Reading

/-! ## Faults

When a run fails before it writes: if and only if an input is missing or is no text. What the texts
say never matters, and the tree is as it was by then. -/

section Faults
/-- The path leads to a regular file in UTF-8. -/
def Session.hasText (s : Session) (path : String) : Bool :=
  s.isFile path && (textOf? (s.read path)).isSome

namespace RunConfig

/-- What a run needs to find. Names of test classes are read at class level only. -/
structure Ready (config : RunConfig) (s : Session) : Prop where
  directories : ∀ path ∈ config.directories, s.isDirectory path = true
  texts : ∀ path ∈ config.files, s.hasText path = true
  names : config.granularity = .class → ∀ path ∈ config.testNames, s.hasText path = true

/-- The first of the directories and files that every run needs and that is not there. -/
def firstMissing (config : RunConfig) (s : Session) : Option String :=
  (config.directories.find? fun path => !s.isDirectory path) <|>
    (config.files.find? fun path => !s.isFile path)

end RunConfig

variable {config : RunConfig} {s : Session}

/-! ### The first fault -/

theorem firstFault_fileChecks_eq_none_iff {input : InputKind} {path : String} :
    firstFault (s.fileChecks input path) = none ↔ s.hasText path = true := by
  simp only [Session.fileChecks, Session.hasText, firstFault_eq_none_iff, Bool.and_eq_true]
  simp

theorem isFile_of_hasText {path : String} (h : s.hasText path = true) : s.isFile path = true :=
  (Bool.and_eq_true_iff.mp h).1

/-- Of a file that is there, only the text can be at fault. -/
theorem firstFault_fileChecks {input : InputKind} {path : String} (h : s.isFile path = true) :
    firstFault (s.fileChecks input path) =
      if s.hasText path then none else some (.unreadable input path) := by
  simp [Session.fileChecks, Session.hasText, h]

theorem firstFault_map_inputNotFound (there : String → Bool) (paths : List String) :
    firstFault (paths.map fun path => (there path, .inputNotFound path)) =
      (paths.find? fun path => !there path).map .inputNotFound := by
  induction paths with
  | nil => rfl
  | cons path rest ih =>
    rw [List.map_cons, firstFault_cons, ih, List.find?_cons]
    cases there path <;> rfl

/-- Missing inputs are reported first, then texts that cannot be read. -/
theorem firstFault_checks : firstFault (config.checks s) =
    ((config.firstMissing s).map .inputNotFound <|>
      firstFault (s.fileChecks .descriptors config.descriptors ++
        (s.fileChecks .changes config.changes ++
          (s.fileChecks .tests config.tests ++ config.nameChecks s)))) := by
  rw [RunConfig.checks, firstFault_append, firstFault_append, firstFault_map_inputNotFound,
    firstFault_map_inputNotFound, RunConfig.firstMissing]
  cases config.directories.find? fun path => !s.isDirectory path <;> rfl

theorem firstMissing_eq_none_iff : config.firstMissing s = none ↔
    (∀ path ∈ config.directories, s.isDirectory path = true) ∧
      ∀ path ∈ config.files, s.isFile path = true := by
  simp [RunConfig.firstMissing]

theorem forall_mem_files {P : String → Prop} :
    (∀ path ∈ config.files, P path) ↔ P config.changes ∧ P config.descriptors ∧ P config.tests := by
  simp [RunConfig.files]

/-- Where the directories are there, only a given list of names can be at fault. -/
theorem firstFault_nameChecks (h : ∀ path ∈ config.directories, s.isDirectory path = true) :
    firstFault (config.nameChecks s) = if config.granularity = .class then
      config.testNames.bind fun path => firstFault (s.fileChecks .nameList path) else none := by
  have htests : s.isDirectory (testClassesDirectory config.artifactRoot) = true :=
    h _ (by simp [RunConfig.directories])
  unfold RunConfig.nameChecks
  cases config.granularity with
  | method => rfl
  | «class» => cases config.testNames <;> simp [htests]

theorem ready_iff : config.Ready s ↔ firstFault (config.checks s) = none := by
  simp only [RunConfig.checks, firstFault_append_eq_none_iff, firstFault_fileChecks_eq_none_iff]
  constructor
  · intro h
    obtain ⟨hchanges, hdescriptors, htests⟩ := forall_mem_files.mp h.texts
    refine ⟨⟨?_, ?_⟩, hdescriptors, hchanges, htests, ?_⟩
    · simpa [firstFault_eq_none_iff] using h.directories
    · simpa [firstFault_eq_none_iff] using fun path hpath => isFile_of_hasText (h.texts path hpath)
    · rw [firstFault_nameChecks h.directories]
      simpa [firstFault_fileChecks_eq_none_iff, Option.bind_eq_none_iff] using h.names
  · rintro ⟨⟨hdirs, -⟩, hdescriptors, hchanges, htests, hnames⟩
    have hdirs : ∀ path ∈ config.directories, s.isDirectory path = true := by
      simpa [firstFault_eq_none_iff] using hdirs
    rw [firstFault_nameChecks hdirs] at hnames
    refine ⟨hdirs, forall_mem_files.mpr ⟨hchanges, hdescriptors, htests⟩, ?_⟩
    simpa [firstFault_fileChecks_eq_none_iff, Option.bind_eq_none_iff] using hnames

theorem firstFault_fileChecks_eq_inputNotFound_iff {input : InputKind} {p path : String} :
    firstFault (s.fileChecks input p) = some (.inputNotFound path) ↔
      p = path ∧ s.isFile path = false := by
  simp only [Session.fileChecks, firstFault_cons, firstFault_nil]
  cases hfile : s.isFile p with
  | true =>
    refine iff_of_false ?_ ?_
    · cases (textOf? (s.read p)).isSome <;> simp
    · rintro ⟨rfl, hnone⟩
      exact Bool.noConfusion (hfile.symm.trans hnone)
  | false =>
    simp only [Bool.false_eq_true, if_false, Option.some.injEq, Error.inputNotFound.injEq]
    refine (and_iff_left_of_imp ?_).symm
    rintro rfl
    exact hfile

/-- A missing file is named after what every run needs; names are looked for last. -/
theorem firstFault_checks_eq_inputNotFound_iff {path : String} :
    firstFault (config.checks s) = some (.inputNotFound path) ↔
      config.firstMissing s = some path ∨
      config.firstMissing s = none ∧ (∀ p ∈ config.files, s.hasText p = true) ∧
        config.granularity = .class ∧ config.testNames = some path ∧ s.isFile path = false := by
  rw [firstFault_checks]
  cases hmissing : config.firstMissing s with
  | some missing => simp
  | none =>
    obtain ⟨hdirs, hfiles⟩ := firstMissing_eq_none_iff.mp hmissing
    obtain ⟨hchanges, hdescriptors, htests⟩ := forall_mem_files.mp hfiles
    rw [firstFault_append, firstFault_append, firstFault_append, firstFault_nameChecks hdirs,
      firstFault_fileChecks hchanges, firstFault_fileChecks hdescriptors,
      firstFault_fileChecks htests, forall_mem_files]
    by_cases hd : s.hasText config.descriptors = true
    · by_cases hc : s.hasText config.changes = true
      · by_cases ht : s.hasText config.tests = true
        · simp [hd, hc, ht, Option.bind_eq_some_iff, firstFault_fileChecks_eq_inputNotFound_iff]
        · simp [hd, hc, ht]
      · simp [hd, hc]
    · simp [hd]

/-! ### A run up to its first write -/

theorem on_plan : ∃ log, Act.on (plan config) s =
    (answer (config.checks s) (config.planned s), { s with log }) :=
  reads_plan.on_eq

/-- Behind the plan of a run there is only writing left that can fail. -/
theorem on_runSelection_of_plan {p : Plan} {planned : Session}
    (h : Act.on (plan config) s = (.ok p, planned)) :
    (∃ s' log, Act.on (writeAll p.files) planned = (.ok (p.files.map (·.path)), s') ∧
      Act.on (runSelection config) s = (.ok p.outcome, { s' with log })) ∨
    ∃ before f after e s', p.files = before ++ f :: after ∧ FailsAt planned before f e ∧
      Act.on (writeAll p.files) planned = (.error e, s') ∧
      Act.on (runSelection config) s = (.error e, s') := by
  rw [runSelection, Act.on_bind, h]
  simp only [Act.on_bind]
  rcases on_writeAll p.files planned with
    ⟨s', hok, -⟩ | ⟨before, f, after, e, s', hfiles, herr, hfail, -⟩
  · rw [hok]
    exact .inl ⟨s', _, rfl, rfl⟩
  · rw [herr]
    exact .inr ⟨before, f, after, e, s', hfiles, hfail, rfl, rfl⟩

/-- A run fails before it writes if and only if it does not find what it needs. It names the first
input that is missing and leaves the tree as it is. Any other run gets to write its files, whatever
the texts say, and fails only if one of them cannot be written. -/
theorem runSelection_until_writing (config : RunConfig) (s : Session) :
    match Act.on (plan config) s with
    | (.error e, s') =>
      ¬config.Ready s ∧ Act.on (runSelection config) s = (.error e, s') ∧ s'.tree = s.tree ∧
      ∀ path, e = .inputNotFound path ↔
        config.firstMissing s = some path ∨
        config.firstMissing s = none ∧ (∀ p ∈ config.files, s.hasText p = true) ∧
          config.granularity = .class ∧ config.testNames = some path ∧ s.isFile path = false
    | (.ok p, planned) =>
      config.Ready s ∧ planned.tree = s.tree ∧
      ((∃ s' log, Act.on (writeAll p.files) planned = (.ok (p.files.map (·.path)), s') ∧
        Act.on (runSelection config) s = (.ok p.outcome, { s' with log })) ∨
      ∃ before f after e s', p.files = before ++ f :: after ∧ FailsAt planned before f e ∧
        Act.on (writeAll p.files) planned = (.error e, s') ∧
        Act.on (runSelection config) s = (.error e, s')) := by
  obtain ⟨log, hplan⟩ : ∃ log, Act.on (plan config) s = _ := on_plan
  rw [hplan, answer]
  cases hfault : firstFault (config.checks s) with
  | some e =>
    refine ⟨fun h => ?_, ?_, rfl, fun path => ?_⟩
    · simp [ready_iff.mp h] at hfault
    · rw [runSelection, Act.on_bind, hplan, answer, hfault]
    · rw [← firstFault_checks_eq_inputNotFound_iff, hfault, Option.some.injEq]
  | none =>
    refine ⟨ready_iff.mpr hfault, rfl, ?_⟩
    rw [answer, hfault] at hplan
    exact on_runSelection_of_plan hplan

end Faults

end TestImpact
