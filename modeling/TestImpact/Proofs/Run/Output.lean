import TestImpact.Proofs.Files.Tree
import TestImpact.Proofs.Files.Writing
import TestImpact.Run

/-!
Files are written all or none. A finished list of files leaves at each place the text of the last
file for it; a list that fails leaves no file of those written before, and no other file changes.
-/
open TestImpact.Path

namespace TestImpact
open FileTree

namespace PendingFile

variable {f : PendingFile} {s : Session}

theorem on_put_of_ready (h : (s.tree.prepare s.cwd f.path).1 = true) :
    Act.on f.put s =
      let written := (s.tree.prepare s.cwd f.path).2.write s.cwd f.path f.text.toUTF8
      (.ok (if written.1 = true then none else some (.cannotWrite f.path)),
        s.withTree written.2 (grows_prepare.keeps.trans (keeps_write _))) := by
  unfold put
  cases hd : directory? f.path with
  | none =>
    simp only [prepare_of_no_directory hd, Act.on_bind, Act.on_pure, Session.on_write]
    split <;> simp_all [Act.on_pure]
  | some d =>
    rw [prepare_of_directory hd] at h
    simp only [prepare_of_directory hd, Act.on_bind, Session.on_makeDirectories, h, if_true,
      Act.on_pure, Session.on_write, Session.tree_withTree, Session.cwd_withTree]
    split <;> simp_all [Act.on_pure] <;> rfl

theorem on_put_of_not_ready (h : (s.tree.prepare s.cwd f.path).1 = false) :
    ∃ d, directory? f.path = some d ∧ Act.on f.put s =
      (.ok (some (.cannotCreateDirectory d)),
        s.withTree (s.tree.prepare s.cwd f.path).2 grows_prepare.keeps) := by
  unfold put
  cases hd : directory? f.path with
  | none => simp [prepare_of_no_directory hd] at h
  | some d =>
    rw [prepare_of_directory hd] at h
    refine ⟨d, rfl, ?_⟩
    simp [prepare_of_directory hd, Act.on_bind, Session.on_makeDirectories, h, Act.on_pure]

/-- What one file does to the tree. If it succeeds, the file holds the text and can be reached; if
it fails, no file is changed. -/
theorem put_spec (f : PendingFile) (s : Session) :
    ∃ failure tree hkeeps, Act.on f.put s = (.ok failure, s.withTree tree hkeeps) ∧
      Grows {q | q ∈ ancestors s.cwd f.path} s.tree tree ∧
      match failure with
      | none => (∃ x, tree.target s.cwd f.path = some x) ∧
          tree.file? = Function.update s.tree.file? (place s.cwd f.path) (some f.text.toUTF8)
      | some _ => tree.file? = s.tree.file? := by
  have hgrows : Grows {q | q ∈ ancestors s.cwd f.path} s.tree _ := grows_prepare
  have hfiles : (s.tree.prepare s.cwd f.path).2.file? = s.tree.file? := file?_prepare
  cases hready : (s.tree.prepare s.cwd f.path).1 with
  | false =>
    obtain ⟨d, -, hput⟩ := on_put_of_not_ready hready
    exact ⟨_, _, _, hput, hgrows, hfiles⟩
  | true =>
    refine ⟨_, _, _, on_put_of_ready hready, ?_⟩
    generalize (s.tree.prepare s.cwd f.path).2 = t at hgrows hfiles
    cases hdone : (t.write s.cwd f.path f.text.toUTF8).1 with
    | true =>
      obtain ⟨hwritten, hdirs⟩ := write_of_done hdone
      obtain ⟨d, n, htarget, -⟩ := (write_eq_true_iff _).mp hdone
      refine ⟨hgrows.trans (.of_eq hdirs), ⟨(d, n), ?_⟩, hfiles ▸ hwritten⟩
      exact target_of_keeps (fun q hq => hdirs ▸ hq) htarget
    | false =>
      rw [write_of_not_done hdone]
      exact ⟨hgrows, hfiles⟩

end PendingFile

/-! ### A list of files -/

/-- The last of the files for a place. -/
def lastFor (cwd : Place) (files : List PendingFile) (q : Place) : Option PendingFile :=
  (files.filter fun f => place cwd f.path = q).getLast?

/-- The directories that a list of files may need. -/
def directoriesOf (cwd : Place) (files : List PendingFile) : Set Place :=
  {q | ∃ f ∈ files, q ∈ ancestors cwd f.path}

/-- What the files of a list, written in order, make of a session. -/
structure Written (files : List PendingFile) (s s' : Session) : Prop where
  cwd_eq : s'.cwd = s.cwd
  grows : Grows (directoriesOf s.cwd files) s.tree s'.tree
  file?_eq : ∀ q, s'.tree.file? q = match lastFor s.cwd files q with
    | some f => some f.text.toUTF8
    | none => s.tree.file? q
  reached : ∀ f ∈ files, ∃ x, s'.tree.target s.cwd f.path = some x

/-- What a failed list makes of a session, if those files were written before the failure. -/
structure Undone (files written : List PendingFile) (s s' : Session) : Prop where
  cwd_eq : s'.cwd = s.cwd
  grows : Grows (directoriesOf s.cwd files) s.tree s'.tree
  file?_eq : ∀ q, s'.tree.file? q =
    if ∃ f ∈ written, place s.cwd f.path = q then none else s.tree.file? q

theorem lastFor_eq_none_iff {cwd q : Place} {files : List PendingFile} :
    lastFor cwd files q = none ↔ ∀ f ∈ files, place cwd f.path ≠ q := by
  simp [lastFor]

theorem lastFor_snoc {cwd q : Place} {files : List PendingFile} {f : PendingFile} :
    lastFor cwd (files ++ [f]) q =
      if q = place cwd f.path then some f else lastFor cwd files q := by
  unfold lastFor
  rw [List.filter_append]
  by_cases h : place cwd f.path = q
  · simp [h]
  · simp [h, Ne.symm h]

theorem directoriesOf_mono {cwd : Place} {files files' : List PendingFile} (h : files ⊆ files') :
    directoriesOf cwd files ⊆ directoriesOf cwd files' :=
  fun _ ⟨f, hf, hq⟩ => ⟨f, h hf, hq⟩

namespace Written
variable {files : List PendingFile} {f : PendingFile} {s s' s'' : Session}

theorem nil {s : Session} : Written [] s s where
  cwd_eq := rfl
  grows := .of_eq rfl
  file?_eq _ := rfl
  reached := by simp

/-- One more file. -/
theorem snoc (h : Written files s s') (hcwd : s''.cwd = s'.cwd)
    (hgrows : Grows {q | q ∈ ancestors s'.cwd f.path} s'.tree s''.tree)
    (htarget : ∃ x, s''.tree.target s'.cwd f.path = some x)
    (hfiles : s''.tree.file? =
      Function.update s'.tree.file? (place s'.cwd f.path) (some f.text.toUTF8)) :
    Written (files ++ [f]) s s'' where
  cwd_eq := hcwd.trans h.cwd_eq
  grows := by
    rw [h.cwd_eq] at hgrows
    refine (h.grows.mono (directoriesOf_mono (List.subset_append_left _ _))).trans (hgrows.mono ?_)
    exact fun q hq => ⟨f, List.mem_append_right _ (List.mem_singleton_self f), hq⟩
  file?_eq q := by
    rw [hfiles, Function.update_apply, h.cwd_eq, lastFor_snoc, h.file?_eq]
    by_cases hq : q = place s.cwd f.path <;> simp [hq]
  reached g hg := by
    rw [h.cwd_eq] at htarget
    rcases List.mem_append.mp hg with hg | hg
    · obtain ⟨x, hx⟩ := h.reached g hg
      exact ⟨x, target_of_keeps hgrows.keeps hx⟩
    · obtain rfl := List.mem_singleton.mp hg
      exact htarget

/-- Removing the files again leaves none of them. -/
theorem undone {list : List PendingFile} (h : Written files s s') (hlist : files ⊆ list)
    (hcwd : s''.cwd = s'.cwd) (hgrows : Grows (directoriesOf s.cwd list) s'.tree s''.tree)
    (hfiles : ∀ q, s''.tree.file? q =
      if ∃ f ∈ files, place s.cwd f.path = q then none else s'.tree.file? q) :
    Undone list files s s'' where
  cwd_eq := hcwd.trans h.cwd_eq
  grows := (h.grows.mono (directoriesOf_mono hlist)).trans hgrows
  file?_eq q := by
    simp only [hfiles, h.file?_eq]
    split
    · rfl
    · rename_i hnone
      rw [lastFor_eq_none_iff.mpr fun f hf hq => hnone ⟨f, hf, hq⟩]

end Written

theorem on_removeAll_cons (path : String) (paths : List String) (s : Session) :
    ∃ log, Act.on (TestImpact.removeAll (path :: paths)) s = Act.on (TestImpact.removeAll paths)
      { s.withTree (s.tree.remove s.cwd path).2 keeps_remove with log } := by
  rw [TestImpact.removeAll]
  simp only [Act.on_bind, Session.on_remove]
  split
  · simp only [Act.on_bind, Session.on_tell]
    exact ⟨_, rfl⟩
  · exact ⟨_, rfl⟩

/-- Files that can be reached are removed, and nothing else changes. -/
theorem on_removeAll (paths : List String) (s : Session)
    (h : ∀ p ∈ paths, ∃ x, s.tree.target s.cwd p = some x) :
    ∃ s', Act.on (TestImpact.removeAll paths) s = (.ok (), s') ∧ s'.cwd = s.cwd ∧
      s'.tree.isDirectory = s.tree.isDirectory ∧
      ∀ q, s'.tree.file? q = if ∃ p ∈ paths, place s.cwd p = q then none else s.tree.file? q := by
  induction paths generalizing s with
  | nil => exact ⟨s, rfl, rfl, rfl, by simp⟩
  | cons p rest ih =>
    obtain ⟨⟨d, n⟩, htarget⟩ := h p List.mem_cons_self
    obtain ⟨hfiles, hdirs⟩ := remove_of_target htarget
    obtain ⟨log, hstep⟩ := on_removeAll_cons p rest s
    have hreach : ∀ g ∈ rest, ∃ x, (s.tree.remove s.cwd p).2.target s.cwd g = some x := by
      intro g hg
      obtain ⟨x, hx⟩ := h g (List.mem_cons_of_mem p hg)
      exact ⟨x, target_of_keeps (fun q hq => hdirs ▸ hq) hx⟩
    obtain ⟨s', hrest, hcwd, hdirs', hfiles'⟩ :=
      ih { s.withTree (s.tree.remove s.cwd p).2 keeps_remove with log } hreach
    refine ⟨s', hstep.trans hrest, hcwd, hdirs'.trans hdirs, fun q => ?_⟩
    simp only [hfiles', Session.tree_withTree, Session.cwd_withTree, hfiles, Function.update_apply,
      List.mem_cons, exists_eq_or_imp]
    by_cases hq : q = place s.cwd p
    · simp [hq]
    · simp [hq, Ne.symm hq]

/-! ### The loop -/

theorem on_writeAfter_of_put {f : PendingFile} {s s' : Session}
    (h : Act.on f.put s = (.ok none, s')) (written : List String) (files : List PendingFile) :
    Act.on (writeAfter written (f :: files)) s = Act.on (writeAfter (written ++ [f.path]) files)
      { s' with log := s'.log ++ [.fileWritten f.path] } := by
  rw [writeAfter]
  simp only [Act.on_bind, h, Session.on_tell]

theorem on_writeAfter_of_failure {f : PendingFile} {s s' : Session} {e : Error}
    (h : Act.on f.put s = (.ok (some e), s')) (written : List String) (files : List PendingFile) :
    Act.on (writeAfter written (f :: files)) s =
      Act.on (TestImpact.removeAll written >>= fun _ => throw e) s' := by
  rw [writeAfter]
  simp only [Act.on_bind, h]

/-- The loop carries on from the files written so far, and either writes all that are left or
undoes those too. -/
theorem writeAfter_spec (files : List PendingFile) {done : List PendingFile} {start s : Session}
    (h : Written done start s) :
    (∃ s', Act.on (writeAfter (done.map (·.path)) files) s =
        (.ok ((done ++ files).map (·.path)), s') ∧ Written (done ++ files) start s') ∨
    ∃ before f after e s' s'', files = before ++ f :: after ∧
      Act.on (writeAfter (done.map (·.path)) files) s = (.error e, s'') ∧
      Act.on (writeAfter (done.map (·.path)) before) s =
        (.ok ((done ++ before).map (·.path)), s') ∧
      (Act.on f.put s').1 = .ok (some e) ∧
      Undone (done ++ files) (done ++ before) start s'' := by
  induction files generalizing done s with
  | nil => exact .inl ⟨s, by simp [writeAfter, Act.on_pure], by simpa using h⟩
  | cons f rest ih =>
    obtain ⟨failure, tree, hkeeps, hput, hgrows, hfiles⟩ := f.put_spec s
    cases failure with
    | none =>
      have hone : Written (done ++ [f]) start
          { s.withTree tree hkeeps with log := s.log ++ [.fileWritten f.path] } :=
        h.snoc rfl hgrows hfiles.1 hfiles.2
      have hpaths : (done ++ [f]).map (·.path) = done.map (·.path) ++ [f.path] := List.map_append
      have hrest := ih hone
      simp only [hpaths, List.append_assoc, List.singleton_append] at hrest
      rw [on_writeAfter_of_put hput]
      rcases hrest with hok | ⟨before, g, after, e, s', s'', rfl, herr, hbefore, hfail, hundone⟩
      · exact .inl hok
      · refine .inr ⟨f :: before, g, after, e, s', s'', rfl, herr, ?_, hfail, hundone⟩
        rw [on_writeAfter_of_put hput]
        exact hbefore
    | some e =>
      have hreach : ∀ p ∈ done.map (·.path), ∃ x, tree.target s.cwd p = some x := by
        intro p hp
        obtain ⟨g, hg, rfl⟩ := List.mem_map.mp hp
        obtain ⟨x, hx⟩ := h.reached g hg
        exact ⟨x, h.cwd_eq ▸ target_of_keeps hgrows.keeps hx⟩
      obtain ⟨s', hremoved, hcwd, hdirs, hleft⟩ :=
        on_removeAll (done.map (·.path)) (s.withTree tree hkeeps) hreach
      refine .inr ⟨[], f, rest, e, s, s', rfl, ?_, ?_, ?_, ?_⟩
      · rw [on_writeAfter_of_failure hput, Act.on_bind, hremoved]
        exact Act.on_throw e _
      · simp [writeAfter, Act.on_pure]
      · rw [hput]
      · rw [List.append_nil]
        refine h.undone (List.subset_append_left _ _) hcwd ?_ fun q => ?_
        · rw [h.cwd_eq] at hgrows
          refine (hgrows.mono ?_).trans (.of_eq hdirs)
          exact fun q hq => ⟨f, List.mem_append_right _ List.mem_cons_self, hq⟩
        · simp [hleft, hfiles, h.cwd_eq]

/-! ### All or none -/

/-- The list fails at `f`, for the reason `e`, when the files before it have been written. -/
def FailsAt (s : Session) (before : List PendingFile) (f : PendingFile) (e : Error) : Prop :=
  ∃ s', Act.on (writeAll before) s = (.ok (before.map (·.path)), s') ∧
    (Act.on f.put s').1 = .ok (some e)

theorem on_writeAll (files : List PendingFile) (s : Session) :
    (∃ s', Act.on (writeAll files) s = (.ok (files.map (·.path)), s') ∧ Written files s s') ∨
    ∃ before f after e s', files = before ++ f :: after ∧
      Act.on (writeAll files) s = (.error e, s') ∧ FailsAt s before f e ∧
      Undone files before s s' := by
  rcases writeAfter_spec files (.nil : Written [] s s) with
    hok | ⟨before, f, after, e, mid, s', hfiles, herr, hbefore, hfail, h⟩
  · exact .inl hok
  · exact .inr ⟨before, f, after, e, s', hfiles, herr, ⟨mid, hbefore, hfail⟩, h⟩

namespace Written
variable {files : List PendingFile} {s s' : Session}

theorem read_eq (h : Written files s s') {f : PendingFile} (hf : f ∈ files) :
    ∃ g, lastFor s.cwd files (place s.cwd f.path) = some g ∧
      s'.read f.path = some g.text.toUTF8 := by
  obtain ⟨x, hx⟩ := h.reached f hf
  rw [← h.cwd_eq] at hx
  rw [Session.read_of_target hx, h.cwd_eq, h.file?_eq]
  cases hlast : lastFor s.cwd files (place s.cwd f.path) with
  | some g => exact ⟨g, rfl, rfl⟩
  | none =>
    exact absurd rfl (lastFor_eq_none_iff.mp hlast f hf)

theorem file?_of_forall_ne (h : Written files s s') {q : Place}
    (hq : ∀ f ∈ files, place s.cwd f.path ≠ q) : s'.tree.file? q = s.tree.file? q := by
  rw [h.file?_eq, lastFor_eq_none_iff.mpr hq]

end Written

namespace Undone
variable {files written : List PendingFile} {s s' : Session}

theorem file?_of_mem (h : Undone files written s s') {f : PendingFile} (hf : f ∈ written) :
    s'.tree.file? (place s.cwd f.path) = none := by
  rw [h.file?_eq, if_pos ⟨f, hf, rfl⟩]

theorem isFile_of_mem (h : Undone files written s s') {f : PendingFile} (hf : f ∈ written) :
    s'.isFile f.path = false := by
  rw [Session.isFile_eq, Option.isSome_eq_false_iff, Option.isNone_iff_eq_none]
  cases hread : s'.read f.path with
  | none => rfl
  | some bytes =>
    have hfile := Session.file?_of_read hread
    rw [h.cwd_eq, h.file?_of_mem hf] at hfile
    simp at hfile

theorem file?_of_forall_ne (h : Undone files written s s') {q : Place}
    (hq : ∀ f ∈ written, place s.cwd f.path ≠ q) : s'.tree.file? q = s.tree.file? q := by
  rw [h.file?_eq, if_neg fun ⟨f, hf, he⟩ => hq f hf he]

/-- No text of a failed list is left. -/
theorem file?_of_some (h : Undone files written s s') {q : Place} {bytes : ByteArray}
    (hq : s'.tree.file? q = some bytes) : s.tree.file? q = some bytes := by
  rw [h.file?_eq] at hq
  split at hq
  · simp at hq
  · exact hq

/-- If no file was there before, all is as it was. -/
theorem file?_eq_of_new (h : Undone files written s s')
    (hnew : ∀ f ∈ written, s.tree.file? (place s.cwd f.path) = none) :
    s'.tree.file? = s.tree.file? := by
  funext q
  rw [h.file?_eq]
  split
  · rename_i hq
    obtain ⟨f, hf, rfl⟩ := hq
    exact (hnew f hf).symm
  · rfl

end Undone

/-- What a list of files that could be written leaves behind. -/
structure AllWritten (files : List PendingFile) (s s' : Session) (paths : List String) : Prop where
  paths_eq : paths = files.map (·.path)
  /-- The last of the files for a place is the one that is there. -/
  read_eq : ∀ f ∈ files, ∃ g, lastFor s.cwd files (place s.cwd f.path) = some g ∧
    s'.read f.path = some g.text.toUTF8
  file?_eq : ∀ q, (∀ f ∈ files, place s.cwd f.path ≠ q) → s'.tree.file? q = s.tree.file? q
  grows : Grows (directoriesOf s.cwd files) s.tree s'.tree

/-- What a list of files leaves behind that failed when the files before `f` had been written. -/
structure NoneWritten (before : List PendingFile) (f : PendingFile) (after : List PendingFile)
    (s s' : Session) (e : Error) : Prop where
  failsAt : FailsAt s before f e
  isFile_eq : ∀ g ∈ before, s'.isFile g.path = false
  file?_eq_none : ∀ g ∈ before, s'.tree.file? (place s.cwd g.path) = none
  file?_eq : ∀ q, (∀ g ∈ before, place s.cwd g.path ≠ q) → s'.tree.file? q = s.tree.file? q
  grows : Grows (directoriesOf s.cwd (before ++ f :: after)) s.tree s'.tree
  /-- No text of the list is left. -/
  file?_of_some : ∀ q bytes, s'.tree.file? q = some bytes → s.tree.file? q = some bytes
  file?_eq_of_new : (∀ g ∈ before, s.tree.file? (place s.cwd g.path) = none) →
    s'.tree.file? = s.tree.file?

theorem Written.allWritten {files : List PendingFile} {s s' : Session} (h : Written files s s') :
    AllWritten files s s' (files.map (·.path)) where
  paths_eq := rfl
  read_eq _ hf := h.read_eq hf
  file?_eq _ hq := h.file?_of_forall_ne hq
  grows := h.grows

theorem Undone.noneWritten {before after : List PendingFile} {f : PendingFile} {s s' : Session}
    {e : Error} (h : Undone (before ++ f :: after) before s s') (hfail : FailsAt s before f e) :
    NoneWritten before f after s s' e where
  failsAt := hfail
  isFile_eq _ hg := h.isFile_of_mem hg
  file?_eq_none _ hg := h.file?_of_mem hg
  file?_eq _ hq := h.file?_of_forall_ne hq
  grows := h.grows
  file?_of_some _ _ hq := h.file?_of_some hq
  file?_eq_of_new := h.file?_eq_of_new

/-- Writing a list of files either leaves each of them with the last text for it and answers with
their paths, or fails at one of them and leaves none of those before it. No other file changes, and
new directories lie on the way to the files. -/
theorem writeAll_all_or_none (files : List PendingFile) (s : Session) :
    match Act.on (writeAll files) s with
    | (.ok paths, s') => AllWritten files s s' paths
    | (.error e, s') =>
      ∃ before f after, files = before ++ f :: after ∧ NoneWritten before f after s s' e := by
  rcases on_writeAll files s with
    ⟨s', hok, h⟩ | ⟨before, f, after, e, s', rfl, herr, hfail, h⟩
  · rw [hok]
    exact h.allWritten
  · rw [herr]
    exact ⟨before, f, after, rfl, h.noneWritten hfail⟩

/-- Two spellings of one file, and a file that stands where a later one needs a directory. -/
theorem writeAll_again_and_blocked :
    let s := Session.ofTree .empty
    let again : List PendingFile := [⟨"a/x", "1"⟩, ⟨"b", "2"⟩, ⟨"a/./x", "3"⟩]
    let blocked := again ++ [⟨"b/y", "4"⟩]
    (∃ s', Act.on (writeAll again) s = (.ok ["a/x", "b", "a/./x"], s') ∧
      s'.read "a/x" = some "3".toUTF8) ∧
    ∃ s', Act.on (writeAll blocked) s = (.error (.cannotCreateDirectory "b"), s') ∧
      s'.tree.file? = s.tree.file? := by
  intro s again blocked
  constructor
  · have hok : (Act.on (writeAll again) s).1 = .ok ["a/x", "b", "a/./x"] := by decide +kernel
    have hlast : lastFor s.cwd again (place s.cwd "a/x") = some ⟨"a/./x", "3"⟩ := by decide +kernel
    have hmem : (⟨"a/x", "1"⟩ : PendingFile) ∈ again := List.mem_cons_self
    clear_value again
    have h := writeAll_all_or_none again s
    rw [show Act.on (writeAll again) s = (.ok ["a/x", "b", "a/./x"], _) from Prod.ext hok rfl] at h
    obtain ⟨g, hg, hread⟩ := h.read_eq _ hmem
    obtain rfl := Option.some.inj (hg.symm.trans hlast)
    exact ⟨_, Prod.ext hok rfl, hread⟩
  · have herr : (Act.on (writeAll blocked) s).1 = .error (.cannotCreateDirectory "b") := by
      decide +kernel
    clear_value blocked
    have h := writeAll_all_or_none blocked s
    rw [show Act.on (writeAll blocked) s = (.error (.cannotCreateDirectory "b"), _) from
      Prod.ext herr rfl] at h
    obtain ⟨before, f, after, -, hnone⟩ := h
    refine ⟨_, Prod.ext herr rfl, hnone.file?_eq_of_new fun g _ => ?_⟩
    cases place s.cwd g.path <;> rfl

end TestImpact
