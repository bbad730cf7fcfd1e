import TestImpact.Proofs.Record.Grammar
import TestImpact.Proofs.Record.Groups
import TestImpact.Record

/-!
Records read back from their text. The lines of a text fall apart into its records again, and a
record into its frames, unless a hyphen in a frame cuts it in two; then the record is refused.
-/
namespace TestImpact.Record
open Text

/-! ### Tokens -/

theorem frames_of_token {token rest : List Char} (h : separator ∉ token)
    (hblank : allBlank token = false) :
    frames (String.ofList (token ++ separator :: rest)) = (do
      let f ← Frame.parse (String.ofList token)
      let fs ← frames (String.ofList rest)
      return f :: fs) := by
  unfold frames
  rw [String.toList_ofList, String.toList_ofList, splitOn_eq, splitOn_eq,
    List.splitOn_append_cons_self, List.splitOn_eq_singleton h, List.singleton_append,
    List.filter_cons_of_pos (by simp [hblank]), List.mapM_cons]

theorem frames_of_last_token {token : List Char} (h : separator ∉ token)
    (hblank : allBlank token = false) :
    frames (String.ofList token) = (do
      let f ← Frame.parse (String.ofList token)
      return [f]) := by
  unfold frames
  rw [String.toList_ofList, splitOn_eq, List.splitOn_eq_singleton h,
    List.filter_cons_of_pos (by simp [hblank])]
  simp

section Frames
variable {f : Frame} {before after : List Char}

/-- A token with a reference is no blank. -/
theorem allBlank_of_opening (before after : List Char) :
    allBlank (before ++ Frame.opening ++ after) = false :=
  List.all_eq_false.mpr ⟨'<', by simp [Frame.opening], by decide⟩

theorem allBlank_of_text : allBlank (before ++ f.text.toList ++ after) = false := by
  rw [Frame.token_eq, allBlank_of_opening]

/-- A frame without a hyphen is read, and the rest of the record after it. -/
theorem frames_of_text (hf : f.Writable) (hbefore : ¬ Frame.opening <:+: before)
    (hsep : separator ∉ before) (hwhole : ¬ f.HoldsSeparator) (hafter : separator ∉ after)
    (rest : List Char) :
    frames (String.ofList (before ++ f.text.toList ++ after ++ separator :: rest)) = (do
      let fs ← frames (String.ofList rest)
      return f :: fs) := by
  rw [frames_of_token (by simp [hsep, hafter, Frame.separator_mem_text_iff, hwhole])
    allBlank_of_text, Frame.parse_text hf after hbefore]
  rfl

theorem frames_of_last_text (hf : f.Writable) (hbefore : ¬ Frame.opening <:+: before)
    (hsep : separator ∉ before) (hwhole : ¬ f.HoldsSeparator) (hafter : separator ∉ after) :
    frames (String.ofList (before ++ f.text.toList ++ after)) = .ok [f] := by
  rw [frames_of_last_token (by simp [hsep, hafter, Frame.separator_mem_text_iff, hwhole])
    allBlank_of_text, Frame.parse_text hf after hbefore]
  rfl

/-- A frame with a hyphen breaks off there, and nothing is read. -/
theorem frames_of_broken (hf : f.Writable) (hbefore : ¬ Frame.opening <:+: before)
    (hsep : separator ∉ before) (hbroken : f.HoldsSeparator) :
    ∃ token, frames (String.ofList (before ++ f.text.toList ++ after)) =
      .error (.malformedAt .unterminated token) := by
  obtain ⟨part, rest, hinside, hpart⟩ :=
    List.eq_append_cons_of_mem (Frame.separator_mem_inside_iff.mpr hbroken)
  have hclosing : ¬ Frame.closing <:+: part := by
    refine fun h => hf.no_closing (h.trans ?_)
    exact hinside ▸ (List.prefix_append _ _).isInfix
  have hopening : separator ∉ Frame.opening := by decide
  have htext : before ++ f.text.toList ++ after =
      before ++ Frame.opening ++ part ++ separator :: (rest ++ Frame.closing ++ after) := by
    rw [Frame.token_eq, hinside]
    simp only [List.append_assoc, List.cons_append]
  refine ⟨String.ofList (before ++ Frame.opening ++ part), ?_⟩
  rw [htext, frames_of_token (by simp [hsep, hopening, hpart]) (allBlank_of_opening _ _),
    Frame.parse_of_broken hbefore hclosing]
  rfl

end Frames

/-! ### Records -/

/-- A call that can be written. -/
structure Call.Writable (c : Call) : Prop where
  frame : c.frame.Writable
  place : ∀ d ∈ c.place.toList, d.isDigit = true

instance : DecidablePred Call.Writable := fun c =>
  decidable_of_iff (c.frame.Writable ∧ c.place.toList.all Char.isDigit = true)
    ⟨fun ⟨hf, hp⟩ => ⟨hf, List.all_eq_true.mp hp⟩, fun ⟨hf, hp⟩ => ⟨hf, List.all_eq_true.mpr hp⟩⟩

theorem Call.Writable.not_mem_place {c : Call} (h : c.Writable) {x : Char} (hat : x ≠ '@')
    (hdigit : x.isDigit = false) : x ∉ '@' :: c.place.toList := by
  rw [List.mem_cons, not_or]
  refine ⟨hat, fun hmem => ?_⟩
  exact Bool.noConfusion (hdigit.symm.trans (h.place x hmem))

/-- The lines of calls, behind the line of their method. -/
def callLines (calls : List Call) : List Char := calls.flatMap fun c => '\n' :: c.text.toList

theorem Call.toList_text (c : Call) : c.text.toList = [' ', separator] ++
    " invokevirtual ".toList ++ c.frame.text.toList ++ '@' :: c.place.toList := by
  have hstart : " -".toList = [' ', separator] := by decide +kernel
  have hat : "@".toList = ['@'] := by decide +kernel
  unfold Call.text
  simp only [String.toList_append, hstart, hat, List.append_assoc, List.singleton_append]

theorem callLines_cons (c : Call) (calls : List Call) : callLines (c :: calls) =
    ['\n', ' '] ++ separator :: (" invokevirtual ".toList ++ c.frame.text.toList ++
      ('@' :: c.place.toList ++ callLines calls)) := by
  rw [callLines, List.flatMap_cons, Call.toList_text, callLines]
  simp only [List.append_assoc, List.cons_append, List.nil_append]

/-- A record is read frame by frame, or breaks off at the first frame with a hyphen. -/
theorem frames_of_calls {calls : List Call} {f : Frame} {before after : List Char}
    (hcalls : ∀ c ∈ calls, c.Writable) (hf : f.Writable) (hbefore : ¬ Frame.opening <:+: before)
    (hsep : separator ∉ before) (hafter : separator ∉ after) :
    (∀ g ∈ f :: calls.map (·.frame), ¬ g.HoldsSeparator) ∧
      frames (String.ofList (before ++ f.text.toList ++ (after ++ callLines calls))) =
        .ok (f :: calls.map (·.frame)) ∨
    (∃ g ∈ f :: calls.map (·.frame), g.HoldsSeparator) ∧
      ∃ token, frames (String.ofList (before ++ f.text.toList ++ (after ++ callLines calls))) =
        .error (.malformedAt .unterminated token) := by
  induction calls generalizing f before after with
  | nil =>
    by_cases hwhole : f.HoldsSeparator
    · exact .inr ⟨⟨f, List.mem_cons_self, hwhole⟩, frames_of_broken hf hbefore hsep hwhole⟩
    · refine .inl ⟨by simpa using hwhole, ?_⟩
      exact frames_of_last_text hf hbefore hsep hwhole (by simpa [callLines] using hafter)
  | cons c calls ih =>
    by_cases hwhole : f.HoldsSeparator
    · exact .inr ⟨⟨f, List.mem_cons_self, hwhole⟩, frames_of_broken hf hbefore hsep hwhole⟩
    · obtain ⟨hc, hcalls⟩ := List.forall_mem_cons.mp hcalls
      have hopening : ¬ Frame.opening <:+: " invokevirtual ".toList := by decide +kernel
      have hrest := ih hcalls hc.frame hopening (by decide +kernel)
        (hc.not_mem_place (by decide) (by decide))
      -- the start of the next line still belongs to the token of this frame
      have htext : before ++ f.text.toList ++ (after ++ callLines (c :: calls)) =
          before ++ f.text.toList ++ (after ++ ['\n', ' ']) ++ separator ::
            (" invokevirtual ".toList ++ c.frame.text.toList ++
              ('@' :: c.place.toList ++ callLines calls)) := by
        simp [callLines_cons]
      rw [htext, frames_of_text hf hbefore hsep hwhole (by simpa [separator] using hafter)]
      rcases hrest with ⟨hnone, hok⟩ | ⟨hsome, token, herr⟩
      · rw [hok]
        exact .inl ⟨List.forall_mem_cons.mpr ⟨hwhole, hnone⟩, rfl⟩
      · rw [herr]
        obtain ⟨g, hg, hbroken⟩ := hsome
        exact .inr ⟨⟨g, List.mem_cons_of_mem f hg, hbroken⟩, token, rfl⟩

/-! ### Lines -/

/-- A record that can be written. -/
structure Contents.Writable (r : Contents) : Prop where
  method : r.method.Writable
  calls : ∀ c ∈ r.calls, c.Writable

instance : DecidablePred Contents.Writable := fun r =>
  decidable_of_iff (r.method.Writable ∧ ∀ c ∈ r.calls, c.Writable)
    ⟨fun ⟨hm, hc⟩ => ⟨hm, hc⟩, fun ⟨hm, hc⟩ => ⟨hm, hc⟩⟩

/-- A line that says something and is found again as it is. -/
structure IsLine (l : List Char) : Prop where
  no_newline : '\n' ∉ l
  no_return : l.getLast? ≠ some '\r'
  allBlank_eq : allBlank l = false

theorem IsLine.found {l : List Char} (h : IsLine l) :
    '\n' ∉ l ∧ l ≠ [] ∧ l.getLast? ≠ some '\r' := by
  refine ⟨h.no_newline, ?_, h.no_return⟩
  rintro rfl
  exact Bool.noConfusion h.allBlank_eq

theorem isLine_of_text {f : Frame} {before after : List Char} (hf : f.Writable)
    (hbefore : '\n' ∉ before) (hafter : '\n' ∉ after) (hend : '\r' ∉ after) (hne : after ≠ []) :
    IsLine (before ++ f.text.toList ++ after) where
  no_newline := by
    simp only [List.mem_append, hbefore, hf.newline_not_mem, hafter, or_self, not_false_eq_true]
  no_return := by
    rw [List.getLast?_append, List.getLast?_eq_some_getLast hne, Option.some_or, Ne,
      Option.some.injEq]
    exact fun he => hend (he ▸ List.getLast_mem hne)
  allBlank_eq := allBlank_of_text

theorem Call.Writable.isLine {c : Call} (h : c.Writable) : IsLine c.text.toList := by
  rw [Call.toList_text]
  exact isLine_of_text h.frame (by decide +kernel) (h.not_mem_place (by decide) (by decide))
    (h.not_mem_place (by decide) (by decide)) (List.cons_ne_nil _ _)

theorem startsBlank_callText (c : Call) : startsBlank c.text.toList = true := by
  rw [Call.toList_text]
  rfl

namespace Contents
variable {r : Contents}

theorem lines_eq (r : Contents) : r.lines.map String.toList =
    ("Node: ".toList ++ r.method.text.toList ++ " Context: Everywhere".toList) ::
      r.calls.map fun c => c.text.toList := by
  unfold lines
  simp only [List.map_cons, List.map_map, String.toList_append]
  rfl

theorem toList_text_eq_intercalate (r : Contents) :
    r.text.toList = List.intercalate ['\n'] (r.lines.map String.toList) :=
  String.toList_intercalate

theorem toList_text (r : Contents) : r.text.toList = "Node: ".toList ++ r.method.text.toList ++
    (" Context: Everywhere".toList ++ callLines r.calls) := by
  rw [toList_text_eq_intercalate, lines_eq, intercalate_cons, callLines, List.flatMap_map,
    List.append_assoc, List.append_assoc]

theorem Writable.isLine (h : r.Writable) : ∀ l ∈ r.lines.map String.toList, IsLine l := by
  rw [lines_eq, List.forall_mem_cons]
  refine ⟨isLine_of_text h.method ?_ ?_ ?_ ?_, fun l hl => ?_⟩
  · decide +kernel
  · decide +kernel
  · decide +kernel
  · decide +kernel
  · obtain ⟨c, hc, rfl⟩ := List.mem_map.mp hl
    exact (h.calls c hc).isLine

theorem isGroup_lines (r : Contents) : IsGroup (r.lines.map String.toList) := by
  refine ⟨_, _, r.lines_eq, rfl, fun l hl => ?_⟩
  obtain ⟨c, -, rfl⟩ := List.mem_map.mp hl
  exact startsBlank_callText c

end Contents

/-! ### Reading back -/

/-- Joining records joins their lines. -/
theorem intercalate_text (records : List Contents) :
    String.intercalate "\n" (records.map Contents.text) =
      String.intercalate "\n" (records.flatMap Contents.lines) := by
  induction records with
  | nil => rfl
  | cons r rest ih =>
    cases rest with
    | nil => simp [Contents.text]
    | cons r' rest =>
      have hr : r.lines ≠ [] := List.cons_ne_nil _ _
      have hrest : (r' :: rest).flatMap Contents.lines ≠ [] := List.cons_ne_nil _ _
      rw [List.flatMap_cons, String.intercalate_append_of_ne_nil hr hrest, ← ih,
        List.map_cons, String.intercalate_cons_of_ne_nil (by simp), Contents.text]

/-- The lines of a text fall apart into the records that were written. -/
theorem split_intercalate_text {records : List Contents} (h : ∀ r ∈ records, r.Writable) :
    split (String.intercalate "\n" (records.map Contents.text)) = records.map Contents.text := by
  have hjoined : (String.intercalate "\n" (records.map Contents.text)).toList =
      List.intercalate ['\n'] (records.map fun r => r.lines.map String.toList).flatten := by
    rw [intercalate_text, String.toList_intercalate, List.map_flatMap, List.flatMap_def]
    rfl
  have hlines : ∀ l ∈ (records.map fun r => r.lines.map String.toList).flatten, IsLine l := by
    intro l hl
    obtain ⟨ls, hls, hl⟩ := List.mem_flatten.mp hl
    obtain ⟨r, hr, rfl⟩ := List.mem_map.mp hls
    exact (h r hr).isLine l hl
  have hgroups : ∀ ls ∈ records.map fun r => r.lines.map String.toList, IsGroup ls := by
    intro ls hls
    obtain ⟨r, -, rfl⟩ := List.mem_map.mp hls
    exact r.isGroup_lines
  rw [split, hjoined, lines_intercalate fun l hl => (hlines l hl).found,
    List.filter_eq_self.mpr fun l hl => by simp [(hlines l hl).allBlank_eq],
    groups_flatten hgroups, List.map_map]
  refine List.map_congr_left fun r _ => ?_
  rw [Function.comp_apply, ← r.toList_text_eq_intercalate, String.ofList_toList]

/-- What was written is read back: the text of a list of records as these records, and each record
as its frames. A record with a hyphen in a frame is refused; it never reads as other frames. -/
theorem split_and_frames_of_written {records : List Contents} (h : ∀ r ∈ records, r.Writable) :
    split (String.intercalate "\n" (records.map Contents.text)) = records.map Contents.text ∧
    ∀ r ∈ records,
      ((∀ f ∈ r.frames, ¬ f.HoldsSeparator) → frames r.text = .ok r.frames) ∧
      ((∃ f ∈ r.frames, f.HoldsSeparator) →
        ∃ token, frames r.text = .error (.malformedAt .unterminated token)) := by
  refine ⟨split_intercalate_text h, fun r hr => ?_⟩
  have hopening : ¬ Frame.opening <:+: "Node: ".toList := by decide +kernel
  have hread := frames_of_calls (h r hr).calls (h r hr).method hopening (by decide +kernel)
    (by decide +kernel : separator ∉ " Context: Everywhere".toList)
  rw [← Contents.toList_text, String.ofList_toList] at hread
  rcases hread with ⟨hnone, hok⟩ | ⟨⟨g, hg, hbroken⟩, herr⟩
  · refine ⟨fun _ => hok, fun ⟨f, hf, hbroken⟩ => absurd hbroken (hnone f hf)⟩
  · exact ⟨fun hnone => absurd hbroken (hnone g hg), fun _ => herr⟩

/-- Commas inside a selector and marks at the ends of fields do no harm; a hyphen does. -/
theorem split_and_frames_of_two_records :
    let call : Call := ⟨⟨.primordial, ⟨"< ", "<init>"⟩⟩, "07"⟩
    let plain : Contents := ⟨⟨.application, ⟨"LA,", "f(I, J) "⟩⟩, [call]⟩
    let broken : Contents := ⟨⟨.application, ⟨"LB", "g-1"⟩⟩, []⟩
    split (plain.text ++ "\n" ++ broken.text) = [plain.text, broken.text] ∧
      frames plain.text = .ok plain.frames ∧
      ∃ token, frames broken.text = .error (.malformedAt .unterminated token) := by
  intro call plain broken
  have hwritable : ∀ r ∈ [plain, broken], r.Writable := by decide +kernel
  obtain ⟨hsplit, hframes⟩ := split_and_frames_of_written hwritable
  refine ⟨?_, (hframes plain (by simp)).1 (by decide +kernel), (hframes broken (by simp)).2 ?_⟩
  · simpa using hsplit
  · exact ⟨broken.method, List.mem_cons_self, by decide +kernel⟩

end TestImpact.Record
