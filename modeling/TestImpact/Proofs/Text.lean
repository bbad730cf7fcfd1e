import TestImpact.Node
import TestImpact.Text
import Mathlib.Data.List.DropRight
import Mathlib.Data.List.Infix
import Mathlib.Order.Compare

/-! Texts: what trimming and splitting leave, and their order. -/
namespace TestImpact.Text
open Std

/-! ## Blanks

Trimmed texts. Trimming leaves a piece of the text with no blank at its ends, and does nothing to a
text that is trimmed already. Its first word ends where it is cut. -/

section Blanks
/-- No blank stands at either end. -/
structure IsTrimmed (s : List Char) : Prop where
  head : ∀ c ∈ s.head?, isBlank c = false
  last : ∀ c ∈ s.getLast?, isBlank c = false

variable {s : List Char}

theorem trimStart_of_head (h : ∀ c ∈ s.head?, isBlank c = false) : trimStart s = s := by
  cases s with
  | nil => rfl
  | cons c r =>
    have hc : isBlank c = false := h c rfl
    rw [trimStart, List.dropWhile_cons_of_neg (Bool.eq_false_iff.mp hc)]

theorem trimEnd_of_last (h : ∀ c ∈ s.getLast?, isBlank c = false) : trimEnd s = s := by
  rw [trimEnd, ← trimStart, trimStart_of_head, List.reverse_reverse]
  simpa using h

theorem IsTrimmed.trim_eq (h : IsTrimmed s) : trim s = s := by
  rw [trim, trimStart_of_head h.head, trimEnd_of_last h.last]

theorem isPrefix_trimEnd (s : List Char) : trimEnd s <+: s := List.rdropWhile_prefix isBlank s

theorem isInfix_trim (s : List Char) : trim s <:+: s :=
  (isPrefix_trimEnd _).isInfix.trans (List.dropWhile_suffix isBlank).isInfix

theorem isBlank_of_mem_head?_trimStart {c : Char} (h : c ∈ (trimStart s).head?) :
    isBlank c = false := by
  have hfirst := List.head?_dropWhile_not isBlank s
  rwa [← trimStart, Option.mem_def.mp h] at hfirst

theorem isTrimmed_trim (s : List Char) : IsTrimmed (trim s) where
  head := by
    intro c hc
    obtain ⟨rest, hrest⟩ := isPrefix_trimEnd (trimStart s)
    have hstart : c ∈ (trimStart s).head? := by
      rw [← hrest, ← trim, List.head?_append, Option.mem_def.mp hc]
      rfl
    exact isBlank_of_mem_head?_trimStart hstart
  last := by
    intro c hc
    rw [trim, trimEnd, List.getLast?_reverse, ← trimStart] at hc
    exact isBlank_of_mem_head?_trimStart hc

/-- Nothing is left of a text of blanks, and of no other. -/
theorem trim_eq_nil_iff : trim s = [] ↔ ∀ c ∈ s, isBlank c = true := by
  rw [trim, trimEnd, List.reverse_eq_nil_iff, List.dropWhile_eq_nil_iff]
  simp only [List.mem_reverse]
  constructor
  · intro h c hc
    rw [← List.takeWhile_append_dropWhile (p := isBlank) (l := s)] at hc
    rcases List.mem_append.mp hc with hc | hc
    · exact List.mem_takeWhile_imp hc
    · exact h c hc
  · exact fun h c hc => h c (List.dropWhile_subset _ hc)

/-- Behind the first blank of a trimmed text more than blanks follow: its last character is none. -/
theorem IsTrimmed.trim_dropWhile_eq_nil_iff (h : IsTrimmed s) :
    trim (s.dropWhile (!isBlank ·)) = [] ↔ ∀ c ∈ s, isBlank c = false := by
  have hwords : s.dropWhile (!isBlank ·) = [] ↔ ∀ c ∈ s, isBlank c = false := by
    simp [List.dropWhile_eq_nil_iff]
  rw [trim_eq_nil_iff, ← hwords]
  constructor
  · intro hall
    rcases List.eq_nil_or_concat (s.dropWhile (!isBlank ·)) with hnil | ⟨front, d, hrest⟩
    · exact hnil
    · rw [List.concat_eq_append] at hrest
      have hlast : d ∈ s.getLast? := by
        rw [← List.takeWhile_append_dropWhile (p := (!isBlank ·)) (l := s), hrest,
          ← List.append_assoc, List.getLast?_concat]
        rfl
      have hd : isBlank d = true := hall d (by simp [hrest])
      exact absurd hd (by simp [h.last d hlast])
  · intro hnil c hc
    simp [hnil] at hc

theorem trim_cons_of_isBlank {c : Char} (h : isBlank c = true) (r : List Char) :
    trim (c :: r) = trim r := by
  rw [trim, trim, trimStart, List.dropWhile_cons_of_pos h, ← trimStart]

/-! ### At the first blank -/

theorem isBlank_of_dropWhile_eq_cons {b : Char} {rest : List Char}
    (h : s.dropWhile (!isBlank ·) = b :: rest) : isBlank b = true := by
  have hfirst := List.head?_dropWhile_not (!isBlank ·) s
  rw [h] at hfirst
  simpa using hfirst

theorem splitOnP_isBlank (s : List Char) :
    ∃ more, s.splitOnP isBlank = s.takeWhile (!isBlank ·) :: more := by
  induction s with
  | nil => exact ⟨[], rfl⟩
  | cons c r ih =>
    obtain ⟨more, hmore⟩ := ih
    rw [List.splitOnP_cons_eq_if_modifyHead, hmore]
    by_cases hc : isBlank c = true <;> simp [hc]

/-- A text that does not start with a blank starts with its first word. -/
theorem head?_words (h : ∀ c ∈ s.head?, isBlank c = false) :
    (words s).head? = if s = [] then none else some (s.takeWhile (!isBlank ·)) := by
  cases s with
  | nil => rfl
  | cons c r =>
    obtain ⟨more, hmore⟩ := splitOnP_isBlank (c :: r)
    have hc : isBlank c = false := h c rfl
    rw [words, hmore, if_neg (List.cons_ne_nil c r)]
    simp [hc]

theorem cutAtBlank?_eq (s : List Char) : cutAtBlank? s =
    (s.dropWhile (!isBlank ·)).tail?.map fun rest => (s.takeWhile (!isBlank ·), rest) := by
  induction s with
  | nil => rfl
  | cons c r ih => by_cases hc : isBlank c = true <;> simp [cutAtBlank?, hc, ih, Function.comp_def]

end Blanks

/-! ## Pieces

Where a text is cut. Splitting at all separators is the library's `List.splitOn`; a mark of two
different characters is found at its first occurrence, and none straddles the mark itself. Lines
that were joined or finished are found again. -/

theorem splitOn_eq (sep : Char) (s : List Char) : splitOn sep s = s.splitOn sep := by
  induction s with
  | nil => rw [splitOn_nil, List.splitOn_nil]
  | cons c r ih =>
    rw [List.splitOn_cons_eq_if_modifyHead, ← ih]
    by_cases h : c = sep
    · subst h
      rw [splitOn_cons_self, if_pos (beq_self_eq_true c)]
    · obtain ⟨p, ps, hps⟩ := List.exists_cons_of_ne_nil (splitOn_ne_nil sep r)
      rw [if_neg fun he => h (eq_of_beq he), hps]
      simp only [splitOn] at hps
      simp [splitOn, h, hps]

/-- No piece holds the separator. -/
theorem not_mem_of_mem_splitOn {sep : Char} {p s : List Char} (h : p ∈ splitOn sep s) :
    sep ∉ p := by
  induction s generalizing p with
  | nil =>
    obtain rfl : p = [] := by simpa [splitOn_nil] using h
    simp
  | cons c r ih =>
    rw [splitOn_eq, List.splitOn_cons_eq_if_modifyHead, ← splitOn_eq] at h
    split at h
    · rcases List.mem_cons.mp h with rfl | h
      · simp
      · exact ih h
    · rename_i hc
      obtain ⟨q, qs, hqs⟩ := List.exists_cons_of_ne_nil (splitOn_ne_nil sep r)
      rw [hqs, List.modifyHead_cons] at h
      rcases List.mem_cons.mp h with rfl | h
      · have hq : sep ∉ q := ih (hqs ▸ List.mem_cons_self)
        simpa [hq] using fun he => hc (beq_iff_eq.mpr he.symm)
      · exact ih (hqs ▸ List.mem_cons_of_mem q h)

/-- A text falls apart at its first mark in just one way. -/
theorem append_cons_inj_of_first {x : Char} {s s' t t' : List Char} (hs : x ∉ s) (hs' : x ∉ s') :
    s ++ x :: t = s' ++ x :: t' ↔ s = s' ∧ t = t' := by
  constructor
  · intro h
    rcases List.append_eq_append_iff.mp h with ⟨r, rfl, hr⟩ | ⟨r, rfl, hr⟩
    · rcases List.cons_eq_append_iff.mp hr with ⟨rfl, ht⟩ | ⟨u, rfl, -⟩
      · exact ⟨by simp, (List.cons.inj ht).2.symm⟩
      · simp at hs'
    · rcases List.cons_eq_append_iff.mp hr with ⟨rfl, ht⟩ | ⟨u, rfl, -⟩
      · exact ⟨by simp, (List.cons.inj ht).2⟩
      · simp at hs
  · rintro ⟨rfl, rfl⟩
    rfl

/-- A text falls apart at its last mark in just one way. -/
theorem append_cons_inj_of_last {x : Char} {s s' t t' : List Char} (ht : x ∉ t) (ht' : x ∉ t') :
    s ++ x :: t = s' ++ x :: t' ↔ s = s' ∧ t = t' := by
  have hfirst : t.reverse ++ x :: s.reverse = t'.reverse ++ x :: s'.reverse ↔
      t.reverse = t'.reverse ∧ s.reverse = s'.reverse :=
    append_cons_inj_of_first (by simpa using ht) (by simpa using ht')
  rw [← List.reverse_inj]
  simp only [List.reverse_append, List.reverse_cons, List.append_assoc, List.singleton_append,
    hfirst, List.reverse_inj]
  exact and_comm

/-! ### Cutting at the first occurrence -/

/-- A mark of two different characters is found where it stands, unless the text before it holds it
already: no occurrence straddles the start of the mark. -/
theorem cut?_mark {x y : Char} (hxy : x ≠ y) {before : List Char} (after : List Char)
    (h : ¬ [x, y] <:+: before) :
    cut? [x, y] (before ++ [x, y] ++ after) = some (before, after) := by
  induction before with
  | nil => simp [cut?]
  | cons c r ih =>
    obtain ⟨hstart, hrest⟩ := not_or.mp (mt List.infix_cons_iff.mpr h)
    have hnone : [x, y].isPrefixOf (c :: (r ++ [x, y] ++ after)) = false := by
      cases r with
      | nil => simp [List.isPrefixOf, hxy.symm]
      | cons d r => simpa [List.isPrefixOf] using hstart
    rw [List.cons_append, List.cons_append, cut?, hnone, ih hrest]
    rfl

/-- What stands before a cut does not hold the separator. -/
theorem not_infix_of_cut? {sep s before after : List Char} (hsep : sep ≠ [])
    (h : cut? sep s = some (before, after)) : ¬ sep <:+: before := by
  induction s generalizing before with
  | nil => simp [cut?, hsep] at h
  | cons c r ih =>
    rw [cut?] at h
    split at h
    · cases h
      simpa using hsep
    · rename_i hstart
      obtain ⟨⟨b, a⟩, hcut, he⟩ := Option.map_eq_some_iff.mp h
      cases he
      rw [List.infix_cons_iff, not_or]
      refine ⟨fun hprefix => hstart ?_, ih hcut⟩
      rw [List.isPrefixOf_iff_prefix, eq_append_of_cut? hcut, List.append_assoc]
      exact hprefix.trans (List.prefix_append (c :: b) _)

theorem cut?_mark_eq_some_iff {x y : Char} (hxy : x ≠ y) {s before after : List Char} :
    cut? [x, y] s = some (before, after) ↔
      s = before ++ [x, y] ++ after ∧ ¬ [x, y] <:+: before := by
  constructor
  · intro h
    exact ⟨eq_append_of_cut? h, not_infix_of_cut? (List.cons_ne_nil _ _) h⟩
  · rintro ⟨rfl, h⟩
    exact cut?_mark hxy after h

/-- A mark of one character is found where it first stands. -/
theorem cut?_singleton_eq_some_iff {x : Char} {s before after : List Char} :
    cut? [x] s = some (before, after) ↔ s = before ++ x :: after ∧ x ∉ before := by
  have hfound {b a : List Char} (h : cut? [x] s = some (b, a)) : s = b ++ x :: a ∧ x ∉ b := by
    have hnone : ¬ [x] <:+: b := not_infix_of_cut? (List.cons_ne_nil _ _) h
    rw [List.singleton_infix_iff] at hnone
    exact ⟨by simpa using eq_append_of_cut? h, hnone⟩
  refine ⟨hfound, ?_⟩
  rintro ⟨rfl, hbefore⟩
  cases hcut : cut? [x] (before ++ x :: after) with
  | none => simp [cut?_eq_none_iff, List.singleton_infix_iff] at hcut
  | some parts =>
    obtain ⟨hparts, hfirst⟩ := hfound hcut
    obtain ⟨rfl, rfl⟩ := (append_cons_inj_of_first hbefore hfirst).mp hparts
    rfl

/-- Where a mark of two characters stands in two texts joined. -/
theorem mark_infix_append_iff {x y : Char} {s s' : List Char} :
    [x, y] <:+: s ++ s' ↔ [x, y] <:+: s ∨ [x, y] <:+: s' ∨
      s.getLast? = some x ∧ s'.head? = some y := by
  rw [List.infix_append_iff]
  constructor
  · rintro (h | h | ⟨l, l', hl, hs, hs'⟩)
    · exact .inl h
    · exact .inr (.inl h)
    · rcases List.cons_eq_append_iff.mp hl with ⟨rfl, rfl⟩ | ⟨r, rfl, hr⟩
      · exact .inr (.inl hs'.isInfix)
      · rcases List.cons_eq_append_iff.mp hr with ⟨rfl, rfl⟩ | ⟨none, rfl, hnone⟩
        · obtain ⟨t, rfl⟩ := hs
          obtain ⟨t', rfl⟩ := hs'
          exact .inr (.inr ⟨by simp, rfl⟩)
        · obtain ⟨rfl, rfl⟩ := List.append_eq_nil_iff.mp hnone.symm
          exact .inl hs.isInfix
  · rintro (h | h | ⟨hs, hs'⟩)
    · exact .inl h
    · exact .inr (.inl h)
    · obtain ⟨t, rfl⟩ := List.getLast?_eq_some_iff.mp hs
      obtain ⟨t', rfl⟩ := List.head?_eq_some_iff.mp hs'
      exact .inr (.inr ⟨[x], [y], rfl, ⟨t, rfl⟩, ⟨t', rfl⟩⟩)

/-- Where the mark occurs in the text, the text ends. -/
def OnlyAtEnd (mark s : List Char) : Prop :=
  ∀ before after, s = before ++ mark ++ after → after = []

theorem onlyAtEnd_append_mark_iff {x y : Char} (hxy : x ≠ y) {s : List Char} :
    OnlyAtEnd [x, y] (s ++ [x, y]) ↔ ¬ [x, y] <:+: s := by
  constructor
  · rintro h ⟨before, after, rfl⟩
    have hnone : after ++ [x, y] = [] := h before (after ++ [x, y]) (by simp)
    simp at hnone
  · intro h before after heq
    rcases List.eq_nil_or_concat after with rfl | ⟨rest, z, hconcat⟩
    · rfl
    · obtain rfl := hconcat.trans List.concat_eq_append
      have hlast : s ++ [x] ++ [y] = before ++ [x, y] ++ rest ++ [z] := by simpa using heq
      have hshort : s ++ [x] = before ++ [x, y] ++ rest := List.append_inj_left' hlast rfl
      have hmark : [x, y] <:+: s ++ [x] := ⟨before, rest, hshort.symm⟩
      rcases mark_infix_append_iff.mp hmark with hmark | hmark | ⟨-, hhead⟩
      · exact absurd hmark h
      · exact absurd hmark.length_le (by simp)
      · exact absurd (Option.some.inj hhead) hxy

/-! ### Lines -/

theorem dropReturn_of_getLast? {line : List Char} (h : line.getLast? ≠ some '\r') :
    dropReturn line = line :=
  if_neg h

theorem map_dropReturn {ls : List (List Char)} (h : ∀ l ∈ ls, l.getLast? ≠ some '\r') :
    ls.map dropReturn = ls := by
  refine (List.map_congr_left fun l hl => ?_).trans (List.map_id _)
  exact dropReturn_of_getLast? (h l hl)

/-- Lines that are joined come apart again, if none is empty or ends in a carriage return. -/
theorem lines_intercalate {ls : List (List Char)}
    (h : ∀ l ∈ ls, '\n' ∉ l ∧ l ≠ [] ∧ l.getLast? ≠ some '\r') :
    lines (List.intercalate ['\n'] ls) = ls := by
  rcases List.eq_nil_or_concat ls with rfl | ⟨finished, last, hconcat⟩
  · rfl
  · obtain rfl := hconcat.trans List.concat_eq_append
    have hreturn : finished.map dropReturn = finished :=
      map_dropReturn fun l hl => (h l (List.mem_append_left _ hl)).2.2
    have hlast : last.isEmpty = false := by
      simpa using (h last (List.mem_append_right _ List.mem_cons_self)).2.1
    rw [lines, splitOn_eq, List.splitOn_intercalate '\n' (fun l hl => (h l hl).1) (by simp),
      List.dropLast_concat, hreturn, List.getLast?_concat]
    simp [Option.filter, hlast]

/-- Lines that were finished one by one are the pieces between the newlines, but for the last. -/
theorem splitOn_flatMap {ls : List (List Char)} (h : ∀ l ∈ ls, '\n' ∉ l) :
    splitOn '\n' (ls.flatMap fun l => l ++ ['\n']) = ls ++ [[]] := by
  induction ls with
  | nil => rfl
  | cons l rest ih =>
    obtain ⟨hl, hrest⟩ := List.forall_mem_cons.mp h
    rw [List.flatMap_cons, List.append_assoc, List.singleton_append, splitOn_eq,
      List.splitOn_append_cons_self, List.splitOn_eq_singleton hl, ← splitOn_eq, ih hrest]
    rfl

/-- Lines that were finished one by one come apart again, empty ones included. -/
theorem lines_flatMap {ls : List (List Char)}
    (h : ∀ l ∈ ls, '\n' ∉ l ∧ l.getLast? ≠ some '\r') :
    lines (ls.flatMap fun l => l ++ ['\n']) = ls := by
  rw [lines, splitOn_flatMap fun l hl => (h l hl).1, List.dropLast_concat,
    map_dropReturn fun l hl => (h l hl).2, List.getLast?_concat]
  simp [Option.filter]

theorem isPrefix_dropReturn (line : List Char) : dropReturn line <+: line := by
  unfold dropReturn
  split
  · exact List.dropLast_prefix line
  · exact List.prefix_rfl

theorem newline_not_mem_of_mem_lines {l s : List Char} (h : l ∈ lines s) : '\n' ∉ l := by
  rcases List.mem_append.mp h with hfinished | hlast
  · obtain ⟨piece, hpiece, rfl⟩ := List.mem_map.mp hfinished
    have hnot : '\n' ∉ piece := not_mem_of_mem_splitOn (List.dropLast_subset _ hpiece)
    exact fun hmem => hnot ((isPrefix_dropReturn piece).subset hmem)
  · have hpiece : (splitOn '\n' s).getLast? = some l := by
      simpa using (Option.filter_eq_some_iff.mp (Option.mem_toList.mp hlast)).1
    exact not_mem_of_mem_splitOn (List.mem_of_getLast? hpiece)

/-! ## Order

Texts in order. They are compared character by character, by code points, and a text comes before
the longer ones that start with it. -/

theorem compare_eq_lt_iff {s t : String} : compare s t = .lt ↔ s < t := compareOfLessAndEq_eq_lt

/-- A set of texts lists in strictly ascending order. -/
theorem pairwise_lt_toList (s : ExtTreeSet String) : s.toList.Pairwise (· < ·) :=
  ExtTreeSet.ordered_toList.imp compare_eq_lt_iff.mp

/-- A mark below the characters of the greater text keeps the order, also where the lesser text is
a start of the greater one. -/
theorem append_cons_lt_append_cons {x : Char} {s s' : List Char} (h : s < s')
    (hx : ∀ c ∈ s', x < c) (t t' : List Char) : s ++ x :: t < s' ++ x :: t' := by
  induction h with
  | nil => exact .rel (hx _ List.mem_cons_self)
  | rel h => exact .rel h
  | cons h ih => exact .cons (ih fun c hc => hx c (List.mem_cons_of_mem _ hc))

end TestImpact.Text
