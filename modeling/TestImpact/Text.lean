/-!
Texts as lists of characters: blanks, lines and other pieces, and readers that take a piece off
the front.
-/
/-! ## Blanks

Blank characters, texts with the blanks at their ends removed, and texts that fall apart at blanks.
-/
namespace TestImpact.Text

/-- The characters with the Unicode property White_Space. -/
def isBlank (c : Char) : Bool :=
  let n := c.toNat
  (9 ≤ n && n ≤ 13) || n == 0x20 || n == 0x85 || n == 0xA0 || n == 0x1680 ||
    (0x2000 ≤ n && n ≤ 0x200A) || n == 0x2028 || n == 0x2029 || n == 0x202F || n == 0x205F ||
    n == 0x3000

def trimStart (s : List Char) : List Char := s.dropWhile isBlank

def trimEnd (s : List Char) : List Char := (s.reverse.dropWhile isBlank).reverse

def trim (s : List Char) : List Char := trimEnd (trimStart s)

/-- A text of blanks only, the empty text included. -/
def allBlank (s : List Char) : Bool := s.all isBlank

/-- A text that starts with a blank. -/
def startsBlank (s : List Char) : Bool := s.head?.any isBlank

/-- The words of a text, with blanks between them. -/
def words (s : List Char) : List (List Char) := (s.splitOnP isBlank).filter (!·.isEmpty)

/-- What stands before the first blank and what stands behind it. -/
def cutAtBlank? : List Char → Option (List Char × List Char)
  | [] => none
  | c :: r =>
    if isBlank c then some ([], r)
    else (cutAtBlank? r).map fun (before, after) => (c :: before, after)

end TestImpact.Text

namespace TestImpact

/-- The text without the blanks at its two ends. -/
def trimmed (s : String) : String := String.ofList (Text.trim s.toList)

end TestImpact

/-! ## Pieces

Cutting a text at a separator: at its first occurrence, at all of them, and at line ends. -/
namespace TestImpact.Text

/-- What stands before and after the first occurrence of `sep`. -/
def cut? (sep : List Char) : List Char → Option (List Char × List Char)
  | [] => if sep.isEmpty then some ([], []) else none
  | c :: r =>
    if sep.isPrefixOf (c :: r) then some ([], (c :: r).drop sep.length)
    else (cut? sep r).map fun (before, after) => (c :: before, after)

/-- The pieces between the occurrences of `sep`, empty ones included; never an empty list. -/
def splitOn (sep : Char) (s : List Char) : List (List Char) :=
  s.foldr (fun c pieces =>
    if c = sep then [] :: pieces
    else match pieces with
      | [] => [[c]]
      | p :: ps => (c :: p) :: ps) [[]]

/-- A carriage return at the end of a finished line belongs to the line end. -/
def dropReturn (line : List Char) : List Char :=
  if line.getLast? = some '\r' then line.dropLast else line

/-- The lines of a text. Each newline finishes one; what follows the last newline is a line of
its own unless it is empty, and keeps its carriage return. -/
def lines (s : List Char) : List (List Char) :=
  let pieces := splitOn '\n' s
  pieces.dropLast.map dropReturn ++ (pieces.getLast?.filter (!·.isEmpty)).toList

/-- Whether `part` occurs in `s`. -/
def hasInfix (part s : List Char) : Bool := (cut? part s).isSome

theorem cut?_eq_none_iff {sep s : List Char} : cut? sep s = none ↔ ¬ sep <:+: s := by
  induction s with
  | nil => cases sep <;> simp [cut?]
  | cons c r ih =>
    rw [cut?, List.infix_cons_iff, not_or, ← ih, ← List.isPrefixOf_iff_prefix]
    cases sep.isPrefixOf (c :: r) <;> simp

theorem hasInfix_eq_false_iff {part s : List Char} : hasInfix part s = false ↔ ¬ part <:+: s := by
  rw [hasInfix, Option.isSome_eq_false_iff, Option.isNone_iff_eq_none, cut?_eq_none_iff]

theorem hasInfix_iff {part s : List Char} : hasInfix part s = true ↔ part <:+: s := by
  rw [hasInfix, Option.isSome_iff_ne_none, ne_eq, cut?_eq_none_iff, Classical.not_not]

theorem splitOn_nil (sep : Char) : splitOn sep [] = [[]] := rfl

theorem splitOn_ne_nil (sep : Char) (s : List Char) : splitOn sep s ≠ [] := by
  cases s with
  | nil => simp [splitOn]
  | cons c r =>
    simp only [splitOn, List.foldr_cons]
    split
    · simp
    · split <;> simp

theorem splitOn_cons_self (sep : Char) (r : List Char) :
    splitOn sep (sep :: r) = [] :: splitOn sep r := by
  simp [splitOn]

/-- Joining the pieces with the separator gives the text back. -/
theorem intercalate_splitOn (sep : Char) (s : List Char) :
    List.intercalate [sep] (splitOn sep s) = s := by
  induction s with
  | nil => rfl
  | cons c r ih =>
    by_cases h : c = sep
    · subst h
      rw [splitOn_cons_self]
      cases hp : splitOn c r with
      | nil => exact absurd hp (splitOn_ne_nil _ _)
      | cons p ps => rw [hp] at ih; simpa [List.intercalate] using ih
    · have hs : splitOn sep (c :: r) = match splitOn sep r with
          | [] => [[c]]
          | p :: ps => (c :: p) :: ps := by simp [splitOn, h]
      rw [hs]
      cases hp : splitOn sep r with
      | nil => exact absurd hp (splitOn_ne_nil _ _)
      | cons p ps =>
        rw [hp] at ih
        cases ps <;> simp_all [List.intercalate]

/-- A cut loses nothing but the separator. -/
theorem eq_append_of_cut? {sep s before after : List Char} (h : cut? sep s = some (before, after)) :
    s = before ++ sep ++ after := by
  induction s generalizing before with
  | nil =>
    unfold cut? at h
    split at h
    · rename_i he
      simp_all
    · simp at h
  | cons c r ih =>
    unfold cut? at h
    split at h
    · rename_i hp
      obtain ⟨t, ht⟩ := List.isPrefixOf_iff_prefix.1 hp
      simp only [Option.some.injEq, Prod.mk.injEq] at h
      obtain ⟨rfl, rfl⟩ := h
      rw [← ht]
      simp
    · obtain ⟨⟨b, a⟩, hb, he⟩ := Option.map_eq_some_iff.1 h
      simp only [Prod.mk.injEq] at he
      obtain ⟨rfl, rfl⟩ := he
      simp [ih hb]

end TestImpact.Text

namespace TestImpact

/-- The lines of a text, as texts. -/
def linesOf (s : String) : List String := (Text.lines s.toList).map String.ofList

end TestImpact

namespace TestImpact.Text

/-! ## Readers

Readers take something from the front of a text. Their answer is what they took and what is left;
none if the text does not start that way. -/

abbrev Reader (α : Type) := List Char → Option (α × List Char)

namespace Reader

/-- Read as often as possible. A reading that takes nothing does not count. -/
def many (p : Reader α) (s : List Char) : List α × List Char :=
  match p s with
  | none => ([], s)
  | some (a, r) =>
    if r.length < s.length then
      let (as, rest) := many p r
      (a :: as, rest)
    else ([], s)
termination_by s.length

/-- One character of a class. -/
def char (p : Char → Bool) : Reader Char
  | c :: r => if p c then some (c, r) else none
  | [] => none

/-- A fixed text. -/
def word (w : List Char) : Reader Unit := fun s =>
  if w.isPrefixOf s then some ((), s.drop w.length) else none

/-- Exactly `n` characters of a class. -/
def chars (n : Nat) (p : Char → Bool) : Reader (List Char) := fun s =>
  let taken := s.take n
  if taken.length = n ∧ taken.all p then some (taken, s.drop n) else none

/-- The first reading, or else the second. -/
def or (p q : Reader α) : Reader α := fun s => (p s).orElse fun _ => q s

/-- A reading, or nothing. -/
def optional (p : Reader α) (s : List Char) : Option α × List Char :=
  match p s with
  | some (a, r) => (some a, r)
  | none => (none, s)

end Reader

end TestImpact.Text
