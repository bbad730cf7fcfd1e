import TestImpact.Report

/-!
What a report says, told by a reader of its own: its text reads as an object with eleven keys, which
hold what the run counted, measured and named.
-/
namespace TestImpact

/-! ## Reading JSON

Characters make tokens and tokens make values, in one pass over the text. Of numbers, only those
without a sign, a fraction or an exponent are read; of codes, only those that stand for a character
by themselves. -/

namespace Json

inductive Token where
  | openArray
  | closeArray
  | openObject
  | closeObject
  | comma
  | colon
  | number (n : Nat)
  | text (s : String)
  deriving DecidableEq

/-- What a character is read in the middle of, with what has been read of it. -/
inductive Scan where
  | between
  | number (n : Nat)
  | quoted (before : List Char)
  | escaped (before : List Char)
  /-- The code of a character, of which `left` digits come after the next one. -/
  | code (before : List Char) (left : Nat) (n : Nat)
  deriving DecidableEq

/-- A token that is one character. -/
def mark? : Char → Option Token
  | '[' => some .openArray
  | ']' => some .closeArray
  | '\x7b' => some .openObject
  | '\x7d' => some .closeObject
  | ',' => some .comma
  | ':' => some .colon
  | _ => none

def isSpace (c : Char) : Bool := [' ', '\n', '\r', '\t'].contains c

def digitValue? (c : Char) : Option Nat :=
  if c.isDigit then some (c.toNat - '0'.toNat) else none

def hexValue? (c : Char) : Option Nat :=
  if 'a' ≤ c ∧ c ≤ 'f' then some (c.toNat - 'a'.toNat + 10)
  else if 'A' ≤ c ∧ c ≤ 'F' then some (c.toNat - 'A'.toNat + 10)
  else digitValue? c

/-- What a character behind a backslash stands for. -/
def unescape? : Char → Option Char
  | '"' => some '"'
  | '\\' => some '\\'
  | '/' => some '/'
  | 'b' => some '\x08'
  | 'f' => some '\x0c'
  | 'n' => some '\n'
  | 'r' => some '\r'
  | 't' => some '\t'
  | _ => none

def charOf? (n : Nat) : Option Char := if n.isValidChar then some (Char.ofNat n) else none

/-- What a character between two tokens gives and begins. -/
def begin? (c : Char) : Option (List Token × Scan) :=
  if isSpace c then some ([], .between)
  else if c = '"' then some ([], .quoted [])
  else match digitValue? c with
    | some d => some ([], .number d)
    | none => (mark? c).map fun t => ([t], .between)

/-- The tokens that one more character completes, and what is read in the middle of then. -/
def Scan.advance (c : Char) : Scan → Option (List Token × Scan)
  | between => begin? c
  | number n =>
    match digitValue? c with
    | some d => if n = 0 then none else some ([], number (10 * n + d))
    | none => (begin? c).map fun (found, scan) => (.number n :: found, scan)
  | quoted before =>
    if c = '"' then some ([.text (String.ofList before)], between)
    else if c = '\\' then some ([], escaped before)
    else if c.toNat < 0x20 then none
    else some ([], quoted (before ++ [c]))
  | escaped before =>
    if c = 'u' then some ([], code before 3 0)
    else (unescape? c).map fun c => ([], quoted (before ++ [c]))
  | code before 0 n => do
    let read ← charOf? (16 * n + (← hexValue? c))
    return ([], quoted (before ++ [read]))
  | code before (left + 1) n => do
    return ([], code before left (16 * n + (← hexValue? c)))

def Scan.finish : Scan → Option (List Token)
  | between => some []
  | number n => some [.number n]
  | _ => none

/-- An array or an object in the middle of which a value is read, with what stands before it. -/
inductive Opened where
  | item (before : List Json)
  | field (before : List (String × Json)) (key : String)

/-- What comes next. A value is due, the key of a field or its colon; or there is a value, and a
comma or the end of what it stands in is due. -/
inductive Due where
  | value
  | key (before : List (String × Json))
  | colon (before : List (String × Json)) (key : String)
  | next (v : Json)

structure Parse where
  /-- The innermost one first. -/
  opened : List Opened
  due : Due

/-- What a token makes of what has been read. An end may stand for a value or a key only where none
comes before. -/
def Parse.step : Parse → Token → Option Parse
  | ⟨opened, .value⟩, .number n => some ⟨opened, .next (.number n)⟩
  | ⟨opened, .value⟩, .text s => some ⟨opened, .next (.text s)⟩
  | ⟨opened, .value⟩, .openArray => some ⟨.item [] :: opened, .value⟩
  | ⟨opened, .value⟩, .openObject => some ⟨opened, .key []⟩
  | ⟨.item [] :: opened, .value⟩, .closeArray => some ⟨opened, .next (.array [])⟩
  | ⟨opened, .key []⟩, .closeObject => some ⟨opened, .next (.object [])⟩
  | ⟨opened, .key before⟩, .text key => some ⟨opened, .colon before key⟩
  | ⟨opened, .colon before key⟩, .colon => some ⟨.field before key :: opened, .value⟩
  | ⟨.item before :: opened, .next v⟩, .comma => some ⟨.item (before ++ [v]) :: opened, .value⟩
  | ⟨.item before :: opened, .next v⟩, .closeArray =>
    some ⟨opened, .next (.array (before ++ [v]))⟩
  | ⟨.field before key :: opened, .next v⟩, .comma => some ⟨opened, .key (before ++ [(key, v)])⟩
  | ⟨.field before key :: opened, .next v⟩, .closeObject =>
    some ⟨opened, .next (.object (before ++ [(key, v)]))⟩
  | _, _ => none

def Parse.value? : Parse → Option Json
  | ⟨[], .next v⟩ => some v
  | _ => none

/-- The value that the rest of a text completes. -/
def readFrom (scan : Scan) (p : Parse) : List Char → Option Json
  | [] => do (← (← scan.finish).foldlM Parse.step p).value?
  | c :: rest => do
    let (found, scan) ← scan.advance c
    readFrom scan (← found.foldlM Parse.step p) rest

/-- The start of a line. -/
def line (n : Nat) : List Char := '\n' :: List.replicate n ' '

section Tokens
variable {p p' : Parse} {rest : List Char} {c : Char} {n : Nat} {s : String}

theorem readFrom_space (hc : isSpace c = true) :
    readFrom .between p (c :: rest) = readFrom .between p rest := by
  simp [readFrom, Scan.advance, begin?, hc]

/-- The start of a line is skipped. -/
theorem readFrom_line (n : Nat) :
    readFrom .between p (line n ++ rest) = readFrom .between p rest := by
  have hspaces : readFrom .between p (List.replicate n ' ' ++ rest) = readFrom .between p rest := by
    induction n with
    | zero => rfl
    | succ n ih => rw [List.replicate_succ, List.cons_append, readFrom_space (by decide), ih]
  rw [line, List.cons_append, readFrom_space (by decide), hspaces]

theorem readFrom_mark {t : Token} (hc : begin? c = some ([t], .between))
    (h : p.step t = some p') : readFrom .between p (c :: rest) = readFrom .between p' rest := by
  simp [readFrom, Scan.advance, hc, h]

/-! ### Numbers -/

/-- What stands behind a number does not go on with it. -/
def NoDigit (rest : List Char) : Prop := ∀ c ∈ rest.head?, digitValue? c = none

theorem digitValue?_digitChar : ∀ d < 10, digitValue? (Nat.digitChar d) = some d := by decide

theorem begin?_digitChar : ∀ d < 10, begin? (Nat.digitChar d) = some ([], .number d) := by decide

theorem readFrom_toDigits :
    readFrom .between p (Nat.toDigits 10 n ++ rest) = readFrom (.number n) p rest := by
  -- the last digit is read after the number that the others make
  induction n using Nat.strongRecOn generalizing rest with
  | ind n ih =>
    by_cases h : n < 10
    · rw [Nat.toDigits_of_lt_base h]
      simp [readFrom, Scan.advance, begin?_digitChar n h]
    · have hdigit := digitValue?_digitChar (n % 10) (by omega)
      have hfirst : ¬ n / 10 = 0 := by omega
      have hlast : 10 * (n / 10) + n % 10 = n := by omega
      rw [Nat.toDigits_of_base_le (by decide) (by omega), List.append_assoc, ih (n / 10) (by omega)]
      simp [readFrom, Scan.advance, hdigit, hfirst, hlast]

theorem readFrom_number (hrest : NoDigit rest) (h : p.step (.number n) = some p') :
    readFrom .between p ((toString n).toList ++ rest) = readFrom .between p' rest := by
  have hdigits : (toString n).toList = Nat.toDigits 10 n := Nat.toList_repr
  rw [hdigits, readFrom_toDigits]
  cases rest with
  | nil => simp [readFrom, Scan.finish, h]
  | cons c rest =>
    have hc : digitValue? c = none := hrest c rfl
    cases hbegin : begin? c <;> simp [readFrom, Scan.advance, hc, hbegin, h]

/-! ### Texts -/

theorem hexValue?_hexDigit : ∀ d < 16, hexValue? (hexDigit d) = some d := by decide

theorem charOf?_toNat (c : Char) : charOf? c.toNat = some c := by
  have hvalid : c.toNat.isValidChar := c.valid
  rw [charOf?, if_pos hvalid, Char.ofNat_toNat]

/-- A character is read back from how it stands in a quoted text. -/
theorem readFrom_escape (before : List Char) : readFrom (.quoted before) p (escape c ++ rest) =
    readFrom (.quoted (before ++ [c])) p rest := by
  unfold escape
  split
  case h_8 hquote hslash _ _ _ _ _ =>
    split
    · rename_i hcontrol
      have hhigh := hexValue?_hexDigit (c.toNat / 16) (by omega)
      have hlow := hexValue?_hexDigit (c.toNat % 16) (by omega)
      have hzero : hexValue? '0' = some 0 := by decide
      have hcode : 16 * (c.toNat / 16) + c.toNat % 16 = c.toNat := by omega
      simp [readFrom, Scan.advance, hzero, hhigh, hlow, hcode, charOf?_toNat]
    · rename_i hplain
      have hq : c ≠ '"' := fun he => hquote he
      have hs : c ≠ '\\' := fun he => hslash he
      simp [readFrom, Scan.advance, hq, hs, hplain]
  all_goals rfl

theorem readFrom_flatMap_escape (cs before : List Char) :
    readFrom (.quoted before) p (cs.flatMap escape ++ rest) =
      readFrom (.quoted (before ++ cs)) p rest := by
  induction cs generalizing before with
  | nil => simp
  | cons c cs ih => simp [readFrom_escape, ih]

theorem readFrom_quote (h : p.step (.text s) = some p') :
    readFrom .between p ((quote s).toList ++ rest) = readFrom .between p' rest := by
  have hquote : begin? '"' = some ([], .quoted []) := by decide
  have hlist : (quote s).toList ++ rest = '"' :: (s.toList.flatMap escape ++ '"' :: rest) := by
    simp [quote]
  rw [hlist, readFrom, Scan.advance, hquote]
  change readFrom (.quoted []) p _ = _
  rw [readFrom_flatMap_escape]
  simp [readFrom, Scan.advance, h]

end Tokens

/-! ### Values -/

/-- Between brackets, items are separated by commas, each on its line. -/
def separated (n : Nat) (items : List String) : List Char :=
  (String.intercalate ("," ++ ("\n" ++ spaces n)) items).toList

theorem separated_singleton (n : Nat) (item : String) : separated n [item] = item.toList := by
  rw [separated, String.intercalate_singleton]

theorem separated_cons_cons (n : Nat) (item next : String) (items : List String) :
    separated n (item :: next :: items) =
      item.toList ++ ',' :: (line n ++ separated n (next :: items)) := by
  rw [separated, String.intercalate_cons_cons]
  simp [separated, line, spaces]

section Block
variable {opening closing : String} {o c : Char} {n : Nat} {items : List String} {rest : List Char}

theorem toList_block_append (ho : opening.toList = [o]) (hc : closing.toList = [c])
    (h : items ≠ []) : (block opening closing n items).toList ++ rest =
      o :: (line (n + 2) ++ (separated (n + 2) items ++ (line n ++ c :: rest))) := by
  simp [block, h, separated, line, spaces, ho, hc]

theorem toList_block_nil_append (ho : opening.toList = [o]) (hc : closing.toList = [c]) :
    (block opening closing n []).toList ++ rest = o :: c :: rest := by
  simp [block, ho, hc]

end Block

theorem noDigit_line {n : Nat} {rest : List Char} : NoDigit (line n ++ rest) := by
  simp [NoDigit, line, digitValue?]

theorem noDigit_comma {rest : List Char} : NoDigit (',' :: rest) := by
  simp [NoDigit, digitValue?]

/-- A key and its colon, where a key is due. -/
theorem readFrom_key {opened : List Opened} {before : List (String × Json)} {key value : String}
    {rest : List Char} :
    readFrom .between ⟨opened, .key before⟩ ((quote key ++ ": " ++ value).toList ++ rest) =
      readFrom .between ⟨.field before key :: opened, .value⟩ (value.toList ++ rest) := by
  have hkey : Parse.step ⟨opened, .key before⟩ (.text key) = some ⟨opened, .colon before key⟩ := by
    cases before <;> rfl
  rw [String.toList_append, String.toList_append, List.append_assoc, List.append_assoc,
    readFrom_quote hkey]
  exact (readFrom_mark rfl rfl).trans (readFrom_space (by decide))

/-
One theorem for each function that writes a value. What is open around the value and what stands
behind it are arbitrary, so a value inside another one is read in the same way.
-/
mutual

/-- A value is read where one is due, whatever stands behind it. -/
theorem readFrom_pretty (v : Json) (n : Nat) {opened : List Opened} {rest : List Char}
    (hrest : NoDigit rest) : readFrom .between ⟨opened, .value⟩ ((v.pretty n).toList ++ rest) =
      readFrom .between ⟨opened, .next v⟩ rest := by
  cases v with
  | number n =>
    rw [pretty]
    exact readFrom_number hrest rfl
  | text s =>
    rw [pretty]
    exact readFrom_quote rfl
  | array items =>
    rw [pretty]
    cases items with
    | nil =>
      rw [prettyItems, toList_block_nil_append rfl rfl, readFrom_mark rfl rfl]
      exact readFrom_mark rfl rfl
    | cons v vs =>
      have hne : prettyItems (n + 2) (v :: vs) ≠ [] := by simp [prettyItems]
      rw [toList_block_append rfl rfl hne, readFrom_mark rfl rfl, readFrom_line]
      exact readFrom_prettyItems (v :: vs) (List.cons_ne_nil v vs) (n + 2) n []
  | object fields =>
    rw [pretty]
    cases fields with
    | nil =>
      rw [prettyFields, toList_block_nil_append rfl rfl, readFrom_mark rfl rfl]
      exact readFrom_mark rfl rfl
    | cons field fields =>
      have hne : prettyFields (n + 2) (field :: fields) ≠ [] := by simp [prettyFields]
      rw [toList_block_append rfl rfl hne, readFrom_mark rfl rfl, readFrom_line]
      exact readFrom_prettyFields (field :: fields) (List.cons_ne_nil field fields) (n + 2) n []

/-- What is left of an array, from a value that is due to its end. -/
theorem readFrom_prettyItems (items : List Json) (hne : items ≠ []) (inner outer : Nat)
    (before : List Json) {opened : List Opened} {rest : List Char} :
    readFrom .between ⟨.item before :: opened, .value⟩
        (separated inner (prettyItems inner items) ++ (line outer ++ ']' :: rest)) =
      readFrom .between ⟨opened, .next (.array (before ++ items))⟩ rest := by
  match items, hne with
  | [v], _ =>
    rw [prettyItems, prettyItems, separated_singleton, readFrom_pretty v inner noDigit_line,
      readFrom_line]
    exact readFrom_mark rfl rfl
  | v :: w :: vs, _ =>
    rw [prettyItems, prettyItems, separated_cons_cons, ← prettyItems, List.append_assoc,
      List.cons_append, readFrom_pretty v inner noDigit_comma, readFrom_mark rfl rfl,
      List.append_assoc, readFrom_line,
      readFrom_prettyItems (w :: vs) (List.cons_ne_nil w vs) inner outer (before ++ [v]),
      List.append_assoc, List.singleton_append]

/-- What is left of an object, from a key that is due to its end. -/
theorem readFrom_prettyFields (fields : List (String × Json)) (hne : fields ≠ [])
    (inner outer : Nat) (before : List (String × Json)) {opened : List Opened} {rest : List Char} :
    readFrom .between ⟨opened, .key before⟩
        (separated inner (prettyFields inner fields) ++ (line outer ++ '\x7d' :: rest)) =
      readFrom .between ⟨opened, .next (.object (before ++ fields))⟩ rest := by
  match fields, hne with
  | [(key, v)], _ =>
    rw [prettyFields, prettyFields, separated_singleton, readFrom_key,
      readFrom_pretty v inner noDigit_line, readFrom_line]
    exact readFrom_mark rfl rfl
  | (key, v) :: (key', w) :: fields, _ =>
    rw [prettyFields, prettyFields, separated_cons_cons, ← prettyFields, List.append_assoc,
      List.cons_append, readFrom_key, readFrom_pretty v inner noDigit_comma, readFrom_mark rfl rfl,
      List.append_assoc, readFrom_line,
      readFrom_prettyFields (_ :: fields) (List.cons_ne_nil _ fields) inner outer
        (before ++ [(key, v)]),
      List.append_assoc, List.singleton_append]

end

end Json

/-! ## What a report says -/

end TestImpact
