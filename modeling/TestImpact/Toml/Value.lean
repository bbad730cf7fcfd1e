import TestImpact.Decimal
import TestImpact.Text

/-! The values of a TOML document. -/
namespace TestImpact.Toml
open Text

/-! ## Blanks and comments

What may stand between the tokens of a TOML document. -/

def isSpace (c : Char) : Bool := c = ' ' || c = '\t'

def skipSpaces (s : List Char) : List Char := s.dropWhile isSpace

/-- The end of a line: a newline, which a carriage return may precede. -/
def newline : Reader Unit
  | '\n' :: r => some ((), r)
  | '\r' :: '\n' :: r => some ((), r)
  | _ => none

/-- The characters that comments and texts hold as they are. Of the ASCII controls that is the tab
alone. -/
def isTextChar (c : Char) : Bool := c = '\t' || (0x20 ≤ c.toNat && c != '\x7f')

def skipComment : List Char → List Char
  | '#' :: r => r.dropWhile isTextChar
  | s => s

/-- What may follow a token on its line. -/
def lineEnd : Reader Unit := fun s =>
  match skipComment (skipSpaces s) with
  | [] => some ((), [])
  | r => newline r

/-- A blank, a line end, or a comment with its line end. -/
def gapPiece : Reader Unit
  | '#' :: r => newline (r.dropWhile isTextChar)
  | s => Reader.or (fun s => (Reader.char isSpace s).map fun (_, r) => ((), r)) newline s

/-- Skip blanks, line ends and comments. -/
def skipGap (s : List Char) : List Char := (Reader.many gapPiece s).2

/-! ## Values and tables

The contents of a TOML document while it is read. Tables keep their entries in the order in which
the document gives them. -/

inductive Item where
  | text (s : String)
  | integer (n : Int)
  | float (x : Binary64)
  | boolean (b : Bool)
  /-- A date, a time, or both. -/
  | moment
  | array (items : List Item)
  /-- A table written as a value; nothing is added to it afterwards. -/
  | inline (entries : List (String × Item))
  /-- A table that headers or dotted keys made. It is implied if no header names it, and dotted if
  a dotted key made it. -/
  | table (implied dotted : Bool) (entries : List (String × Item))
  /-- The tables that headers in double brackets made. -/
  | tables (elements : List (List (String × Item)))

abbrev Entries := List (String × Item)

namespace Entries

/-- Put an item in the place of the one under `key`. -/
def replace (entries : Entries) (key : String) (v : Item) : Entries :=
  entries.map fun (k, old) => if k = key then (k, v) else (k, old)

def erase (entries : Entries) (key : String) : Entries := entries.filter fun (k, _) => k != key

/-- Add an entry under a key that is not yet taken. -/
def add (entries : Entries) (key : String) (v : Item) : Option Entries :=
  match entries.lookup key with
  | none => some (entries ++ [(key, v)])
  | some _ => none

/-- Add an entry behind a dotted path. The path leads through tables that no header names, and a
table that a header implies takes no entry of its own this way. -/
def addDotted (path : List String) (key : String) (v : Item) (entries : Entries) :
    Option Entries :=
  match path with
  | [] => entries.add key v
  | k :: rest =>
    match entries.lookup k with
    | none => (addDotted rest key v []).map fun sub => entries ++ [(k, .table true true sub)]
    | some (.table implied dotted sub) =>
      if !implied || rest.isEmpty && !dotted then none
      else (addDotted rest key v sub).map fun sub => entries.replace k (.table implied dotted sub)
    | some (.tables elements) =>
      if rest.isEmpty then none
      else match elements.getLast? with
        | none => none
        | some last => (addDotted rest key v last).map fun sub =>
            entries.replace k (.tables (elements.dropLast ++ [sub]))
    | some _ => none

/-- Change the table that a header's path leads to. Tables on the way that are missing are
implied; of tables in double brackets the last one is meant. -/
def change (path : List String) (f : Entries → Option Entries) (entries : Entries) :
    Option Entries :=
  match path with
  | [] => f entries
  | k :: rest =>
    match entries.lookup k with
    | none => (change rest f []).map fun sub => entries ++ [(k, .table true false sub)]
    | some (.table implied dotted sub) =>
      (change rest f sub).map fun sub => entries.replace k (.table implied dotted sub)
    | some (.tables elements) =>
      match elements.getLast? with
      | none => none
      | some last => (change rest f last).map fun sub =>
          entries.replace k (.tables (elements.dropLast ++ [sub]))
    | some _ => none

/-- What stands under a key of the table that a path leads to. -/
def find (path : List String) (key : String) (entries : Entries) : Option Item :=
  match path with
  | [] => entries.lookup key
  | k :: rest =>
    match entries.lookup k with
    | some (.table _ _ sub) => find rest key sub
    | some (.tables elements) => elements.getLast?.bind (find rest key)
    | _ => none

end Entries

/-! ## Numbers

Numbers in a TOML document. -/

def digitValue (c : Char) : Nat :=
  if c.isDigit then c.toNat - '0'.toNat else c.toLower.toNat - 'a'.toNat + 10

def isHexDigit (c : Char) : Bool := c.isDigit || ('a' ≤ c.toLower && c.toLower ≤ 'f')

/-- Digits with single underscores between them. -/
def digits (p : Char → Bool) : Reader (List Char) := fun s => do
  let (first, r) ← Reader.char p s
  let (more, r) := Reader.many (fun s =>
    match s with
    | '_' :: r => Reader.char p r
    | s => Reader.char p s) r
  some (first :: more, r)

def natOf (base : Nat) (ds : List Char) : Nat := ds.foldl (fun n c => n * base + digitValue c) 0

/-- A sign; the flag tells whether it is a minus. -/
def sign (s : List Char) : Bool × List Char :=
  match s with
  | '+' :: r => (false, r)
  | '-' :: r => (true, r)
  | r => (false, r)

/-- Integers have 64 bits, one of them for the sign. -/
def integerBound : Int := 9223372036854775808

def integer? (n : Int) : Option Item :=
  if -integerBound ≤ n ∧ n < integerBound then some (.integer n) else none

/-- An integer in a base that is a power of two. -/
def based (base : Nat) (p : Char → Bool) : Reader Item := fun s => do
  let (ds, r) ← digits p s
  some (← integer? (natOf base ds), r)

/-- The digits before the point: no zero stands in front of others. -/
def wholeDigits : Reader (List Char)
  | '0' :: r => some (['0'], r)
  | s => digits Char.isDigit s

/-- The power of ten after an `e`. -/
def exponent : Reader Int := fun s =>
  match s with
  | 'e' :: r | 'E' :: r => do
    let (negative, r) := sign r
    let (ds, r) ← digits Char.isDigit r
    let n : Int := natOf 10 ds
    some (if negative then -n else n, r)
  | _ => none

def infinity : List Char := ['i', 'n', 'f']

def notANumber : List Char := ['n', 'a', 'n']

/-- A float; a positive one must not be out of range. -/
def float? (negative : Bool) (whole fraction : List Char) (e : Int) : Option Item :=
  match Binary64.ofDecimal negative (natOf 10 (whole ++ fraction)) (e - fraction.length) with
  | .infinite false => none
  | x => some (.float x)

/-- What follows the digits before the point decides between an integer and a float. -/
def decimalRest (negative : Bool) (whole : List Char) : Reader Item
  | '.' :: r => do
    let (fraction, r) ← digits Char.isDigit r
    match r with
    | 'e' :: _ | 'E' :: _ =>
      let (e, r) ← exponent r
      some (← float? negative whole fraction e, r)
    | _ => some (← float? negative whole fraction 0, r)
  | s =>
    match s with
    | 'e' :: _ | 'E' :: _ => do
      let (e, r) ← exponent s
      some (← float? negative whole [] e, r)
    | _ => do
      let n : Int := natOf 10 whole
      some (← integer? (if negative then -n else n), s)

def number : Reader Item
  | '0' :: 'x' :: r => based 16 isHexDigit r
  | '0' :: 'o' :: r => based 8 (fun c => c.isDigit && c ≤ '7') r
  | '0' :: 'b' :: r => based 2 (fun c => c = '0' || c = '1') r
  | s =>
    let (negative, r) := sign s
    if infinity.isPrefixOf r then some (.float (.infinite negative), r.drop infinity.length)
    else if notANumber.isPrefixOf r then some (.float .nan, r.drop notANumber.length)
    else do
      let (whole, r) ← wholeDigits r
      decimalRest negative whole r

/-! ## Moments

Dates and times in a TOML document. Only their form matters here. -/

/-- A number of exactly `n` digits between two bounds. -/
def bounded (n low high : Nat) : Reader Nat := fun s => do
  let (ds, r) ← Reader.chars n Char.isDigit s
  let v := natOf 10 ds
  if low ≤ v ∧ v ≤ high then some (v, r) else none

/-- One of some marks. -/
def mark (marks : List Char) : Reader Char := Reader.char (marks.contains ·)

def isLeapYear (year : Nat) : Bool := year % 4 = 0 && (year % 100 != 0 || year % 400 = 0)

def daysIn (year month : Nat) : Nat :=
  if month = 2 then if isLeapYear year then 29 else 28
  else if month = 4 ∨ month = 6 ∨ month = 9 ∨ month = 11 then 30
  else 31

def date : Reader Unit := fun s => do
  let (year, r) ← bounded 4 0 9999 s
  let (_, r) ← mark ['-'] r
  let (month, r) ← bounded 2 1 12 r
  let (_, r) ← mark ['-'] r
  let (_, r) ← bounded 2 1 (daysIn year month) r
  some ((), r)

/-- A minute may have a leap second. -/
def time : Reader Unit := fun s => do
  let (_, r) ← bounded 2 0 23 s
  let (_, r) ← mark [':'] r
  let (_, r) ← bounded 2 0 59 r
  let (_, r) ← mark [':'] r
  let (_, r) ← bounded 2 0 60 r
  let (_, r) := Reader.optional (fun s => do
    let (_, r) ← mark ['.'] s
    let (_, r) ← Reader.char Char.isDigit r
    some ((), r.dropWhile Char.isDigit)) r
  some ((), r)

/-- The distance of a local time from the universal one. -/
def offset : Reader Unit := fun s => do
  let (c, r) ← mark ['Z', 'z', '+', '-'] s
  if c = 'Z' ∨ c = 'z' then some ((), r)
  else
    let (_, r) ← bounded 2 0 23 r
    let (_, r) ← mark [':'] r
    let (_, r) ← bounded 2 0 59 r
    some ((), r)

/-- A time on a date. -/
def timeOfDay : Reader Unit := fun s => do
  let (_, r) ← mark ['T', 't', ' '] s
  let (_, r) ← time r
  some ((), (Reader.optional offset r).2)

def moment : Reader Item := fun s =>
  match date s with
  | some (_, r) => some (.moment, (Reader.optional timeOfDay r).2)
  | none => (time s).map fun (_, r) => (.moment, r)

/-! ## Quoted texts

Quoted texts in a TOML document: with escapes or literal, on one line or on several. -/

/-- The character with a code point given by exactly `n` hexadecimal digits. -/
def codePoint (n : Nat) : Reader Char := fun s => do
  let (ds, r) ← Reader.chars n isHexDigit s
  let v := natOf 16 ds
  if v.isValidChar then some (Char.ofNat v, r) else none

/-- What a backslash and the text after it stand for. -/
def escape : Reader Char
  | 'b' :: r => some ('\x08', r)
  | 't' :: r => some ('\t', r)
  | 'n' :: r => some ('\n', r)
  | 'f' :: r => some ('\x0c', r)
  | 'r' :: r => some ('\r', r)
  | '"' :: r => some ('"', r)
  | '\\' :: r => some ('\\', r)
  | 'u' :: r => codePoint 4 r
  | 'U' :: r => codePoint 8 r
  | _ => none

def basicChar : Reader Char
  | '\\' :: r => escape r
  | s => Reader.char (fun c => isTextChar c && c != '"') s

def literalChar : Reader Char := Reader.char fun c => isTextChar c && c != '\''

/-- Characters up to a closing quote. -/
def upTo (quote : Char) (piece : Reader Char) : Reader (List Char) := fun s => do
  let (cs, r) := Reader.many piece s
  let (_, r) ← Reader.char (· = quote) r
  some (cs, r)

/-- A piece of a text on several lines. A quote belongs to the text unless two more follow it; a
backslash at the end of a line takes all blanks and line ends after it away. -/
def longPiece (quote : Char) (piece : Reader Char) : Reader (List Char) := fun s =>
  if [quote, quote, quote].isPrefixOf s then none
  else match s with
    | '\\' :: r =>
      match quote, newline (skipSpaces r) with
      | '"', some (_, r) =>
        let skipped := Reader.many (Reader.or newline fun s =>
          (Reader.char isSpace s).map fun (_, r) => ((), r)) r
        some ([], skipped.2)
      | _, _ => (piece s).map fun (c, r) => ([c], r)
    | c :: r =>
      if c = quote then some ([c], r)
      else match newline s with
        | some (_, r) => some (['\n'], r)
        | none => (piece s).map fun (c, r) => ([c], r)
    | [] => none

/-- The text between three quotes and three quotes. A line end right after the first three does
not count; up to two quotes may stand right before the last three. -/
def long (quote : Char) (piece : Reader Char) : Reader (List Char) := fun s => do
  let (_, r) := Reader.optional newline s
  let (pieces, r) := Reader.many (longPiece quote piece) r
  let (_, r) ← Reader.word [quote, quote, quote] r
  let extra := (r.take 2).takeWhile (· = quote)
  some (pieces.flatten ++ extra, r.drop extra.length)

/-- A quoted text on one line. -/
def shortText : Reader (List Char)
  | '"' :: r => upTo '"' basicChar r
  | '\'' :: r => upTo '\'' literalChar r
  | _ => none

def quotedText : Reader (List Char)
  | '"' :: '"' :: '"' :: r => long '"' basicChar r
  | '\'' :: '\'' :: '\'' :: r => long '\'' literalChar r
  | s => shortText s

end TestImpact.Toml
