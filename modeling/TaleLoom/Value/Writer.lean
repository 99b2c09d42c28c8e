import TaleLoom.Value
import TaleLoom.Number.Integer
import TaleLoom.Number.Shortest
/-!
Values written as JSON documents, in ASCII alone: every other character is escaped, one beyond the
basic plane as a surrogate pair. With an indentation each item has a line of its own, without one
the document is a single line.
-/

namespace TaleLoom.Value

open Number

/-- A code unit as four digits in base sixteen. -/
def unitEscape (n : Nat) : List Char :=
  let digits := Nat.toDigits 16 n
  '\\' :: 'u' :: List.replicate (4 - digits.length) '0' ++ digits

/-- How one character is written between the quotation marks. -/
def escapeChar (c : Char) : List Char :=
  let n := c.toNat
  if c = '"' then ['\\', '"']
  else if c = '\\' then ['\\', '\\']
  else if c = '\n' then ['\\', 'n']
  else if c = '\r' then ['\\', 'r']
  else if c = '\t' then ['\\', 't']
  else if n = 8 then ['\\', 'b']
  else if n = 12 then ['\\', 'f']
  else if 32 ≤ n && n ≤ 126 then [c]
  else if n < 0x10000 then unitEscape n
  else unitEscape (0xD800 + (n - 0x10000) / 0x400) ++ unitEscape (0xDC00 + (n - 0x10000) % 0x400)

def writeText (s : String) : String :=
  String.ofList ('"' :: s.toList.flatMap escapeChar ++ ['"'])

/-- The break before an item at a depth of nesting. -/
def lineBreak (indent : Option Nat) (depth : Nat) : String :=
  match indent with
  | none => ""
  | some width => "\n" ++ String.ofList (List.replicate (width * depth) ' ')

/-- The mark between two items. -/
def separator (indent : Option Nat) (depth : Nat) : String :=
  match indent with
  | none => ", "
  | some _ => "," ++ lineBreak indent depth

mutual

/-- The text of a value whose items stand one step deeper than `depth`. -/
def writeAt (indent : Option Nat) (depth : Nat) : Value → String
  | null => "null"
  | bool b => if b then "true" else "false"
  | int n => decimal n
  | real x => x.text "NaN" "Infinity"
  | text s => writeText s
  | list [] => "[]"
  | list (v :: rest) =>
    "[" ++ lineBreak indent (depth + 1) ++
      (separator indent (depth + 1)).intercalate
        (writeAt indent (depth + 1) v :: writeItems indent (depth + 1) rest) ++
      lineBreak indent depth ++ "]"
  | object [] => "\x7b\x7d"
  | object ((key, v) :: rest) =>
    "\x7b" ++ lineBreak indent (depth + 1) ++
      (separator indent (depth + 1)).intercalate
        ((writeText key ++ ": " ++ writeAt indent (depth + 1) v) ::
          writeFields indent (depth + 1) rest) ++
      lineBreak indent depth ++ "\x7d"

def writeItems (indent : Option Nat) (depth : Nat) : List Value → List String
  | [] => []
  | v :: rest => writeAt indent depth v :: writeItems indent depth rest

def writeFields (indent : Option Nat) (depth : Nat) : List (String × Value) → List String
  | [] => []
  | (key, v) :: rest =>
    (writeText key ++ ": " ++ writeAt indent depth v) :: writeFields indent depth rest

end

/-- A document with each item on a line of its own, `width` spaces deeper than what holds it. -/
def writeLines (width : Nat) (v : Value) : String := writeAt (some width) 0 v

def writeLine (v : Value) : String := writeAt none 0 v

def write (v : Value) : String := writeLines 2 v

end TaleLoom.Value
