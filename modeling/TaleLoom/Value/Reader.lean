import TaleLoom.Value
import TaleLoom.Number.Integer
/-!
JSON documents read as values. Fields keep their order; a field written twice has its last value at
its first place. Beside JSON's own numbers the names `NaN`, `Infinity` and `-Infinity` are read. A
whole number of too many digits is a fault of its own, and so is a list or an object that stands too
deep in others. Each is found where it stands, so that a document with two faults reports the first.
-/

namespace TaleLoom.Value

open Number

/-- Why a text is no document. -/
inductive ReadFault where
  | malformed
  | numberTooLong
  | tooDeep
  deriving DecidableEq, Repr

/-- What a reading step gives: the thing read and the rest of the text. -/
abbrev Reading (α : Type) := Except ReadFault (α × List Char)

def isSpace (c : Char) : Bool := c == ' ' || c == '\n' || c == '\t' || c == '\r'

def skipSpace (cs : List Char) : List Char := cs.dropWhile isSpace

def isAsciiDigit (c : Char) : Bool := '0' ≤ c && c ≤ '9'

/-- The value of a digit in base sixteen. -/
def hexValue? (c : Char) : Option Nat :=
  if '0' ≤ c && c ≤ '9' then some (c.toNat - '0'.toNat)
  else if 'a' ≤ c && c ≤ 'f' then some (c.toNat - 'a'.toNat + 10)
  else if 'A' ≤ c && c ≤ 'F' then some (c.toNat - 'A'.toNat + 10)
  else none

/-- The code unit that four digits in base sixteen stand for. -/
def codeUnit? (a b c d : Char) : Option Nat := do
  return (← hexValue? a) * 4096 + (← hexValue? b) * 256 + (← hexValue? c) * 16 + (← hexValue? d)

/-- The character of a code unit; half of a surrogate pair that stands alone has none and is
replaced. -/
def unitChar (n : Nat) : Char := if 0xD800 ≤ n && n < 0xE000 then Char.ofNat 0xFFFD else Char.ofNat n

/-- The character after a backslash, where it stands for a single one. -/
def escaped? (c : Char) : Option Char :=
  match c with
  | '"' => some '"'
  | '\\' => some '\\'
  | '/' => some '/'
  | 'b' => some (Char.ofNat 8)
  | 'f' => some (Char.ofNat 12)
  | 'n' => some '\n'
  | 'r' => some '\r'
  | 't' => some '\t'
  | _ => none

/-- The rest of a text after its opening quotation mark; `seen` holds what was read, backwards. -/
def readText (seen : List Char) : List Char → Reading String
  | [] => .error .malformed
  | '"' :: rest => .ok (String.ofList seen.reverse, rest)
  | '\\' :: 'u' :: a :: b :: c :: d :: '\\' :: 'u' :: e :: f :: g :: h :: rest =>
    match codeUnit? a b c d with
    | none => .error .malformed
    | some n =>
      if 0xD800 ≤ n && n < 0xDC00 then
        match codeUnit? e f g h with
        | none => .error .malformed
        | some m =>
          if 0xDC00 ≤ m && m < 0xE000 then
            readText (Char.ofNat (0x10000 + (n - 0xD800) * 0x400 + (m - 0xDC00)) :: seen) rest
          else readText (unitChar n :: seen) ('\\' :: 'u' :: e :: f :: g :: h :: rest)
      else readText (unitChar n :: seen) ('\\' :: 'u' :: e :: f :: g :: h :: rest)
  | '\\' :: 'u' :: a :: b :: c :: d :: rest =>
    match codeUnit? a b c d with
    | none => .error .malformed
    | some n => readText (unitChar n :: seen) rest
  | '\\' :: c :: rest =>
    match escaped? c with
    | none => .error .malformed
    | some e => readText (e :: seen) rest
  | c :: rest => if c.toNat < 32 then .error .malformed else readText (c :: seen) rest

/-- The digits at the front of a text. -/
def spanDigits (cs : List Char) : List Char × List Char :=
  (cs.takeWhile isAsciiDigit, cs.dropWhile isAsciiDigit)

/-- The digits after a decimal point, if any stand there. -/
def readPlaces (cs : List Char) : List Char × List Char :=
  match cs with
  | '.' :: rest =>
    let (digits, after) := spanDigits rest
    if digits.isEmpty then ([], cs) else (digits, after)
  | _ => ([], cs)

/-- An exponent, if one stands there. -/
def readExponent (cs : List Char) : Option Int × List Char :=
  match cs with
  | e :: rest =>
    if e = 'e' || e = 'E' then
      let (negative, body) := match rest with
        | '-' :: r => (true, r)
        | '+' :: r => (false, r)
        | r => (false, r)
      let (digits, after) := spanDigits body
      if digits.isEmpty then (none, cs)
      else
        let n : Int := Text.digitsValue digits
        (some (if negative then -n else n), after)
    else (none, cs)
  | [] => (none, cs)

/-- A number without its sign. -/
def readNumber (negative : Bool) (cs : List Char) : Reading Value :=
  let (whole, rest) := match cs with
    | '0' :: rest => (['0'], rest)
    | _ => spanDigits cs
  if whole.isEmpty then .error .malformed
  else
    let (places, rest) := readPlaces rest
    let (exponent, rest) := readExponent rest
    if places.isEmpty && exponent.isNone then
      match readDigits? whole with
      | none => .error .numberTooLong
      | some n => .ok (int (if negative then -(n : Int) else n), rest)
    else
      let digits := Text.digitsValue (whole ++ places)
      .ok (real (Binary64.ofDecimal negative digits (exponent.getD 0 - places.length)), rest)

/-- A value that is no list and no object, at the front of a text. -/
def readSimple (cs : List Char) : Reading Value :=
  match cs with
  | '"' :: rest => (readText [] rest).map fun (s, rest) => (text s, rest)
  | 'n' :: 'u' :: 'l' :: 'l' :: rest => .ok (null, rest)
  | 't' :: 'r' :: 'u' :: 'e' :: rest => .ok (bool true, rest)
  | 'f' :: 'a' :: 'l' :: 's' :: 'e' :: rest => .ok (bool false, rest)
  | 'N' :: 'a' :: 'N' :: rest => .ok (real .undefined, rest)
  | 'I' :: 'n' :: 'f' :: 'i' :: 'n' :: 'i' :: 't' :: 'y' :: rest =>
    .ok (real (.infinite false), rest)
  | '-' :: 'I' :: 'n' :: 'f' :: 'i' :: 'n' :: 'i' :: 't' :: 'y' :: rest =>
    .ok (real (.infinite true), rest)
  | '-' :: rest => readNumber true rest
  | cs => readNumber false cs

mutual

/-- A value at the front of a text. The room is for lists and objects that stand in one another; the
allowance covers the steps of the reading, of which there are at most two for each character. -/
def readValue : Nat → Nat → List Char → Reading Value
  | 0, _, _ => .error .malformed
  | allowance + 1, room, cs =>
    match cs with
    | '\x7b' :: rest =>
      match room with
      | 0 => .error .tooDeep
      | room + 1 =>
        match skipSpace rest with
        | '\x7d' :: rest => .ok (object [], rest)
        | rest => readFields allowance room [] rest
    | '[' :: rest =>
      match room with
      | 0 => .error .tooDeep
      | room + 1 =>
        match skipSpace rest with
        | ']' :: rest => .ok (list [], rest)
        | rest => readItems allowance room [] rest
    | cs => readSimple cs

/-- The items of a list from one item on; `seen` holds those before it, backwards. -/
def readItems : Nat → Nat → List Value → List Char → Reading Value
  | 0, _, _, _ => .error .malformed
  | allowance + 1, room, seen, cs =>
    match readValue allowance room cs with
    | .error fault => .error fault
    | .ok (v, rest) =>
      match skipSpace rest with
      | ',' :: rest => readItems allowance room (v :: seen) (skipSpace rest)
      | ']' :: rest => .ok (list (v :: seen).reverse, rest)
      | _ => .error .malformed

/-- The fields of an object from one field on. -/
def readFields : Nat → Nat → List (String × Value) → List Char → Reading Value
  | 0, _, _, _ => .error .malformed
  | allowance + 1, room, seen, cs =>
    match cs with
    | '"' :: rest =>
      match readText [] rest with
      | .error fault => .error fault
      | .ok (key, rest) =>
        match skipSpace rest with
        | ':' :: rest =>
          match readValue allowance room (skipSpace rest) with
          | .error fault => .error fault
          | .ok (v, rest) =>
            match skipSpace rest with
            | ',' :: rest => readFields allowance room (Keyed.set key v seen) (skipSpace rest)
            | '\x7d' :: rest => .ok (object (Keyed.set key v seen), rest)
            | _ => .error .malformed
        | _ => .error .malformed
    | _ => .error .malformed

end

/-- The document that a text is, in which lists and objects stand no deeper than there is room for. -/
def read (room : Nat) (s : String) : Except ReadFault Value :=
  let cs := skipSpace s.toList
  match readValue (2 * cs.length + 1) room cs with
  | .error fault => .error fault
  | .ok (v, rest) => if (skipSpace rest).isEmpty then .ok v else .error .malformed

end TaleLoom.Value
