import TaleLoom.Value.Reader
/-!
Points in time in the forms of ISO 8601. They are written as a date, a letter `T`, a time of day, with
six digits for the part of a second where there is one, and their offset from world time where they
have one. All forms of a date in eight digits or in weeks are read, with dashes and without, any
character between date and time, and times of day that leave out their last parts.
-/

namespace TaleLoom

/-- A point in time. The offset from world time is in millionths of a second. -/
structure Timestamp where
  year : Nat
  month : Nat
  day : Nat
  hour : Nat := 0
  minute : Nat := 0
  second : Nat := 0
  micro : Nat := 0
  offset : Option Int := none
  deriving DecidableEq, Repr

namespace Timestamp

/-- A number filled up with zeros to a width. -/
def padded (width n : Nat) : String :=
  let digits := Nat.repr n
  String.ofList (List.replicate (width - digits.length) '0') ++ digits

/-- How many millionths a second has. -/
def microsPerSecond : Nat := 1000000

/-- The part of a second, where there is one. -/
def fractionText (micro : Nat) : String := if micro = 0 then "" else "." ++ padded 6 micro

/-- The size of an offset in hours and minutes, and in seconds where these are not enough. -/
def sizeText (seconds micro : Nat) : String :=
  padded 2 (seconds / 3600) ++ ":" ++ padded 2 (seconds / 60 % 60) ++
    if seconds % 60 = 0 && micro = 0 then "" else ":" ++ padded 2 (seconds % 60) ++ fractionText micro

def offsetText (offset : Int) : String :=
  (if offset < 0 then "-" else "+") ++
    sizeText (offset.natAbs / microsPerSecond) (offset.natAbs % microsPerSecond)

def text (t : Timestamp) : String :=
  padded 4 t.year ++ "-" ++ padded 2 t.month ++ "-" ++ padded 2 t.day ++ "T" ++
    padded 2 t.hour ++ ":" ++ padded 2 t.minute ++ ":" ++ padded 2 t.second ++ fractionText t.micro ++
    match t.offset with
    | none => ""
    | some offset => offsetText offset

section Calendar

def isLeapYear (year : Nat) : Bool := year % 4 == 0 && (year % 100 != 0 || year % 400 == 0)

def daysIn (year month : Nat) : Nat :=
  if month = 2 then (if isLeapYear year then 29 else 28)
  else if month = 4 || month = 6 || month = 9 || month = 11 then 30
  else 31

/-- An offset of less than a day; one of less than a second is none. -/
def isOffset (offset : Int) : Bool :=
  offset.natAbs < 24 * 3600 * microsPerSecond && (offset == 0 || microsPerSecond ≤ offset.natAbs)

def isValid (t : Timestamp) : Bool :=
  1 ≤ t.year && t.year ≤ 9999 && 1 ≤ t.month && t.month ≤ 12 && 1 ≤ t.day &&
    t.day ≤ daysIn t.year t.month && t.hour < 24 && t.minute < 60 && t.second < 60 &&
    t.micro < microsPerSecond && t.offset.all isOffset

/-- The weekday on which a year begins; Mondays are 0. -/
def firstWeekday (year : Nat) : Nat :=
  let past := year - 1
  (365 * past + past / 4 - past / 100 + past / 400) % 7

/-- Years that begin on a Thursday have a week more, and so have leap years from a Wednesday on. -/
def weeksIn (year : Nat) : Nat :=
  if firstWeekday year = 3 || (firstWeekday year = 2 && isLeapYear year) then 53 else 52

/-- The date so many days after the first of a month, which is one of the last so many of its year. -/
def dateAfter (year : Nat) : Nat → Nat → Timestamp
  | 0, days => { year := year + 1, month := 1, day := days + 1 }
  | left + 1, days =>
    let month := 12 - left
    if days < daysIn year month then { year, month, day := days + 1 }
    else dateAfter year left (days - daysIn year month)

/-- The date of a day of a week. The first week of a year is the one with its first Thursday. -/
def weekDate? (year week day : Nat) : Option Timestamp :=
  if 1 ≤ year && 1 ≤ week && week ≤ weeksIn year && 1 ≤ day && day ≤ 7 then
    let first := firstWeekday year
    let days := (week - 1) * 7 + (day - 1) + if first > 3 then 7 else 0
    some <| if days < first then { year := year - 1, month := 12, day := 32 + days - first }
      else dateAfter year 12 (days - first)
  else none

end Calendar

section Reading

/-- The number that a row of ASCII digits stands for. -/
def number? (cs : List Char) : Option Nat :=
  if cs.all Value.isAsciiDigit then some (Text.digitsValue cs) else none

/-- The number of so many digits at the front of a text, and the rest. -/
def digits? (count : Nat) (cs : List Char) : Option (Nat × List Char) :=
  if count ≤ cs.length then (number? (cs.take count)).map (·, cs.drop count) else none

/-- A text that ends here. A null character ends a text too. -/
def ends : List Char → Bool
  | [] => true
  | c :: _ => c == '\x00'

/-- How many characters at the front of a text are its date. In a date of weeks without dashes the day
may be left out; then an odd number of digits stands behind the week, where a digit parts date and
time. -/
def dateLength? (cs : List Char) : Option Nat :=
  if cs.length < 7 then none
  else if cs.length = 7 then some 7
  else
    match cs.drop 4 with
    | '-' :: 'W' :: week =>
      match week.drop 2 with
      | ['-'] => none
      | '-' :: _ :: c :: _ => some (if Value.isAsciiDigit c then 8 else 10)
      | '-' :: _ => some 10
      | _ => some 8
    | '-' :: _ => some 10
    | 'W' :: week =>
      let digits := ((week.drop 2).takeWhile Value.isAsciiDigit).length
      some (if digits < 2 then 7 + digits else if digits % 2 = 1 then 7 else 8)
    | _ => some 8

/-- The next part of a date, behind a dash where its parts have dashes between them. -/
def part? (dashes : Bool) (count : Nat) (cs : List Char) : Option (Nat × List Char) :=
  if dashes then
    match cs with
    | '-' :: rest => digits? count rest
    | _ => none
  else digits? count cs

/-- The date that a text is: a year with a month and a day, or with a week and perhaps a weekday. -/
def date? (cs : List Char) : Option Timestamp := do
  let (year, rest) ← digits? 4 cs
  let dashes := rest.head? == some '-'
  match if dashes then rest.drop 1 else rest with
  | 'W' :: rest =>
    let (week, rest) ← digits? 2 rest
    if rest.isEmpty then weekDate? year week 1
    else weekDate? year week (← part? dashes 1 rest).1
  | rest =>
    let (month, rest) ← digits? 2 rest
    let (day, rest) ← part? dashes 2 rest
    if rest.isEmpty then some { year, month, day } else none

/-- What stands behind two digits of a time of day. -/
inductive Follow where
  /-- The end, or a last character. -/
  | last (ends : Bool)
  | more (cs : List Char)
  | fraction (cs : List Char)

/-- How a time of day goes on, with colons between its parts or without. -/
def follow? (colons : Bool) : List Char → Option Follow
  | [] => some (.last true)
  | [c] => if c.toNat < 128 then some (.last (ends [c])) else none
  | c :: rest =>
    if colons && c == ':' then some (.more rest)
    else if c == '.' || c == ',' then some (.fraction rest)
    else if colons then none
    else some (.more (c :: rest))

/-- A time of day as it is read: hour, minute and second as far as they are given, the part of a second,
and whether this was all. -/
structure Clocked where
  parts : List Nat
  micro : Nat := 0
  ends : Bool

/-- The part of a second. More than six digits are not looked at. -/
def fraction? (parts : List Nat) (cs : List Char) : Option Clocked := do
  let count := min 6 cs.length
  let (n, rest) ← digits? count cs
  return { parts, micro := n * Number.tenTo (6 - count), ends := ends (rest.dropWhile Value.isAsciiDigit) }

/-- The rest of a time of day, of which so many parts may follow those that were read. -/
def clockFrom? (colons : Bool) : Nat → List Nat → List Char → Option Clocked
  | 0, parts, cs => fraction? parts cs
  | left + 1, parts, cs => do
    let (n, rest) ← digits? 2 cs
    match ← follow? colons rest with
    | .last ends => some { parts := parts ++ [n], ends }
    | .fraction rest => fraction? (parts ++ [n]) rest
    | .more rest => clockFrom? colons left (parts ++ [n]) rest

/-- A time of day; a colon behind the hour says that there are colons. -/
def clock? (cs : List Char) : Option Clocked := clockFrom? ((cs.drop 2).head? == some ':') 3 [] cs

namespace Clocked

def part (c : Clocked) (place : Nat) : Nat := (c.parts[place]?).getD 0

/-- The time of day as the size of an offset, which is none where it has no whole second. -/
def size (c : Clocked) : Nat :=
  let seconds := c.part 0 * 3600 + c.part 1 * 60 + c.part 2
  if seconds = 0 then 0 else seconds * microsPerSecond + c.micro

end Clocked

def isZoneMark (c : Char) : Bool := c == '+' || c == '-' || c == 'Z'

/-- A time of day and its offset. Where there is an offset, what is left of the time of day in front of
it is passed over. -/
def time? (cs : List Char) : Option (Clocked × Option Int) := do
  let clock ← clock? (cs.takeWhile fun c => !isZoneMark c)
  match cs.dropWhile fun c => !isZoneMark c with
  | [] => if clock.ends then some (clock, none) else none
  | 'Z' :: rest => if ends rest then some (clock, some 0) else none
  | sign :: rest =>
    let zone ← clock? rest
    if zone.ends then some (clock, some (if sign = '-' then -(zone.size : Int) else zone.size)) else none

/-- The time of day of a text, if there is any, set on a date. -/
def timeOn? (date : Timestamp) : List Char → Option Timestamp
  | [] => some date
  | _ :: cs => do
    let (clock, offset) ← time? cs
    return { date with hour := clock.part 0, minute := clock.part 1, second := clock.part 2
                       micro := clock.micro, offset }

/-- The point in time that a text stands for. -/
def read? (s : String) : Option Timestamp := do
  let count ← dateLength? s.toList
  let t ← timeOn? (← date? (s.toList.take count)) (s.toList.drop count)
  if t.isValid then some t else none

end Reading

end Timestamp

/-- What the clock shows: a point in time, and the same in milliseconds of the epoch. -/
structure Clock where
  moment : Timestamp
  millis : Int

end TaleLoom
