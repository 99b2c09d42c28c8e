import TaleLoom.Number.Integer
import TaleLoom.Repository.Item
import TaleLoom.Text.Pieces
/-!
What the text of a placeholder asks for: a number from a range, a dice total, an outcome against a
difficulty, keywords, a random item, or a draw from a table. Keywords of the language are read in
any letter case. `Expression.ofBody` reads the text; it never fails, since what is nothing else is
the name of a table.
-/

namespace TaleLoom

open Text Number

/-- An integer as written: a minus sign or not, and digits. -/
structure WrittenInteger where
  negative : Bool
  digits : List Char
  deriving DecidableEq, Repr

/-- What a placeholder asks for. -/
inductive Expression where
  /-- A number from a range; none where the range has not the form of one. -/
  | range (ends : Option (WrittenInteger × WrittenInteger))
  | roll (formula : List Char)
  | outcome (difficulty : List Char)
  /-- Keywords; `word` is the word that asks for them. -/
  | sparks (word : String) (spec : List Char)
  | item (category : ItemCategory)
  | table
  deriving DecidableEq, Repr

namespace Expression

/-- A letter without its case, for the letters of the language's own words; the long s, the two
special forms of i and the kelvin sign count as the letters that they fold to. -/
def plainLetter (c : Char) : Char :=
  if c = '\u017f' then 's' else if c = '\u212a' then 'k'
  else if c = '\u0130' || c = '\u0131' then 'i' else c.toLower

/-- The rest of a text after a word at its front, in any letter case. -/
def afterWord? : List Char → List Char → Option (List Char)
  | [], cs => some cs
  | _ :: _, [] => none
  | w :: word, c :: cs => if plainLetter c = w then afterWord? word cs else none

/-- The text without one line feed at its end. -/
def dropFinalBreak (cs : List Char) : List Char :=
  if cs.getLast? = some '\n' then cs.dropLast else cs

/-- The rest of a text after a word and white space, without the white space around it. The rest has
to be one line that holds something beyond the first white space. -/
def argument? (word cs : List Char) : Option (List Char) :=
  (afterWord? word cs).bind fun rest =>
    let body := dropFinalBreak rest
    let blanks := (body.takeWhile isBlank).length
    let lastLine := (body.reverse.takeWhile (· != '\n')).length
    let lead := min blanks (body.length - 1)
    if 1 ≤ lead && body.length - lastLine ≤ lead then some (trim body) else none

/-- An integer at the front of a text, and the rest. -/
def writtenInteger? (cs : List Char) : Option (WrittenInteger × List Char) :=
  let (negative, body) := match cs with
    | '-' :: rest => (true, rest)
    | rest => (false, rest)
  let digits := body.takeWhile isDecimal
  if digits.isEmpty then none else some (⟨negative, digits⟩, body.dropWhile isDecimal)

/-- The two ends of a range after its word: white space, an integer, a minus sign and another
integer. -/
def ends? (cs : List Char) : Option (WrittenInteger × WrittenInteger) := do
  let rest ← afterWord? ['r', 'a', 'n', 'd'] cs
  if !(rest.head?.map isBlank).getD false then none
  let (low, rest) ← writtenInteger? (trimStart rest)
  match trimStart rest with
  | '-' :: rest =>
    let (high, rest) ← writtenInteger? (trimStart rest)
    if rest = [] || rest = ['\n'] then some (low, high) else none
  | _ => none

/-- The word for keywords at the front of a text, and what follows it. -/
def sparkWord? (cs : List Char) : Option (List Char × List Char) :=
  (afterWord? ['s', 'p', 'a', 'r', 'k'] cs).map fun rest =>
    match rest with
    | c :: more => if plainLetter c = 's' then (cs.take 6, more) else (cs.take 5, rest)
    | [] => (cs.take 5, rest)

/-- Keywords: the word alone, or a colon and the rest of the line. -/
def sparks? (cs : List Char) : Option Expression :=
  (sparkWord? cs).bind fun (word, rest) =>
    let name := lower (String.ofList word)
    match rest with
    | [] => some (sparks name [])
    | ['\n'] => some (sparks name [])
    | ':' :: spec =>
      let line := dropFinalBreak spec
      if line.contains '\n' then none else some (sparks name line)
    | _ => none

def categoryNames : List (String × ItemCategory) :=
  [("character", .character), ("characters", .character), ("location", .location),
    ("locations", .location), ("object", .object), ("objects", .object), ("item", .object),
    ("items", .object), ("situation", .situation), ("situations", .situation),
    ("event", .situation), ("events", .situation)]

def item? (cs : List Char) : Option Expression :=
  (afterWord? ['r', 'a', 'n', 'd', 'o', 'm', '_'] cs).bind fun rest =>
    (categoryNames.lookup (lower (String.ofList (dropFinalBreak rest)))).map item

/-- The text starts with a word and a space, or is the word. -/
def startsWithWord (word cs : List Char) : Bool :=
  (word ++ [' ']).isPrefixOf cs || cs == word

/-- What the text of a placeholder asks for; items can be asked for only where there are some. -/
def ofBody (hasItems : Bool) (cs : List Char) : Expression :=
  let lowered := lowerAfter false cs
  if startsWithWord ['r', 'a', 'n', 'd'] lowered then range (ends? cs)
  else if startsWithWord ['r', 'o', 'l', 'l'] lowered then
    roll ((argument? ['r', 'o', 'l', 'l'] cs).getD [])
  else
    ((argument? ['d', 'c'] cs).map outcome).getD <|
      (sparks? cs).getD <|
        ((if hasItems then item? cs else none).getD table)

/-- The number of draws that a part of a table's placeholder asks for. -/
def pickCount? (cs : List Char) : Option (List Char) :=
  (afterWord? ['p', 'i', 'c', 'k'] cs).bind fun rest =>
    let digits := trimStart rest
    if (rest.head?.map isBlank).getD false && !digits.isEmpty && digits.all isDecimal then
      some digits
    else none

end Expression

end TaleLoom
