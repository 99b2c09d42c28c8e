import TaleLoom.Text.Blank
import TaleLoom.Text.Case
import TaleLoom.Text.Pieces
/-!
Modifiers of a drawn text: letter case, articles, and the plural and singular of English nouns by
their endings. `Modifier.named?` reads a modifier's name, `inflect` applies a row of names from
left to right, names that stand for nothing leaving the text alone.
-/

namespace TaleLoom

open Text

/-- What a modifier does to a text. -/
inductive Modifier where
  | capitalize
  | uppercase
  | lowercase
  | plural
  | singular
  | indefinite
  | definite
  deriving DecidableEq, Repr

namespace Modifier

/-- A text counts as a vowel where its lower case is a row of neighbouring vowels; nothing is no
vowel. -/
def isVowel (cs : List Char) : Bool :=
  !cs.isEmpty && occursIn (lowerAfter false cs) ['a', 'e', 'i', 'o', 'u']

/-- A word ends in one of the given endings. -/
def endsIn (endings : List (List Char)) (word : List Char) : Bool :=
  endings.any (·.isSuffixOf word)

/-- Endings that take a vowel before the plural's `s`. -/
def sibilants : List (List Char) := [['s'], ['x'], ['z'], ['c', 'h'], ['s', 'h']]

/-- Plurals of words that end in a sibilant. -/
def sibilantPlurals : List (List Char) :=
  [['s', 'e', 's'], ['x', 'e', 's'], ['z', 'e', 's'], ['c', 'h', 'e', 's'], ['s', 'h', 'e', 's']]

/-- A word of two letters or more that ends in `y` after no vowel. -/
def endsInConsonantY (word : List Char) : Bool :=
  match word.reverse with
  | 'y' :: before :: _ => !isVowel [before]
  | _ => false

/-- The first letter in upper case and the rest in lower case. -/
def capitalized (cs : List Char) : List Char :=
  (cs.take 1).flatMap upperLetter ++ lowerAfter false (cs.drop 1)

/-- The plural of a word: `es` after a sibilant, `ies` for a `y` after no vowel, `ves` for `f` and
`fe`, else `s`. -/
def pluralized (cs : List Char) : List Char :=
  let word := trim cs
  if endsIn sibilants word then word ++ ['e', 's']
  else if endsInConsonantY word then word.dropLast ++ ['i', 'e', 's']
  else if endsIn [['f']] word then word.dropLast ++ ['v', 'e', 's']
  else if endsIn [['f', 'e']] word then word.dropLast.dropLast ++ ['v', 'e', 's']
  else word ++ ['s']

/-- The singular of a word, by the plural's endings. -/
def singularized (cs : List Char) : List Char :=
  let word := trim cs
  if endsIn [['i', 'e', 's']] word then word.take (word.length - 3) ++ ['y']
  else if endsIn [['v', 'e', 's']] word then word.take (word.length - 3) ++ ['f']
  else if endsIn sibilantPlurals word then word.dropLast.dropLast
  else if endsIn [['s']] word && !endsIn [['s', 's']] word then word.dropLast
  else word

/-- The text a modifier makes of a text. -/
def apply : Modifier → List Char → List Char
  | capitalize, cs => capitalized cs
  | uppercase, cs => cs.flatMap upperLetter
  | lowercase, cs => lowerAfter false cs
  | plural, cs => pluralized cs
  | singular, cs => singularized cs
  | indefinite, cs => (if isVowel (cs.take 1) then ['a', 'n', ' '] else ['a', ' ']) ++ cs
  | definite, cs => 't' :: 'h' :: 'e' :: ' ' :: cs

/-- The modifier that a name stands for, in any letter case and with white space around it. -/
def named? (name : String) : Option Modifier :=
  match lower (strip name) with
  | "capitalize" => some capitalize
  | "uppercase" => some uppercase
  | "lowercase" => some lowercase
  | "plural" => some plural
  | "pluralize" => some plural
  | "singular" => some singular
  | "singularize" => some singular
  | "article" => some indefinite
  | "the" => some definite
  | _ => none

/-- The text that one modifier's name makes of a text. -/
def applyNamed (text : List Char) (name : String) : List Char :=
  match named? name with
  | some modifier => modifier.apply text
  | none => text

end Modifier

/-- The text after the named modifiers, from left to right. -/
def inflect (text : String) (names : List String) : String :=
  String.ofList (names.foldl Modifier.applyNamed text.toList)

end TaleLoom
