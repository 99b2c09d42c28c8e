import TaleLoom.Text.CaseTables
/-!
Lower case, upper case and the folded form that caseless comparison uses, for every letter. A
letter may turn into several (`ß` has the upper case `SS`), and the lower case of a capital sigma
depends on its place: at the end of a word it is `ς`. Text without letters is left alone.
-/

namespace TaleLoom.Text

/-- The code point that a run gives for `n`, where it has one. -/
def CaseRun.image? (run : CaseRun) (n : Nat) : Option Nat :=
  if run.first ≤ n && n ≤ run.last && (n - run.first) % run.stride == 0 then
    some ((n : Int) + run.shift).toNat
  else none

/-- The letters that take the place of a letter beyond ASCII. -/
def mapLetter (runs : List CaseRun) (expansions : List (Nat × List Nat)) (c : Char) : List Char :=
  match expansions.lookup c.toNat with
  | some ns => ns.map Char.ofNat
  | none =>
    match runs.findSome? (·.image? c.toNat) with
    | some n => [Char.ofNat n]
    | none => [c]

/-- The lower case of one letter wherever it stands. -/
def lowerLetter (c : Char) : List Char :=
  if c.toNat < 128 then [c.toLower] else mapLetter lowerRuns lowerExpansions c

def upperLetter (c : Char) : List Char :=
  if c.toNat < 128 then [c.toUpper] else mapLetter upperRuns upperExpansions c

def foldLetter (c : Char) : List Char :=
  if c.toNat < 128 then [c.toLower] else mapLetter foldRuns foldExpansions c

def inRanges (ranges : List (Nat × Nat)) (c : Char) : Bool :=
  ranges.any fun (first, last) => first ≤ c.toNat && c.toNat ≤ last

/-- A letter with case that is not a mark. -/
def isCased (c : Char) : Bool := inRanges casedRanges c

/-- A mark that does not end a word. -/
def isSkipped (c : Char) : Bool := inRanges skippedRanges c

/-- The word goes on: past the marks there is a letter with case. -/
def wordGoesOn (cs : List Char) : Bool := ((cs.dropWhile isSkipped).head?.map isCased).getD false

/-- Lower case of a text, given whether the part before it ends in a letter with case. -/
def lowerAfter (inWord : Bool) : List Char → List Char
  | [] => []
  | c :: rest =>
    let stillInWord := if isSkipped c then inWord else isCased c
    if c = 'Σ' then
      (if inWord && !wordGoesOn rest then 'ς' else 'σ') :: lowerAfter stillInWord rest
    else lowerLetter c ++ lowerAfter stillInWord rest

def lower (s : String) : String := String.ofList (lowerAfter false s.toList)

def upper (s : String) : String := String.ofList (s.toList.flatMap upperLetter)

/-- The folded form of a text: two texts with the same one differ at most in case. -/
def fold (s : String) : String := String.ofList (s.toList.flatMap foldLetter)

end TaleLoom.Text
