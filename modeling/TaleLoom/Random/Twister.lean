/-!
The Mersenne twister: 624 words of 32 bits, from which each round of tempering draws one word. A
generator is a value; drawing gives the word and the generator after it. A seed of any size fills
the words through its digits in base 2^32, so that equal seeds give equal runs.
-/

namespace TaleLoom

/-- The words of a generator and how many of them have been used. -/
structure Twister where
  words : Array UInt32
  used : Nat

namespace Twister

def size : Nat := 624

def offset : Nat := 397

/-- The words that a single number spreads to. -/
def spread (seed : UInt32) : Array UInt32 :=
  (List.range (size - 1)).foldl (fun (words : Array UInt32) i =>
    let last : UInt32 := words.getD i 0
    words.push ((last ^^^ (last >>> 30)) * 1812433253 + UInt32.ofNat (i + 1))) #[seed]

/-- The digits of a number in base 2^32, least significant first; zero has one digit. The
allowance covers their number. -/
def digitsOf : Nat → Nat → List UInt32
  | 0, _ => []
  | allowance + 1, n =>
    UInt32.ofNat n :: if n < 1 <<< 32 then [] else digitsOf allowance (n >>> 32)

/-- The words and the next place to change, after a pass has left the last place. -/
def wrap (words : Array UInt32) (i : Nat) : Array UInt32 × Nat :=
  if size ≤ i then (words.setIfInBounds 0 (words.getD (size - 1) 0), 1) else (words, i)

/-- One step that mixes a digit of the key into a word. -/
def mixKey (key : Array UInt32) (state : Array UInt32 × Nat × Nat) : Array UInt32 × Nat × Nat :=
  let (words, i, j) := state
  let last := words.getD (i - 1) 0
  let word := (words.getD i 0 ^^^ ((last ^^^ (last >>> 30)) * 1664525)) + key.getD j 0 +
    UInt32.ofNat j
  let (words, i) := wrap (words.setIfInBounds i word) (i + 1)
  (words, i, if key.size ≤ j + 1 then 0 else j + 1)

/-- One step that mixes a place into its word. -/
def mixPlace (state : Array UInt32 × Nat) : Array UInt32 × Nat :=
  let (words, i) := state
  let last := words.getD (i - 1) 0
  let word := (words.getD i 0 ^^^ ((last ^^^ (last >>> 30)) * 1566083941)) - UInt32.ofNat i
  wrap (words.setIfInBounds i word) (i + 1)

def ofSeed (seed : Int) : Twister :=
  let key := (digitsOf (seed.natAbs.log2 / 32 + 1) seed.natAbs).toArray
  let (words, i, _) :=
    (List.range (max size key.size)).foldl (fun s _ => mixKey key s) (spread 19650218, 1, 0)
  let (words, _) := (List.range (size - 1)).foldl (fun s _ => mixPlace s) (words, i)
  { words := words.setIfInBounds 0 0x80000000, used := size }

/-- The words after every one of them has been used. -/
def renew (words : Array UInt32) : Array UInt32 :=
  (List.range size).foldl (fun (words : Array UInt32) i =>
    let y := (words.getD i 0 &&& 0x80000000) ||| (words.getD ((i + 1) % size) 0 &&& 0x7fffffff)
    let flip : UInt32 := if y &&& 1 == 1 then 0x9908b0df else 0
    words.setIfInBounds i (words.getD ((i + offset) % size) 0 ^^^ (y >>> 1) ^^^ flip)) words

/-- A word with its bits mixed. -/
def temper (y : UInt32) : UInt32 :=
  let y := y ^^^ (y >>> 11)
  let y := y ^^^ ((y <<< 7) &&& 0x9d2c5680)
  let y := y ^^^ ((y <<< 15) &&& 0xefc60000)
  y ^^^ (y >>> 18)

/-- The next word. -/
def next (t : Twister) : UInt32 × Twister :=
  let t := if size ≤ t.used then { words := renew t.words, used := 0 } else t
  (temper (t.words.getD t.used 0), { t with used := t.used + 1 })

/-- The next words as one number, the first word least significant; `bits` are wanted in all and
the last word gives its highest ones. -/
def nextBits (t : Twister) (bits : Nat) : Nat × Twister :=
  if bits ≤ 32 then
    let (word, t) := t.next
    (word.toNat >>> (32 - bits), t)
  else
    let (word, t) := t.next
    let (rest, t) := nextBits t (bits - 32)
    (word.toNat + rest <<< 32, t)
termination_by bits

/-- A number below `n`: draws are repeated until one is small enough. At least half of the draws
are, so the allowance is never used up. -/
def nextBelow (n bits : Nat) : Nat → Twister → Nat × Twister
  | 0, t => (0, t)
  | allowance + 1, t =>
    let drawn := t.nextBits bits
    if drawn.1 < n then drawn else nextBelow n bits allowance drawn.2

/-- How many draws are made for one number at most. -/
def allowance : Nat := 65536

/-- A number below `n`, each equally likely. -/
def below (t : Twister) (n : Nat) : Nat × Twister := nextBelow n (n.log2 + 1) allowance t

end Twister

end TaleLoom
