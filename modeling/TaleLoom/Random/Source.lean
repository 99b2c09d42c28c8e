import TaleLoom.Random.Twister
/-!
The source of all randomness. A source is a value, and a draw gives a number and the source after
it. `below_lt` says that a draw below a positive number is below it, whatever the source.
-/

namespace TaleLoom

/-- Where random numbers come from. -/
inductive Source where
  /-- Numbers given beforehand, and zero after the last of them. -/
  | listed (draws : List Int)
  /-- A linear congruential generator on 64 bits. -/
  | congruential (state : Nat)
  | twister (t : Twister)

namespace Source

def ofSeed (seed : Int) : Source := .twister (Twister.ofSeed seed)

/-- A number below `n`. -/
def below (n : Nat) : Source → Nat × Source
  | listed [] => (0, listed [])
  | listed (r :: rest) => ((r % (n : Int)).toNat, listed rest)
  | congruential state =>
    let state := (state * 6364136223846793005 + 1442695040888963407) % (1 <<< 64)
    ((state >>> 33) % n, congruential state)
  | twister t =>
    let drawn := t.below n
    (drawn.1, twister drawn.2)

end Source

theorem Twister.nextBelow_lt {n : Nat} (hn : 0 < n) (bits allowance : Nat) (t : Twister) :
    (Twister.nextBelow n bits allowance t).1 < n := by
  induction allowance generalizing t with
  | zero => simpa [Twister.nextBelow] using hn
  | succ k ih =>
    simp only [Twister.nextBelow]
    split
    · assumption
    · exact ih _

/-- A number drawn below a positive `n` is below it. -/
theorem Source.below_lt {n : Nat} (hn : 0 < n) (s : Source) : (s.below n).1 < n := by
  cases s with
  | listed draws =>
    cases draws with
    | nil => simpa [Source.below] using hn
    | cons r rest =>
      have h := Int.emod_lt_of_pos r (b := n) (by omega)
      have h' := Int.emod_nonneg r (b := n) (by omega)
      simp only [Source.below]
      omega
  | congruential state => exact Nat.mod_lt _ hn
  | twister t => simpa only [Source.below, Twister.below] using Twister.nextBelow_lt hn _ _ t

end TaleLoom
