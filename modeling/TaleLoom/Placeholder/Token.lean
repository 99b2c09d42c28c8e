/-!
Placeholders in a text. A placeholder is an innermost pair of braces around a text without braces,
doubled where another pair stands directly around it. `segments` cuts a text into placeholders and
the characters between them; `flatten_segments` says that nothing is lost.
-/

namespace TaleLoom

/-- A placeholder: the text between its braces, and whether the braces are doubled. -/
structure Token where
  doubled : Bool
  body : List Char
  deriving DecidableEq, Repr

/-- A character outside of placeholders, or a placeholder. -/
inductive Segment where
  | plain (c : Char)
  | token (t : Token)
  deriving DecidableEq, Repr

def isBrace (c : Char) : Bool := c == '\x7b' || c == '\x7d'

def Token.text (t : Token) : List Char :=
  if t.doubled then '\x7b' :: '\x7b' :: t.body ++ ['\x7d', '\x7d'] else '\x7b' :: t.body ++ ['\x7d']

def Segment.text : Segment → List Char
  | plain c => [c]
  | token t => t.text

namespace Token

/-- The text without braces at the front, and the rest. -/
def spanBody (cs : List Char) : List Char × List Char :=
  (cs.takeWhile (!isBrace ·), cs.dropWhile (!isBrace ·))

/-- A placeholder with doubled braces at the front of a text, and the rest of the text. -/
def doubledAt? : List Char → Option (Token × List Char)
  | '\x7b' :: '\x7b' :: cs =>
    match spanBody cs with
    | (c :: body, '\x7d' :: '\x7d' :: rest) => some (⟨true, c :: body⟩, rest)
    | _ => none
  | _ => none

/-- A placeholder with single braces at the front of a text, and the rest of the text. -/
def singleAt? : List Char → Option (Token × List Char)
  | '\x7b' :: cs =>
    match spanBody cs with
    | (c :: body, '\x7d' :: rest) => some (⟨false, c :: body⟩, rest)
    | _ => none
  | _ => none

/-- A placeholder at the front of a text, doubled braces first, and the rest of the text. -/
def at? (cs : List Char) : Option (Token × List Char) := (doubledAt? cs).or (singleAt? cs)

theorem text_doubledAt? {cs rest : List Char} {t : Token} (h : doubledAt? cs = some (t, rest)) :
    t.text ++ rest = cs := by
  unfold doubledAt? at h
  split at h
  · next cs =>
    split at h
    · next c body rest' hs =>
      obtain ⟨rfl, rfl⟩ := Prod.mk.inj (Option.some.inj h)
      have hb := congrArg Prod.fst hs
      have hr := congrArg Prod.snd hs
      simp only [spanBody] at hb hr
      have hcs := List.takeWhile_append_dropWhile (p := (!isBrace ·)) (l := cs)
      rw [hb, hr] at hcs
      simp [text, ← hcs]
    · exact absurd h (by simp)
  · exact absurd h (by simp)

theorem text_singleAt? {cs rest : List Char} {t : Token} (h : singleAt? cs = some (t, rest)) :
    t.text ++ rest = cs := by
  unfold singleAt? at h
  split at h
  · next cs =>
    split at h
    · next c body rest' hs =>
      obtain ⟨rfl, rfl⟩ := Prod.mk.inj (Option.some.inj h)
      have hb := congrArg Prod.fst hs
      have hr := congrArg Prod.snd hs
      simp only [spanBody] at hb hr
      have hcs := List.takeWhile_append_dropWhile (p := (!isBrace ·)) (l := cs)
      rw [hb, hr] at hcs
      simp [text, ← hcs]
    · exact absurd h (by simp)
  · exact absurd h (by simp)

/-- A placeholder found at the front and the rest are the text. -/
theorem text_at? {cs rest : List Char} {t : Token} (h : at? cs = some (t, rest)) :
    t.text ++ rest = cs := by
  unfold at? at h
  cases hd : doubledAt? cs with
  | some found =>
    rw [hd] at h
    exact text_doubledAt? (hd.trans (by simpa using h))
  | none =>
    rw [hd] at h
    exact text_singleAt? (by simpa using h)

theorem text_length_pos (t : Token) : 0 < t.text.length := by
  unfold text
  split <;> simp

theorem length_lt_of_at? {cs rest : List Char} {t : Token} (h : at? cs = some (t, rest)) :
    rest.length < cs.length := by
  have hl := congrArg List.length (text_at? h)
  have hp := t.text_length_pos
  rw [List.length_append] at hl
  omega

end Token

/-- The text cut into placeholders and the characters between them. -/
def segments (cs : List Char) : List Segment :=
  match cs with
  | [] => []
  | c :: cs =>
    match _h : Token.at? (c :: cs) with
    | some (t, rest) => .token t :: segments rest
    | none => .plain c :: segments cs
termination_by cs.length
decreasing_by
  · exact Token.length_lt_of_at? _h
  · simp

/-- Cutting a text into segments loses nothing. -/
theorem flatten_segments (cs : List Char) : (segments cs).flatMap Segment.text = cs := by
  fun_induction segments cs with
  | case1 => rfl
  | case2 c cs t rest h ih => rw [List.flatMap_cons, ih, Segment.text, Token.text_at? h]
  | case3 c cs h ih => rw [List.flatMap_cons, ih, Segment.text, List.singleton_append]

/-- The placeholders of a text, from left to right. -/
def tokens (cs : List Char) : List Token :=
  (segments cs).filterMap fun
    | .token t => some t
    | .plain _ => none

end TaleLoom
