import TaleLoom.Value.Access
/-!
Rolls of dice as they are recorded: the faces, what was added to their sum, the total and why the
roll was made.
-/

namespace TaleLoom

open Number

/-- A roll, or the draw of one number from a range. -/
structure Roll where
  formula : String
  faces : List Int
  modifier : Int
  total : Int
  reason : String
  deriving DecidableEq, Repr

namespace Roll

def facesText (faces : List Int) : Except Fault String := do
  return "[" ++ ", ".intercalate (← faces.mapM digits) ++ "]"

def text (r : Roll) : Except Fault String := do
  let lead := r.formula ++ ": " ++ (← facesText r.faces)
  let total ← digits r.total
  if 0 < r.modifier then return lead ++ " + " ++ (← digits r.modifier) ++ " = " ++ total
  else if r.modifier < 0 then return lead ++ " - " ++ (← digits (-r.modifier)) ++ " = " ++ total
  else return lead ++ " = " ++ total

end Roll

end TaleLoom
