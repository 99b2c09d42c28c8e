import TaleLoom.Value
import TaleLoom.Number.Integer
import TaleLoom.Number.Shortest
import TaleLoom.Text.Quoted
import TaleLoom.Text.Pieces
/-!
Values as text in messages and labels. `shown` puts a text between quotation marks, `plain` leaves
a text that stands alone as it is; inside lists and objects every text is quoted.
-/

namespace TaleLoom.Value

open Number

mutual

def shown : Value → String
  | null => "None"
  | bool b => if b then "True" else "False"
  | int n => decimal n
  | real x => x.text "nan" "inf"
  | text s => Text.quoted s
  | list items => "[" ++ Text.join ", " (shownItems items) ++ "]"
  | object fields => "\x7b" ++ Text.join ", " (shownFields fields) ++ "\x7d"

def shownItems : List Value → List String
  | [] => []
  | v :: rest => shown v :: shownItems rest

def shownFields : List (String × Value) → List String
  | [] => []
  | (key, v) :: rest => (Text.quoted key ++ ": " ++ shown v) :: shownFields rest

end

/-- A value as a text of its own. -/
def plain : Value → String
  | text s => s
  | v => shown v

end TaleLoom.Value
