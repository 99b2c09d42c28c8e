import TaleLoom.Consumption.Store
import TaleLoom.Inflection
import TaleLoom.Placeholder.Expression
import TaleLoom.Placeholder.Token
import TaleLoom.Registry.Rolls
import TaleLoom.Spark.Draw
/-!
Expanding placeholders. `Resolver.resolve` expands a text in passes: each pass gives every
placeholder one attempt, and what comes out is looked at again one level deeper, until a pass
changes nothing or the greatest depth is reached. A placeholder that cannot be expanded stays in
the text, or is replaced by a diagnostic, and leaves a warning.
-/

namespace TaleLoom

open Text Number

/-- How texts are expanded. -/
structure ResolverOptions where
  /-- The story that consumable tables are drawn for. -/
  story : String := "default"
  maxDepth : Int := 10
  /-- Every placeholder of the text has an attempt in each pass; else the text is looked at anew
  after the first replacement. -/
  expandAllPerPass : Bool := true
  /-- What cannot be expanded is replaced by a diagnostic. -/
  markUnresolved : Bool := false
  deriving DecidableEq, Repr

/-- How texts are expanded, and the items that can be asked for. -/
structure Resolver where
  options : ResolverOptions := {}
  items : Option (List Item) := none

/-- Why a placeholder cannot be expanded. -/
inductive Diagnostic where
  | range (body : String)
  | dice (formula : String)
  | difficulty (value : String)
  | unknownSparks (names : List String)
  | noSparks
  | noItems (category : ItemCategory)
  | unknownTable (name : String)
  | invalidTable (name : Value)

namespace Diagnostic

def message : Diagnostic → String
  | range body => "[Invalid range: " ++ body ++ "]"
  | dice formula => "[Invalid dice: " ++ formula ++ "]"
  | difficulty value => "[Invalid DC: " ++ value ++ "]"
  | unknownSparks names => "[Unknown spark table: " ++ join ", " names ++ "]"
  | noSparks => "[No sparks available]"
  | noItems category => "[No " ++ category.name ++ " items found]"
  | unknownTable name => "[Unknown table: " ++ name ++ "]"
  | invalidTable name => "[Invalid table: " ++ name.plain ++ "]"

end Diagnostic

/-- An attempt: a value in the placeholder's place, or a diagnostic. Only the name of an item can be
another value than a text. -/
abbrev Attempt := Except Diagnostic Value

namespace WrittenInteger

def value (w : WrittenInteger) : Except Fault Int :=
  match readDigits? w.digits with
  | some n => .ok (if w.negative then -(n : Int) else n)
  | none => .error .numeral

end WrittenInteger

namespace Resolver

def resolveRange (body : String) (ends : Option (WrittenInteger × WrittenInteger)) :
    Act Scene Attempt := do
  match ends with
  | none => return .error (.range body)
  | some (first, last) =>
    let low ← first.value
    let high ← last.value
    if low > high then return .error (.range body)
    let n ← Desk.draw low high ("placeholder: " ++ body)
    return .ok (.text (← digits n))

/-- A dice total. -/
def resolveRoll (body formula : String) : Act Scene Attempt := do
  match ← Act.attempt (Desk.roll (.text formula) ("placeholder: " ++ body)) with
  | .ok r => return .ok (.text (← digits r.total))
  | .error (.dice ..) => return .error (.dice formula)
  | .error fault => throw fault

def resolveOutcome (value : List Char) : Act Scene Attempt := do
  match readInteger? value with
  | none => return .error (.difficulty (String.ofList value))
  | some n => return .ok (.text (← Registry.rollDifficulty n).description)

/-- How many keywords a word asks for where no number is given. -/
def sparkCount (word : String) : Except Fault Int :=
  if word = "spark" then .ok 1 else if word = "sparks" then .ok 2 else .error (.unknownKey word)

/-- The parts of a text between separators, without blank ones and the white space around them. -/
def filledParts (separator : Char) (cs : List Char) : List (List Char) :=
  ((cut separator cs).map trim).filter (!·.isEmpty)

/-- The number at the end of the parts after the word, if the last part is a row of digits, and the
parts before it. -/
def splitCount (parts : List (List Char)) : Except Fault (Option Int × List (List Char)) :=
  match parts.getLast? with
  | none => .ok (none, parts)
  | some last =>
    if last.all isDigit then
      match readInteger? last with
      | some n => .ok (some n, parts.dropLast)
      | none => .error .numeral
    else .ok (none, parts)

/-- How many keywords are asked for, and the names of the tables that they come from. -/
def sparkRequest (word : String) (spec : List Char) : Except Fault (Int × List String) := do
  let usual ← sparkCount word
  let (given, parts) ← splitCount (filledParts ':' spec)
  return (given.getD usual, (parts.flatMap (filledParts ',')).map String.ofList)

/-- The spark tables of some names; a name that stands for none leaves a warning. -/
def findSparkTables : List String → Act Scene (List SparkTable)
  | [] => pure []
  | name :: rest => do
    match ← (← get).sparks.find name with
    | none =>
      Desk.warn ("Spark table '" ++ name ++ "' not found")
      findSparkTables rest
    | some table => return table :: (← findSparkTables rest)

/-- So many keywords from the tables that some names stand for, or from all that are enabled. -/
def keywordsFrom (count : Int) (names : List String) (tables : Option (List SparkTable)) :
    Act Scene Attempt := do
  if (tables.map List.isEmpty).getD false then return .error (.unknownSparks names)
  let keywords ← SparkLibrary.generate count .sparks tables
  if keywords.isEmpty then return .error .noSparks
  return .ok (.text (join ", " keywords))

/-- Keywords from the named tables, or from all that are enabled. -/
def resolveSparks (word : String) (spec : List Char) : Act Scene Attempt := do
  let (count, names) ← sparkRequest word spec
  if names.isEmpty then keywordsFrom count names none
  else keywordsFrom count names (some (← findSparkTables names))

/-- The name of a random item of a kind, which need not be a text. -/
def resolveItem (resolver : Resolver) (category : ItemCategory) : Act Scene Attempt := do
  let candidates := (resolver.items.getD []).filter (·.category = category)
  if candidates.isEmpty then return .error (.noItems category)
  let item ← Desk.choose candidates ("random " ++ lower category.name)
  return .ok item.name

/-- A draw that a story has not had yet. -/
def drawConsumable (resolver : Resolver) (table : RandomTable) : Act Scene TableResult := do
  let story := resolver.options.story
  let pool ← ConsumptionStore.available table story
  let result ← Registry.rollOn pool none 50
  match result.identity with
  | some entry => ConsumptionStore.markConsumed table.name story entry
  | none => pure ()
  return result

/-- What the parts after a table's name ask for: a draw without repetition, a number of draws, and
modifiers. -/
structure DrawRequest where
  consumable : Bool
  picks : Nat := 1
  /-- The names of the modifiers, in order. -/
  modifiers : List String := []

namespace DrawRequest

/-- The most draws of one placeholder. -/
def maxPicks : Nat := 100

def add (request : DrawRequest) (part : List Char) : Except Fault DrawRequest :=
  if part.isEmpty then .ok request
  else if lower (String.ofList part) = "consumable" then .ok { request with consumable := true }
  else match Expression.pickCount? part with
    | some digits =>
      match readDigits? digits with
      | some n => .ok { request with picks := min (max n 1) maxPicks }
      | none => .error .numeral
    | none => .ok { request with modifiers := request.modifiers ++ [String.ofList part] }

/-- The request that the parts after a table's name make; a consumable table is drawn from without
repetition. -/
def ofParts (table : RandomTable) (parts : List (List Char)) : Except Fault DrawRequest :=
  parts.foldlM add { consumable := table.consumable }

end DrawRequest

/-- One draw from a table. -/
def drawOne (resolver : Resolver) (table : RandomTable) (consumable : Bool) :
    Act Scene TableResult :=
  if consumable then resolver.drawConsumable table
  else Scene.atDesk (Registry.rollOn table none 0)

/-- Draws so many times from a table, with the modifiers put on every text. -/
def drawTexts (resolver : Resolver) (table : RandomTable) (request : DrawRequest) :
    Nat → Act Scene (Except Diagnostic (List String))
  | 0 => pure (.ok [])
  | count + 1 => do
    match ← Act.attempt (resolver.drawOne table request.consumable) with
    | .error (.dice ..) => return .error (.invalidTable table.name)
    | .error (.table _) => return .error (.invalidTable table.name)
    | .error fault => throw fault
    | .ok result =>
      match ← resolver.drawTexts table request count with
      | .error diagnostic => return .error diagnostic
      | .ok texts => return .ok (inflect result.description request.modifiers :: texts)

/-- The parts of the text of a placeholder: the name of a table, and what is asked of it. -/
def tableParts (body : List Char) : String × List (List Char) :=
  let parts := (cut '.' body).map trim
  (String.ofList (parts.headD []), parts.drop 1)

/-- Draws from the table that a placeholder names. -/
def resolveTable (resolver : Resolver) (body : List Char) : Act Scene Attempt := do
  let (name, parts) := tableParts body
  match ← (← get).registry.find name with
  | none => return .error (.unknownTable name)
  | some table =>
    let request ← DrawRequest.ofParts table parts
    match ← resolver.drawTexts table request request.picks with
    | .error diagnostic => return .error diagnostic
    | .ok texts => return .ok (.text (join ", " texts))

/-- An attempt at what the text of a placeholder asks for. -/
def attempt (resolver : Resolver) (body : List Char) : Act Scene Attempt :=
  match Expression.ofBody resolver.items.isSome body with
  | .range ends => resolveRange (String.ofList body) ends
  | .roll formula => resolveRoll (String.ofList body) (String.ofList formula)
  | .outcome value => resolveOutcome value
  | .sparks word spec => resolveSparks word spec
  | .item category => resolver.resolveItem category
  | .table => resolver.resolveTable body

/-- What takes a placeholder's place, if anything does. An attempt that gives nothing leaves the
placeholder there, and the author is not told. -/
def resolveToken (resolver : Resolver) (body : List Char) : Act Scene (Option Value) := do
  match ← resolver.attempt body with
  | .ok v => return v.present?
  | .error diagnostic =>
    Desk.warn ("Could not resolve placeholder '" ++ String.ofList body ++ "': " ++
      diagnostic.message)
    return if resolver.options.markUnresolved then some (.text diagnostic.message) else none

/-- The state of a pass: the placeholders that were rejected, and whether one was replaced. -/
structure PassState where
  rejected : List (List Char)
  replaced : Bool := false

/-- One segment's part in a pass: what stands in its place. -/
def passSegment (resolver : Resolver) (depth : Int) (state : PassState) :
    Segment → Act Scene (Value × PassState)
  | .plain c => pure (.text (String.singleton c), state)
  | .token t => do
    let kept := Value.text (String.ofList t.text)
    if state.rejected.contains t.text then return (kept, state)
    if state.replaced && !resolver.options.expandAllPerPass then return (kept, state)
    match ← resolver.resolveToken (trim t.body) with
    | none => return (kept, { state with rejected := t.text :: state.rejected })
    | some v =>
      discard <| Desk.post (.expansion kept v (.int depth))
      return (v, { state with replaced := true })

/-- A pass over the segments of a text, from left to right. -/
def passSegments (resolver : Resolver) (depth : Int) :
    PassState → List Segment → Act Scene (List Value × PassState)
  | state, [] => pure ([], state)
  | state, segment :: rest => do
    let (piece, state) ← resolver.passSegment depth state segment
    let (pieces, state) ← resolver.passSegments depth state rest
    return (piece :: pieces, state)

/-- The characters of a piece that a pass leaves, which has to be a text. -/
def pieceText : Value → Except Fault (List Char)
  | .text s => .ok s.toList
  | _ => .error .wrongKind

/-- The text of the pieces that a pass leaves. -/
def joinPieces (pieces : List Value) : Except Fault (List Char) :=
  (pieces.mapM pieceText).map List.flatten

/-- One pass: the new text, and the state after it. -/
def pass (resolver : Resolver) (depth : Int) (rejected : List (List Char)) (text : List Char) :
    Act Scene (List Char × PassState) := do
  let (pieces, state) ← resolver.passSegments depth { rejected } (segments text)
  if state.replaced then return (← joinPieces pieces, state) else return (text, state)

/-- The placeholders of a text that have not been rejected. -/
def pending (rejected : List (List Char)) (text : List Char) : List Token :=
  (tokens text).filter fun t => !rejected.contains t.text

/-- Passes over a text, so many at most. -/
def expand (resolver : Resolver) : Nat → Int → List (List Char) → List Char →
    Act Scene (List Char)
  | 0, _, rejected, text => do
    let left := pending rejected text
    if !left.isEmpty then
      Desk.warn ("Maximum placeholder resolution depth (" ++ decimal resolver.options.maxDepth ++
        ") reached with " ++ Nat.repr left.length ++ " placeholder(s) left")
    return text
  | passes + 1, depth, rejected, text => do
    let (text, state) ← resolver.pass depth rejected text
    if state.replaced then resolver.expand passes (depth + 1) state.rejected text else return text

/-- Expands every placeholder of a text, which stands at a depth. -/
def resolve (resolver : Resolver) (text : String) (depth : Int := 0) : Act Scene String := do
  let passes := (resolver.options.maxDepth - depth).toNat
  return String.ofList (← resolver.expand passes depth [] text.toList)

/-- The name that a table is known by, or the given one where there is no such table. -/
def tableName (name : String) : Act Scene Value := do
  match ← (← get).registry.find name with
  | some table => return table.name
  | none => return .text name

/-- Forgets what the story has drawn from a table, or from every table. -/
def resetConsumption (resolver : Resolver) (name : Option String) : Act Scene Unit := do
  match name with
  | none => ConsumptionStore.resetStory resolver.options.story
  | some name =>
    if name.isEmpty then ConsumptionStore.resetStory resolver.options.story
    else ConsumptionStore.reset (← tableName name) (some resolver.options.story)

/-- What the story has drawn from a table. -/
def consumedItems (resolver : Resolver) (name : String) : Act Scene (List String) := do
  let table ← (← tableName name).asText
  return (← get).store.items table resolver.options.story

end Resolver

end TaleLoom
