import TaleLoom.Placeholder.Resolver
/-!
Templates: named blocks of text with placeholders, kept under keys. The templates that come with
the library use built-in tables alone.
-/

namespace TaleLoom

/-- A block of text with placeholders. -/
structure Template where
  name : Value
  content : Value
  description : Value := .text ""
  category : Value := .text "General"
  created : Value
  updated : Value

namespace Template

def toValue (t : Template) : Value :=
  .object [("name", t.name), ("description", t.description), ("content", t.content),
    ("category", t.category), ("created", t.created), ("updated", t.updated)]

def ofValue (v : Value) : Except Fault Template := do
  let name ← v.require "name"
  let fields ← v.fields
  let get := Value.fieldOr fields
  return {
    name, content := get "content" (.text ""), description := get "description" (.text "")
    category := get "category" (.text "General"), created := get "created" (.int 0)
    updated := get "updated" (.int 0) }

/-- A template that comes with the library, as made at a time. -/
def shipped (millis : Int) (name description category : String) (lines : List String) : Template :=
  { name := .text name, content := .text ("\n".intercalate lines)
    description := .text description, category := .text category
    created := .int millis, updated := .int millis }

/-- The templates that come with the library. -/
def defaults (millis : Int) : Keyed String Template :=
  [("character_basic", shipped millis "Character (Basic)"
      "A character with name, age, profession and personality" "Character"
      ["Name: \x7bnames\x7d", "Age: \x7brand 18-65\x7d",
        "Profession: \x7boccupations.capitalize\x7d", "Personality: \x7btraits.pick 2\x7d"]),
    ("location_basic", shipped millis "Location (Basic)"
      "A location with name, type and atmosphere" "Location"
      ["Location: \x7blocations\x7d", "Type: \x7blocationTypes.capitalize\x7d",
        "Atmosphere: \x7batmospheres\x7d", "Weather: \x7bweather\x7d"]),
    ("location_detailed", shipped millis "Location (Detailed)"
      "A location with inhabitants, a secret and treasure" "Location"
      ["Location: \x7blocations\x7d", "Type: \x7blocationTypes.capitalize\x7d",
        "Atmosphere: \x7batmospheres\x7d", "Inhabitants: \x7bcreatures.plural.pick 2\x7d",
        "Secret: \x7bsecrets.consumable\x7d",
        "Treasure: \x7btreasures\x7d (DC \x7broll 1d6+10\x7d to find)"]),
    ("quest_basic", shipped millis "Quest (Basic)" "A quest with objective and reward" "Quest"
      ["Objective: \x7bquestTypes.capitalize\x7d \x7bcreatures.the\x7d",
        "Location: \x7blocations\x7d", "Reward: \x7broll 2d6+3\x7d gold pieces",
        "Deadline: \x7brand 1-7\x7d days"]),
    ("encounter_social", shipped millis "Social Encounter" "An NPC met on the road" "Encounter"
      ["NPC: \x7bnames\x7d, \x7boccupations.article\x7d", "Mood: \x7bmoods\x7d",
        "Personality: \x7btraits.pick 2\x7d", "Complication: \x7bcomplications\x7d",
        "Sparks: \x7bsparks\x7d"])]

/-- The text of a template, expanded; its content has to be a text. -/
def run (resolver : Resolver) (t : Template) : Act Scene String :=
  match t.content with
  | .text s => resolver.resolve s
  | _ => throw .wrongKind

/-- The text of the template under a key, expanded. -/
def execute (resolver : Resolver) (templates : Keyed String Template) (key : String) :
    Act Scene String :=
  match Keyed.get? key templates with
  | some t => t.run resolver
  | none => throw (.unknownTemplate key)

/-- Puts templates under their keys, up to the first that cannot be used, if there is one. -/
def takeIn (templates : Keyed String Template) :
    List (String × Value) → Keyed String Template × Option Fault
  | [] => (templates, none)
  | (key, v) :: rest =>
    match ofValue v with
    | .ok t => takeIn (Keyed.set key t templates) rest
    | .error fault => (templates, some fault)

/-- The templates with those of a file put in, the number of the file's templates, and why the
taking in ended early, if it did. -/
def load (templates : Keyed String Template) (file : Path) :
    Act Desk (Keyed String Template × Nat × Option Fault) := do
  let entries ← (← Desk.readDocument file).fields
  let (templates, fault) := takeIn templates entries
  return (templates, entries.length, fault)

end Template

end TaleLoom
