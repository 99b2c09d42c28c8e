import TaleLoom.Spark.Table
import TaleLoom.Table
/-!
The tables that come with the library: general tables for people, places and plots, the table of
outcomes against a difficulty, and the default pool of keywords.
-/

namespace TaleLoom.BuiltIn

/-- The name of the table of outcomes against a difficulty. -/
def difficultyName : String := "dc"

/-- The name of the default pool of keywords. -/
def defaultSparkName : String := "default"

def names : List String :=
  ["Aldric", "Brenna", "Corwin", "Dagny", "Elowen", "Fenwick", "Greta", "Hollis", "Isolde", "Jory",
    "Kestrel", "Lorcan", "Maren", "Nyle", "Orla", "Piers", "Quilla", "Rowan", "Sable", "Tamsin"]

def occupations : List String :=
  ["blacksmith", "innkeeper", "merchant", "scholar", "farmer", "hunter", "sailor", "priest",
    "alchemist", "guard", "thief", "bard"]

def traits : List String :=
  ["curious", "stubborn", "generous", "suspicious", "cheerful", "brooding", "honest", "cunning",
    "reckless", "patient", "proud", "timid"]

def moods : List String := ["calm", "anxious", "elated", "irritable", "melancholy", "wary"]

def locations : List String :=
  ["the old mill", "a crossroads shrine", "the harbour market", "a ruined watchtower",
    "the king's road", "a flooded cellar", "the salt marsh", "a hillside monastery"]

def locationTypes : List String := ["village", "ruin", "forest", "cave", "keep", "town"]

def atmospheres : List String := ["eerie", "bustling", "desolate", "festive", "tense", "serene"]

def creatures : List String :=
  ["wolf", "goblin", "wraith", "giant spider", "bandit", "troll", "wyvern", "bog hag"]

def secrets : List String :=
  ["a hidden trapdoor", "a forged letter", "a buried idol", "an old debt", "a stolen crown",
    "a sealed crypt"]

def complications : List String :=
  ["a rival party", "a sudden storm", "a broken bridge", "a false guide", "a plague quarantine",
    "a local feud"]

def questTypes : List String :=
  ["find", "deliver", "defeat", "collect", "investigate", "hunt", "explore"]

def sparkKeywords : List String :=
  ["mysterious", "ancient", "forbidden", "hidden", "sacred", "cursed", "powerful", "dangerous",
    "magical", "divine", "demonic", "ethereal", "betrayal", "alliance", "secret", "treasure",
    "enemy", "friend", "journey", "quest", "discovery", "loss", "victory", "defeat", "dark",
    "light", "shadow", "flame", "storm", "calm", "broken", "whole", "twisted", "pure", "corrupt",
    "noble"]

def row (low high : Value) (text : String) : Row := { low, high, description := .literal text }

/-- Loot; the low result is a purse whose coins are counted anew each time. -/
def treasures : RandomTable where
  name := .text "treasures"
  formula := .text "1d6"
  description := .text "Loot found on a body or in a cache"
  rows := [
    { low := .null, high := .int 2, description := .generated "coin purse" "coins" .coins },
    row (.int 3) (.int 4) "a silver ring",
    row (.int 5) (.int 5) "a jewelled dagger",
    row (.int 6) .null "a \x7bcreatures\x7d skull carved with runes"]

/-- Weather on two dice, mild in the middle. -/
def weather : RandomTable where
  name := .text "weather"
  formula := .text "2d6"
  description := .text "Weather for the current scene"
  rows := [
    row .null (.int 3) "a thunderstorm",
    row (.int 4) (.int 5) "heavy rain",
    row (.int 6) (.int 6) "howling wind",
    row (.int 7) (.int 8) "clear skies",
    row (.int 9) (.int 10) "light drizzle",
    row (.int 11) .null "thick fog"]

/-- Outcomes of a check; the bounds count from the difficulty. -/
def difficulty : RandomTable where
  name := .text difficultyName
  formula := .text "1d20"
  description := .text "Outcome of a check against a difficulty class"
  rows := [
    row .null (.text "-6") "Critical failure",
    row (.text "-5") (.text "-1") "Failure",
    row (.text "+0") (.text "+4") "Success",
    row (.text "+5") .null "Critical success"]

/-- A table of entries that are equally likely. -/
def entryTable (name : String) (entries : List String) (description : String)
    (consumable : Bool := false) : RandomTable :=
  RandomTable.ofEntries (.text name) entries (.text description) consumable

def tables : Keyed Value RandomTable :=
  [entryTable "names" names "Given names",
    entryTable "occupations" occupations "Trades and callings",
    entryTable "traits" traits "Personality traits",
    entryTable "moods" moods "Current mood",
    entryTable "locations" locations "Named places",
    entryTable "locationTypes" locationTypes "Kinds of place",
    entryTable "atmospheres" atmospheres "Scene atmosphere",
    entryTable "creatures" creatures "Creatures and foes",
    entryTable "secrets" secrets "Hidden things" true,
    entryTable "complications" complications "Plot complications",
    entryTable "questTypes" questTypes "Quest verbs",
    treasures, weather].map fun table => (table.name, table)

/-- The default pool of keywords, as made at a time. -/
def sparkTable (millis : Int) : SparkTable where
  name := .text defaultSparkName
  entries := sparkKeywords
  categories := [.text "general"]
  isDefault := true
  source := .text "built-in"
  lastModified := .int millis

end TaleLoom.BuiltIn
