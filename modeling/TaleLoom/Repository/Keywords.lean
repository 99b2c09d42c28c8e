import TaleLoom.Repository.Basic
import TaleLoom.Text.Pieces
/-!
Which items a text mentions. An item is mentioned where one of its keywords occurs in the text,
letter case aside; the first such keyword counts, and items found by the same keyword form a group.
A group of several items is a conflict, which is reported and not resolved.
-/

namespace TaleLoom

open Text

/-- The items that a text mentions by one keyword. -/
structure KeywordGroup where
  keyword : String
  items : List ScopedItem
  /-- The contents of the items, in reading order. -/
  content : String
  hasConflicts : Bool

namespace KeywordGroup

def toValue (g : KeywordGroup) : Value :=
  .object [("keyword", .text g.keyword),
    ("items", .list (g.items.map fun r =>
      .object [("key", .text r.key), ("name", r.item.name), ("source", .text r.source.name)])),
    ("concatenatedContent", .text g.content), ("hasConflicts", .bool g.hasConflicts)]

/-- The group in lines of text: the keyword, then each item with its level. -/
def describe (g : KeywordGroup) : String :=
  let lead := g.keyword ++ if g.hasConflicts then " (conflict)" else ""
  "\n".intercalate (lead :: g.items.map fun r =>
    let via := match r.overriddenBy with
      | some name => if name.truthy then " via workbook '" ++ name.plain ++ "'" else ""
      | none => ""
    "  [" ++ r.source.name ++ via ++ "] " ++ r.item.name.plain)

end KeywordGroup

namespace Repository

/-- The first of some keywords that occurs in a folded text: its folded form and its spelling. -/
def firstKeyword (folded : String) : List Value → Except Fault (Option (String × String))
  | [] => .ok none
  | v :: rest => do
    let keyword ← v.asText
    let form := fold keyword
    if !form.isEmpty && contains folded form then return some (form, keyword)
    else firstKeyword folded rest

/-- The groups with one more item, found by a keyword. -/
def joinGroup (form keyword : String) (entry : ScopedItem)
    (groups : Keyed String (String × List ScopedItem)) : Keyed String (String × List ScopedItem) :=
  match Keyed.get? form groups with
  | some (spelling, items) => Keyed.set form (spelling, items ++ [entry]) groups
  | none => Keyed.set form (keyword, [entry]) groups

/-- The items found by each keyword, under its folded form. -/
def groups (folded : String) (items : List ScopedItem) :
    Except Fault (Keyed String (String × List ScopedItem)) :=
  items.foldlM (fun groups entry => do
    match ← firstKeyword folded entry.item.keywords with
    | some (form, keyword) => return joinGroup form keyword entry groups
    | none => return groups) []

/-- The text of an item's content, which has to be one where contents are joined. -/
def contentText (entry : ScopedItem) : Except Fault String :=
  match entry.item.content with
  | .text s => .ok s
  | _ => .error .wrongKind

/-- The groups of items that a text mentions, in the order in which they were found. -/
def mentioned (r : Repository) (text : String) : Except Fault (List KeywordGroup) := do
  let groups ← groups (fold text) r.inScope
  groups.mapM fun (_, keyword, items) => do
    let ordered := ScopedItem.sortByScope (r.applyOverrides items)
    return { keyword, items := ordered
             content := "\n\n".intercalate (← ordered.mapM contentText)
             hasConflicts := 1 < ordered.length }

/-- The items that go with a text: those that are forced and those that it mentions, each once and
in reading order. -/
def relevant (r : Repository) (text : String) : Except Fault (List ScopedItem) := do
  let found := (← r.mentioned text).flatMap fun group => group.items.map (·.key)
  return ScopedItem.sortByScope (r.applyOverrides (r.inScope.filter fun entry =>
    entry.item.forced || found.contains entry.key))

/-- The folded forms of the keywords that are not blank. -/
def claimedForms (keywords : List Value) : Except Fault (List String) := do
  let texts ← keywords.mapM Value.asText
  return (texts.filter fun s => !(trim s.toList).isEmpty).map fold

/-- The items in scope that share a keyword with a candidate and are not the candidate itself. -/
def conflictsWith (candidate : Item) (r : Repository) : Except Fault (List Item) := do
  let wanted ← claimedForms candidate.keywords
  let hits ← r.inScope.filterM fun entry => do
    if entry.key = (← candidate.key) then return false
    let forms ← entry.item.keywords.mapM fun v => v.asText.map fold
    return forms.any wanted.contains
  return hits.map (·.item)

end Repository

end TaleLoom
