import TaleLoom.Table
/-!
Which totals of a table no row covers. `RandomTable.gaps` sweeps over the rows' ranges in ascending
order, so its cost depends on the number of rows and not on the size of the dice;
`describeGaps` puts the ranges into words.
-/

namespace TaleLoom

/-- The totals from a first to a last one. -/
structure Span where
  first : Int
  last : Int
  deriving DecidableEq, Repr

namespace Span

/-- The order of spans: by the first total, then by the last. -/
def before (a b : Span) : Bool := a.first < b.first || (a.first == b.first && a.last ≤ b.last)

/-- The totals between two bounds within a span, if there are any. -/
def clip? (bounds : Span) (low high : Option Int) : Option Span :=
  let first := (low.map (max · bounds.first)).getD bounds.first
  let last := (high.map (min · bounds.last)).getD bounds.last
  if first ≤ last then some ⟨first, last⟩ else none

/-- The totals from `next` up to `last` that none of the spans has; the spans come in order. -/
def missing (last : Int) (next : Int) : List Span → List Span
  | [] => if next ≤ last then [⟨next, last⟩] else []
  | span :: rest =>
    let after := missing last (max next (span.last + 1)) rest
    if next < span.first then ⟨next, span.first - 1⟩ :: after else after

end Span

namespace Row

/-- The totals of a span that the row covers. -/
def span? (bounds : Span) (difficulty : Option Int) (row : Row) : Except Fault (Option Span) := do
  let low ← Bound.resolveValue difficulty row.low
  let high ← Bound.resolveValue difficulty row.high
  return bounds.clip? low high

end Row

namespace RandomTable

/-- The ranges of totals that can be rolled and that no row covers, in ascending order. -/
def gaps (table : RandomTable) (difficulty : Option Int) : Except Fault (List Span) := do
  let (least, greatest) ← Formula.bounds table.formula
  let spans ← table.rows.mapM (Row.span? ⟨least, greatest⟩ difficulty)
  return Span.missing greatest least ((spans.filterMap id).mergeSort Span.before)

end RandomTable

/-- The first `limit` items; a negative limit leaves so many off at the end. -/
def takeLimit {α : Type} (limit : Int) (xs : List α) : List α :=
  if 0 ≤ limit then xs.take limit.toNat else xs.take (xs.length - (-limit).toNat)

/-- A range in words: one total, or the first and the last. -/
def Span.text (span : Span) : Except Fault String := do
  let first ← Number.digits span.first
  if span.first = span.last then return first
  else return first ++ "-" ++ (← Number.digits span.last)

/-- Ranges in words, at most `limit` of them, and how many more there are. -/
def describeGaps (gaps : List Span) (limit : Int) : Except Fault String := do
  let shown := ", ".intercalate (← (takeLimit limit gaps).mapM Span.text)
  let count : Int := gaps.length
  if count > limit then
    return shown ++ " (+" ++ Number.decimal (count - limit) ++ " more ranges)"
  else return shown

/-- How many ranges are shown where nothing else is asked for. -/
def shownGaps : Int := 5

end TaleLoom
