import TaleLoom.Proofs.Act
import TaleLoom.Proofs.Lines
import TaleLoom.Spark.Exchange
/-!
What is read of a keyword list. A list is trimmed before it is cut into lines, so that its header is the
first line that is not blank, wherever it stands (`SparkLibrary.importList_exact`). A list whose first line is
blank has no header of its own and would be named after its source; there the first keyword is taken for the
header, and is lost.
-/

namespace TaleLoom.SparkLibrary

open Text

def listTable (millis : Int) (source name : String) (entries : List (List Char)) : SparkTable :=
  { name := .text name, entries := entries.map String.ofList, source := .text source
    lastModified := .int millis }

/-- The report of a keyword list, by its lines that are not blank: the first one names the table, the
others are its keywords. -/
def listReport (millis : Int) (source : String) : List (List Char) → ImportReport
  | header :: row :: rows =>
    { success := true, imported := 1
      tables := [listTable millis source (String.ofList header) (row :: rows)] }
  | _ => { success := false, issues := [.noDataRow] }

/-- The table of a keyword list as it is laid out: the first line is the header, the keywords are the lines
after it that are not blank, and where the header is blank the table is named after the source. -/
def laidOut (millis : Int) (text source : String) : Option SparkTable :=
  match lines text.toList with
  | [] => none
  | header :: rows =>
    let name := if (trim header).isEmpty then (Path.ofText source).stem else String.ofList (trim header)
    if (filled rows).isEmpty then none else some (listTable millis source name (filled rows))

def HasHeader (text : String) : Prop := ∀ header ∈ (lines text.toList).head?, trim header ≠ []

section Lists

variable {millis : Int} {text source : String}

/-- The header that is read is the first line that is not blank, and the keywords are the other ones. -/
theorem readList_eq (millis : Int) (text source : String) :
    readList millis text source = listReport millis source (filled (lines text.toList)) := by
  rw [← filled_trim]
  by_cases htrim : trim text.toList = []
  · rw [readList, htrim]
    rfl
  obtain ⟨header, rows, hlines, hheader⟩ := exists_firstLine htrim
  rw [readList, hlines, filled_cons_of_ne hheader]
  cases rows with
  | nil => rfl
  | cons row rows =>
    have hname : (String.ofList (trim header)).isEmpty = false := by
      rw [String.isEmpty_eq_false_iff]
      intro hempty
      exact hheader (by simpa using congrArg String.toList hempty)
    obtain ⟨first, others, hfilled⟩ :=
      List.exists_cons_of_ne_nil (filled_rows_ne_nil hlines (List.cons_ne_nil row rows))
    have hentries : ((row :: rows).map trim).filter (!·.isEmpty) = first :: others := hfilled
    simp only [hentries, hfilled, List.isEmpty_cons, Bool.false_eq_true, if_false, hname, listReport,
      listTable]

/-- Under a header of its own a list is read as it is laid out. -/
theorem tables_listReport_of_hasHeader (h : HasHeader text) :
    (listReport millis source (filled (lines text.toList))).tables = (laidOut millis text source).toList := by
  unfold laidOut
  cases hlines : lines text.toList with
  | nil => rfl
  | cons header rows =>
    have hheader : trim header ≠ [] := h header (by rw [hlines]; rfl)
    rw [filled_cons_of_ne hheader]
    simp only [List.isEmpty_eq_false_iff.2 hheader, Bool.false_eq_true, if_false]
    cases filled rows <;> rfl

/-- Where all lines are blank nothing is laid out. -/
theorem laidOut_of_blank (h : filled (lines text.toList) = []) : laidOut millis text source = none := by
  unfold laidOut
  cases hlines : lines text.toList with
  | nil => rfl
  | cons header rows =>
    have hrows : filled rows = [] := by
      rw [hlines] at h
      by_cases hheader : trim header = []
      · rwa [filled_cons_of_blanks (blanks_of_trim hheader)] at h
      · rw [filled_cons_of_ne hheader] at h
        cases h
    simp only [hrows, List.isEmpty_nil, if_true]

/-- Without a header a list gives one keyword less than it has, or nothing. -/
theorem tables_listReport_ne (h : ¬ HasHeader text) (hfilled : filled (lines text.toList) ≠ []) :
    (listReport millis source (filled (lines text.toList))).tables ≠
      (laidOut millis text source).toList := by
  simp only [HasHeader, Option.mem_def, not_forall, not_not] at h
  obtain ⟨header, hfirst, hheader⟩ := h
  obtain ⟨rows, hlines⟩ : ∃ rows, lines text.toList = header :: rows := List.head?_eq_some_iff.1 hfirst
  have hrows : filled (lines text.toList) = filled rows := by
    rw [hlines, filled_cons_of_blanks (blanks_of_trim hheader)]
  obtain ⟨keyword, others, hkeywords⟩ := List.exists_cons_of_ne_nil hfilled
  unfold laidOut
  rw [hkeywords, hlines]
  simp only [← hrows, hkeywords, List.isEmpty_cons, Bool.false_eq_true, if_false, Option.toList_some]
  cases others with
  | nil => exact (List.cons_ne_nil _ _).symm
  | cons other more =>
    intro hsame
    have hentries := congrArg SparkTable.entries (List.cons.inj hsame).1
    have hlength := congrArg List.length hentries
    simp [listTable] at hlength

/-- What is read of a keyword list, for every text and source. Reading gives a report and changes nothing.
It is a success exactly where two lines of the text are not blank; then the first of them, trimmed, is the
name of the table, and the others, trimmed and in order, are its keywords. This is the table as the list is
laid out exactly where the first line of the text is not blank, or all of its lines are. -/
theorem importList_exact (text source : String) (scene : Scene) :
    let found := filled (lines text.toList)
    let report := listReport scene.desk.clock.millis source found
    importList text source scene = .ok report scene ∧
    (report.success = true ↔ 2 ≤ found.length) ∧
    (report.tables = (laidOut scene.desk.clock.millis text source).toList ↔
      HasHeader text ∨ found = []) := by
  intro found report
  refine ⟨?_, ?_, ?_⟩
  · simp only [importList, Act.run_bind, Act.run_get, Act.run_pure, readList_eq, report, found]
  · show (listReport _ source found).success = true ↔ _
    match found with
    | [] => simp [listReport]
    | [header] => simp [listReport]
    | header :: row :: rows => simp [listReport]
  · constructor
    · intro hsame
      by_contra hneither
      rw [not_or] at hneither
      exact tables_listReport_ne hneither.1 hneither.2 hsame
    · intro hcase
      rcases hcase with hheader | hnone
      · exact tables_listReport_of_hasHeader hheader
      · show (listReport scene.desk.clock.millis source (filled (lines text.toList))).tables = _
        rw [laidOut_of_blank hnone, show filled (lines text.toList) = [] from hnone]
        rfl

/-- A list with a blank first line: the first of its two keywords is taken for the name of the table. -/
theorem keyword_taken_for_header :
    laidOut 0 "\nraven\ncomet" "omens.csv" = some (listTable 0 "omens.csv"
      (Path.ofText "omens.csv").stem ["raven".toList, "comet".toList]) ∧
    (readList 0 "\nraven\ncomet" "omens.csv").tables =
      [listTable 0 "omens.csv" "raven" ["comet".toList]] := by
  have hlines : lines "\nraven\ncomet".toList = [[], "raven".toList, "comet".toList] := by decide
  have hfilled : filled (lines "\nraven\ncomet".toList) = ["raven".toList, "comet".toList] := by decide
  constructor
  · rw [laidOut, hlines]
    rfl
  · rw [readList_eq, hfilled]
    rfl

end Lists

end TaleLoom.SparkLibrary
