import TaleLoom.Proofs.Consumption.Persistence
import TaleLoom.Proofs.Table.Definition
import TaleLoom.Proofs.Timestamp
import TaleLoom.Repository.Storage
import TaleLoom.RunLog.Event
import TaleLoom.Template
/-!
Records in documents. A record that was read, with whatever fields were missing or spelled otherwise, is
read again unchanged from what is written of it (`RoundTrips`): what the reader fills in and converts is
what the writer writes. So a collection that was saved is the one that is loaded
(`Item.loadAll_of_saveAll`, `Workbook.loadAll_of_saveAll`), as far as the document of its file is read
back.
-/

namespace TaleLoom

def RoundTrips {α : Type} (ofValue : Value → Except Fault α) (toValue : α → Value) : Prop :=
  ∀ v a, ofValue v = .ok a → ofValue (toValue a) = .ok a

section Records

@[simp] theorem ScopeLevel.ofValue_name (level : ScopeLevel) :
    ScopeLevel.ofValue (.text level.name) = .ok level := by
  cases level <;> rfl

@[simp] theorem ItemCategory.ofValue_name (category : ItemCategory) :
    ItemCategory.ofValue (.text category.name) = .ok category := by
  cases category <;> rfl

@[simp] theorem EventKind.ofValue_name (kind : EventKind) :
    EventKind.ofValue (.text kind.name) = .ok kind := by
  cases kind <;> rfl

@[simp] theorem Position.ofValue_toValue (p : Position) : Position.ofValue p.toValue = .ok p := rfl

theorem Item.ofValue_toValue (item : Item) : Item.ofValue item.toValue = .ok item := by
  simp [Item.toValue, Item.ofValue, Value.require, Value.fields, Value.fieldOr, Keyed.get?,
    Value.elements]

theorem Template.ofValue_toValue (t : Template) : Template.ofValue t.toValue = .ok t := rfl

/-- The description of a workbook is one that counts as true, or the empty text. -/
def Workbook.Described (w : Workbook) : Prop := w.description.truthy = true ∨ w.description = .text ""

theorem Workbook.described_of_ofValue {v : Value} {w : Workbook} (h : Workbook.ofValue v = .ok w) :
    w.Described := by
  obtain ⟨fields, -, h⟩ := parts_of_bind_eq_ok h
  obtain ⟨tags, -, h⟩ := parts_of_bind_eq_ok h
  obtain ⟨scope, -, h⟩ := parts_of_bind_eq_ok h
  obtain ⟨anchor, -, h⟩ := parts_of_bind_eq_ok h
  obtain rfl := Except.ok.inj h
  by_cases hdescription : (Value.fieldOr fields "description" .null).truthy = true
  · apply Or.inl
    rw [if_pos hdescription]
    exact hdescription
  · exact Or.inr (if_neg hdescription)

/-- What is written only where it is there is read back, if nothing that is written counts as false. -/
theorem Value.ifTruthy_map {α : Type} {read : Value → Except Fault α} {write : α → Value}
    (htruthy : ∀ a, (write a).truthy = true) (hread : ∀ a, read (write a) = .ok a) (given : Option α) :
    ((given.map write).getD .null).ifTruthy read = .ok given := by
  cases given with
  | none => rfl
  | some a =>
    rw [Option.map_some, Option.getD_some, Value.ifTruthy, if_pos (htruthy a), hread]
    rfl

theorem Workbook.ofValue_toValue {w : Workbook} (h : w.Described) : Workbook.ofValue w.toValue = .ok w := by
  have hdescription : (if w.description.truthy then w.description else .text "") = w.description := by
    rcases h with h | h
    · rw [if_pos h]
    · rw [h]
      rfl
  have hscope : ((w.masterScope.map fun level => Value.text level.name).getD .null).ifTruthy
      ScopeLevel.ofValue = .ok w.masterScope := by
    apply Value.ifTruthy_map
    · intro level
      cases level <;> rfl
    · exact ScopeLevel.ofValue_name
  have hanchor : ((w.masterAnchor.map Position.toValue).getD .null).ifTruthy Position.ofValue =
      .ok w.masterAnchor := by
    apply Value.ifTruthy_map
    · intro p
      rfl
    · exact Position.ofValue_toValue
  simp [Workbook.toValue, Workbook.ofValue, Value.fields, Value.fieldOr, Keyed.get?, Value.elements,
    hscope, hanchor, hdescription]

namespace SparkTable

theorem weight_withSoundWeight (table : SparkTable) : 1 ≤ (withSoundWeight table).weight := by
  rw [withSoundWeight]
  split
  · exact Int.le_refl 1
  · omega

theorem withSoundWeight_of_le {table : SparkTable} (h : 1 ≤ table.weight) :
    withSoundWeight table = table := by
  rw [withSoundWeight, if_neg (by omega)]

theorem name_withSoundWeight (table : SparkTable) : (withSoundWeight table).name = table.name := by
  rw [withSoundWeight]
  split <;> rfl

theorem weightOf_int {n : Int} (h : 1 ≤ n) : weightOf (.int n) = .ok n := by
  have htruthy : (Value.int n).truthy = true := by
    rw [Value.truthy, bne_iff_ne]
    omega
  rw [weightOf, if_pos htruthy]
  rfl

/-- What a table has that was read: a name, and a weight of one or more. -/
theorem named_of_ofValue {v : Value} {table : SparkTable} (h : ofValue v = .ok table) :
    table.name.truthy = true ∧ 1 ≤ table.weight := by
  cases v with
  | object fields =>
    rw [ofValue] at h
    split at h
    · cases h
    next hname =>
    dsimp only at h
    split at h
    · obtain ⟨entries, -, h⟩ := parts_of_bind_eq_ok h
      obtain ⟨weight, -, h⟩ := parts_of_bind_eq_ok h
      obtain ⟨categories, -, h⟩ := parts_of_bind_eq_ok h
      obtain rfl := Except.ok.inj h
      rw [name_withSoundWeight]
      exact ⟨by simpa using hname, weight_withSoundWeight _⟩
    · cases h
  | _ => cases h

theorem ofValue_toValue {table : SparkTable} (hname : table.name.truthy = true) (h : 1 ≤ table.weight) :
    ofValue table.toValue = .ok table := by
  have hentries : (table.entries.map Value.text).mapM Value.writable = .ok table.entries :=
    mapM_map_eq_ok fun _ _ => rfl
  simpa [toValue, ofValue, Value.fieldOr, Keyed.get?, Value.elements, hname, hentries, weightOf_int h]
    using withSoundWeight_of_le h

end SparkTable

section Events

variable {v : Value}

theorem Event.readTimestamp_text {t : Timestamp} (h : Event.readTimestamp v = .ok t) :
    Event.readTimestamp (.text t.text) = .ok t := by
  cases v with
  | text s =>
    rw [Event.readTimestamp] at h
    cases hs : Timestamp.read? s with
    | none =>
      rw [hs] at h
      cases h
    | some own =>
      rw [hs] at h
      obtain rfl := Except.ok.inj h
      rw [Event.readTimestamp, Timestamp.read?_text hs]
  | _ => cases h

/-- What happened is told by the fields that are written of it, whatever stands before them. -/
theorem EventDetail.ofFields_toFields (detail : EventDetail) (sequence context kind timestamp : Value) :
    EventDetail.ofFields detail.kind ([("event_type", kind), ("timestamp", timestamp),
      ("sequence_number", sequence), ("context", context)] ++ detail.toFields) = detail := by
  cases detail <;> rfl

theorem EventDetail.kind_ofFields (kind : EventKind) (fields : List (String × Value)) :
    (EventDetail.ofFields kind fields).kind = kind := by
  cases kind <;> rfl

/-- How an event was read: the point in time stands in the value, and the kind is the one asked for. -/
theorem Event.parts_of_ofValueAs {kind : EventKind} {e : Event} (h : Event.ofValueAs kind v = .ok e) :
    e.kind = kind ∧ Event.readTimestamp (.text e.timestamp.text) = .ok e.timestamp := by
  obtain ⟨written, -, h⟩ := parts_of_bind_eq_ok h
  obtain ⟨timestamp, htimestamp, h⟩ := parts_of_bind_eq_ok h
  obtain ⟨fields, -, h⟩ := parts_of_bind_eq_ok h
  obtain rfl := Except.ok.inj h
  exact ⟨EventDetail.kind_ofFields kind fields, Event.readTimestamp_text htimestamp⟩

theorem Event.ofValueAs_toValue {e : Event}
    (h : Event.readTimestamp (.text e.timestamp.text) = .ok e.timestamp) :
    Event.ofValueAs e.kind e.toValue = .ok e := by
  have htime : e.toValue.require "timestamp" = .ok (.text e.timestamp.text) := rfl
  have hfields : e.toValue.fields = .ok ([("event_type", .text e.kind.name),
    ("timestamp", .text e.timestamp.text), ("sequence_number", e.sequence), ("context", e.context)] ++
      e.detail.toFields) := rfl
  rw [Event.ofValueAs, htime, ok_bind, h, ok_bind, hfields, ok_bind, Event.kind,
    EventDetail.ofFields_toFields]
  rfl

theorem Event.ofValue_toValue {e : Event}
    (h : Event.readTimestamp (.text e.timestamp.text) = .ok e.timestamp) :
    Event.ofValue e.toValue = .ok e := by
  have hkind : e.toValue.require "event_type" = .ok (.text e.kind.name) := rfl
  rw [Event.ofValue, hkind, ok_bind, EventKind.ofValue_name, ok_bind]
  exact Event.ofValueAs_toValue h

theorem BareEvent.ofValue_toValue {e : BareEvent}
    (h : Event.readTimestamp (.text e.timestamp.text) = .ok e.timestamp) :
    BareEvent.ofValue e.toValue = .ok e := by
  have hkind : e.toValue.require "event_type" = .ok (.text e.kind.name) := rfl
  have htime : e.toValue.require "timestamp" = .ok (.text e.timestamp.text) := rfl
  rw [BareEvent.ofValue, hkind, ok_bind, EventKind.ofValue_name, ok_bind, htime, ok_bind, h]
  rfl

end Events

section RoundTrips

theorem roundTrips_sparkTable : RoundTrips SparkTable.ofValue SparkTable.toValue := by
  intro v table h
  obtain ⟨hname, hweight⟩ := SparkTable.named_of_ofValue h
  exact SparkTable.ofValue_toValue hname hweight

theorem roundTrips_workbook : RoundTrips Workbook.ofValue Workbook.toValue := by
  intro v w h
  exact Workbook.ofValue_toValue (Workbook.described_of_ofValue h)

theorem roundTrips_eventAs (kind : EventKind) : RoundTrips (Event.ofValueAs kind) Event.toValue := by
  intro v e h
  obtain ⟨rfl, htime⟩ := Event.parts_of_ofValueAs h
  exact Event.ofValueAs_toValue htime

theorem roundTrips_event : RoundTrips Event.ofValue Event.toValue := by
  intro v e h
  obtain ⟨named, -, h⟩ := parts_of_bind_eq_ok h
  obtain ⟨kind, -, h⟩ := parts_of_bind_eq_ok h
  exact Event.ofValue_toValue (Event.parts_of_ofValueAs h).2

theorem roundTrips_bareEvent : RoundTrips BareEvent.ofValue BareEvent.toValue := by
  intro v e h
  obtain ⟨named, -, h⟩ := parts_of_bind_eq_ok h
  obtain ⟨kind, -, h⟩ := parts_of_bind_eq_ok h
  obtain ⟨written, -, h⟩ := parts_of_bind_eq_ok h
  obtain ⟨timestamp, htimestamp, h⟩ := parts_of_bind_eq_ok h
  obtain ⟨fields, -, h⟩ := parts_of_bind_eq_ok h
  obtain rfl := Except.ok.inj h
  exact BareEvent.ofValue_toValue (Event.readTimestamp_text htimestamp)

end RoundTrips

end Records

section Collections

variable {file : Path} {desk saved : Desk} {v : Value}

/-- A collection is kept in every file that can be written. -/
theorem Desk.run_keepCollection (h : desk.files.Accepts file) (v : Value) :
    ∃ saved, Desk.keepCollection file v desk = .ok () saved := by
  obtain ⟨made, hmake, hleaf, hholders⟩ := FileTree.makeFolders_ok h
  have hmade : Desk.makeFolders file desk = .ok () { desk with files := made } :=
    ConsumptionStore.run_makeFolders_ok hmake
  have hdone : Desk.writeText file v.write { desk with files := made } = .ok () { desk with files := _ } :=
    ConsumptionStore.run_writeText_ok (FileTree.write_ok hleaf hholders _)
  exact ⟨_, by rw [Desk.keepCollection, Act.run_bind, hmade]; exact hdone⟩

/-- A file that was written is there and holds the text. -/
theorem Desk.read_of_writeText {text : String} (h : Desk.writeText file text desk = .ok () saved) :
    saved.files.isAt file = true ∧ saved.files.read file = .ok text := by
  cases hwrite : desk.files.write file (.text text) with
  | error fault =>
    rw [ConsumptionStore.run_writeText_error hwrite] at h
    cases h
  | ok files =>
    rw [ConsumptionStore.run_writeText_ok hwrite] at h
    obtain ⟨-, rfl⟩ := EStateM.Result.ok.inj h
    exact FileTree.read_of_write hwrite

theorem Desk.keeps_room_keepCollection (file : Path) (v : Value) :
    (Desk.keepCollection file v).Keeps (.fixing (·.room)) :=
  Act.Keeps.bind (Desk.room_lasts.makeFolders file) fun _ => Desk.room_lasts.writeText file v.write

/-- What was kept is found again, where the document is read back. -/
theorem Desk.collection?_of_keep (h : Desk.keepCollection file v desk = .ok () saved)
    (hread : Value.read desk.room v.write = .ok v) :
    Desk.collection? file saved = .ok (some v) saved := by
  have hroom : saved.room = desk.room := (Desk.keeps_room_keepCollection file v).of_ok h
  rw [← hroom] at hread
  obtain ⟨-, made, -, h⟩ := Act.parts_of_bind h
  obtain ⟨hat, htext⟩ := Desk.read_of_writeText h
  simp [Desk.collection?, Desk.readDocument, Desk.readText, hat, htext, hread]

namespace Item

def document (items : Keyed String Item) : Value :=
  .object (items.map fun (key, item) => (key, item.toValue))

theorem loadAll_of_saveAll {items : Keyed String Item} (h : saveAll file items desk = .ok () saved)
    (hread : Value.read desk.room (document items).write = .ok (document items)) :
    loadAll file saved = .ok items saved := by
  have hfound := Desk.collection?_of_keep h hread
  rw [loadAll, Act.run_bind, hfound]
  apply Act.run_mapM_map
  intro entry _
  simp [ofValue_toValue]

end Item

namespace Workbook

def document (workbooks : List Workbook) : Value := .list (workbooks.map toValue)

theorem loadAll_of_saveAll {workbooks : List Workbook} (h : saveAll file workbooks desk = .ok () saved)
    (hdescribed : ∀ w ∈ workbooks, w.Described)
    (hread : Value.read desk.room (document workbooks).write = .ok (document workbooks)) :
    loadAll file saved = .ok workbooks saved := by
  have hfound := Desk.collection?_of_keep h hread
  rw [loadAll, Act.run_bind, hfound]
  apply Act.run_mapM_map
  intro w hw
  simp [ofValue_toValue (hdescribed w hw)]

end Workbook

/-- A collection is saved in a file that can be written, and once it is saved it is the one that is
loaded. The room is that of the desk for documents. -/
def Persists {α : Type} (room : Nat) (file : Path) (save : Act Desk Unit) (load : Act Desk α) (a : α) :
    Prop :=
  ∀ desk : Desk, desk.room = room → (desk.files.Accepts file → ∃ saved, save desk = .ok () saved) ∧
    ∀ saved, save desk = .ok () saved → load saved = .ok a saved

end Collections

/-- Everything that is kept is taken up again as it was. Every record that was read, whatever its
document left out or spelled otherwise, is read again unchanged from what is written of it. So a
collection is loaded as it was saved, items under their keys and workbooks in their order, where the
document of the collection is read back from its text. -/
theorem records_persist :
    (∀ outer v table, RandomTable.ofValue outer v = .ok table →
      ∀ other, RandomTable.ofValue other table.toValue = .ok table) ∧
    RoundTrips SparkTable.ofValue SparkTable.toValue ∧
    RoundTrips ConsumedRecord.ofValue ConsumedRecord.toValue ∧
    RoundTrips Item.ofValue Item.toValue ∧
    RoundTrips Workbook.ofValue Workbook.toValue ∧
    RoundTrips Template.ofValue Template.toValue ∧
    RoundTrips Event.ofValue Event.toValue ∧
    (∀ kind, RoundTrips (Event.ofValueAs kind) Event.toValue) ∧
    RoundTrips BareEvent.ofValue BareEvent.toValue ∧
    (∀ room file items,
      Value.read room (Item.document items).write = .ok (Item.document items) →
        Persists room file (Item.saveAll file items) (Item.loadAll file) items) ∧
    ∀ room file workbooks, (∀ w ∈ workbooks, ∃ v, Workbook.ofValue v = .ok w) →
      Value.read room (Workbook.document workbooks).write = .ok (Workbook.document workbooks) →
        Persists room file (Workbook.saveAll file workbooks) (Workbook.loadAll file) workbooks := by
  refine ⟨fun _ _ _ h other => RandomTable.ofValue_toValue h other, roundTrips_sparkTable,
    fun _ r _ => ConsumptionStore.ofValue_toValue r, fun _ item _ => Item.ofValue_toValue item,
    roundTrips_workbook, fun _ t _ => Template.ofValue_toValue t, roundTrips_event, roundTrips_eventAs,
    roundTrips_bareEvent, ?_, ?_⟩
  · rintro _ file items hread desk rfl
    constructor
    · intro h
      exact Desk.run_keepCollection h (Item.document items)
    · intro saved h
      exact Item.loadAll_of_saveAll h hread
  · rintro _ file workbooks hwritten hread desk rfl
    constructor
    · intro h
      exact Desk.run_keepCollection h (Workbook.document workbooks)
    · intro saved h
      apply Workbook.loadAll_of_saveAll h _ hread
      intro w hw
      obtain ⟨v, hv⟩ := hwritten w hw
      exact Workbook.described_of_ofValue hv

def drafts : Value :=
  .object [("name", .text "Drafts"), ("description", .null), ("masterScope", .text "shelf"),
    ("masterScopeContext", .object [("shelf_id", .text "attic")]), ("createdAt", .null),
    ("updatedAt", .text "today")]

def draftsBook : Workbook where
  name := .text "Drafts"
  masterScope := some .shelf
  masterAnchor := some { shelf := .text "attic" }
  created := .null
  updated := .text "today"

def workbooksFile : Path := { root := "", parts := ["workbooks.json"] }

theorem readsBack_draftsBook : draftsBook.toValue.ReadsBack := by
  have hempty : (Value.text "").ReadsBack := Value.readsBack_text ""
  have hanchor : (Position.toValue { shelf := .text "attic" }).ReadsBack := by
    apply Value.readsBack_object (by decide)
    simp [Value.readsBack_text, Value.readsBack_null]
  apply Value.readsBack_object (by decide)
  simp [draftsBook, Value.readsBack_text, Value.readsBack_null, hanchor, ScopeLevel.name]
  exact Value.readsBack_list (by simp)

theorem records_persist_drafts :
    Workbook.ofValue drafts = .ok draftsBook ∧ Workbook.ofValue draftsBook.toValue = .ok draftsBook ∧
      ∃ desk saved,
        Value.read desk.room (Workbook.document [draftsBook]).write =
          .ok (Workbook.document [draftsBook]) ∧
        Workbook.saveAll workbooksFile [draftsBook] desk = .ok () saved ∧
        Workbook.loadAll workbooksFile saved = .ok [draftsBook] saved := by
  obtain ⟨-, -, -, -, hbook, -, -, -, -, -, hpersists⟩ := records_persist
  have hread : Workbook.ofValue drafts = .ok draftsBook := rfl
  let desk : Desk := Desk.start { moment := { year := 2024, month := 1, day := 1 }, millis := 0 }
  have hdocument : Value.read desk.room (Workbook.document [draftsBook]).write =
      .ok (Workbook.document [draftsBook]) := by
    refine Value.read_write (Value.readsBack_list ?_) (by decide)
    intro v hv
    obtain rfl := List.mem_singleton.1 hv
    exact readsBack_draftsBook
  have hcollection := hpersists desk.room workbooksFile [draftsBook]
    (fun w hw => ⟨drafts, List.mem_singleton.1 hw ▸ hread⟩) hdocument desk rfl
  have haccepts : desk.files.Accepts workbooksFile := ⟨rfl, List.forall_mem_nil _⟩
  obtain ⟨saved, hsaved⟩ := hcollection.1 haccepts
  exact ⟨hread, hbook drafts draftsBook hread, desk, saved, hdocument, hsaved,
    hcollection.2 saved hsaved⟩

end TaleLoom
