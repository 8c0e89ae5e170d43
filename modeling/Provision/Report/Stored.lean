import Provision.Report.Basic
import Provision.Template.Stored
import Provision.Time.Reader

/-!
# Stored reports

A report is stored like a template, with its times as texts. A report without a start is taken
to start at the time of reading. A report that has been made is never changed.
-/

namespace Provision

/-- A moment. -/
def momentOfValue (v : Value) : Shape.Checked Time.Moment :=
  match Time.read v with
  | .ok m => .ok m
  | .error .kind => .fail v .notMoment
  | .error (.number why) => .fail v (.badMoment why)
  | .error .unread => .fail v .unreadText
  | .error (.text why) => .fail v (.badDate why)

/-- A moment or nothing. -/
def optionalMoment : Value → Shape.Checked (Option Time.Moment)
  | .null => .ok none
  | v => some <$> momentOfValue v

namespace Report

/-- The name of the record that holds a report. -/
def recordName : String := "RunReport"

/-- A report, read at a given time. -/
def ofValue (now : Time.Moment) (v : Value) : Shape.Checked Report :=
  (Shape.record recordName v).andThen fun fields =>
    Report.mk
      <$> Shape.requiredField fields "id" Shape.text
      <*> Shape.optionalField fields "statements" [] (Shape.items Statement.ofValue)
      <*> Shape.optionalField fields "started_at" now momentOfValue
      <*> Shape.optionalField fields "finished_at" none optionalMoment
      <*> Shape.optionalField fields "aborted" "" Shape.text

/-- The report of a document, read at a given time. -/
def ofJson (now : Time.Moment) (text : String) : Except DocumentError Report := do
  let v ← (Json.read text).mapError .json
  ((ofValue now v).settle recordName).mapError .shape

/-- The record of a report. -/
def toValue (r : Report) : Value :=
  .table [("id", .text r.id), ("statements", statementsValue r.statements),
    ("started_at", .text r.started.text),
    ("finished_at", (r.finished.map fun m => Value.text m.text).getD .null),
    ("aborted", .text r.aborted)]

/-- The document of a report. -/
def toJson (r : Report) : Except TextFault String := Json.write r.toValue

/-- What comes of assigning a value to a field of a report that has been made. The report keeps
as it is; only a private name, which starts with an underscore, is let through. -/
def assignment (field : String) (v : Value) : Except Shape.Rejection Unit :=
  if field.toList.head? = some '_' then .ok ()
  else .error ⟨recordName, [⟨[.key (Text.encodable field)], .frozen, Shape.found v⟩]⟩

end Report

end Provision
