import EntityQuery.Proofs.Calendar.Text
import EntityQuery.Proofs.Coercion.Form

namespace EntityQuery

variable {type : FieldType} {value : Value}

/-- The dates and times of a temporal type. -/
inductive FieldType.Holds : FieldType → Value → Prop
  | date (d : Date) : Holds .date (.date d)
  | time (t : Time) : Holds .time (.time t)
  | dateTime (dt : DateTime) : Holds .dateTime (.dateTime dt)
  | dateTimeTz (dt : DateTime) : Holds .dateTimeTz (.dateTime dt)

/-- The nanoseconds of a value behind its full second. -/
def Value.fraction : Value → Nat
  | .time t => t.fraction
  | .dateTime dt => dt.time.fraction
  | _ => 0

namespace FieldType.Holds

/-- The text of a date or a time has no blanks around it, so it is read as it stands. -/
theorem isTrimmed_toText (h : type.Holds value) : Text.IsTrimmed value.toText.toList := by
  cases h with
  | date d => exact d.isTrimmed_toText
  | time t => exact t.isTrimmed_toText
  | dateTime dt | dateTimeTz dt => exact dt.isTrimmed_toText

end FieldType.Holds

namespace EntityMeta

variable {entity : EntityMeta} {field : String}

end EntityMeta

end EntityQuery
