import Provisioner.Context
import Provisioner.Proofs.OperationId
import Provisioner.Proofs.Json.Records
import Provisioner.Proofs.Time.Reading

/-!
# Contexts read back

Identifiers that fit into a context (`Record.Fits`) are always written: the context of an operation holds the fields
under reserved keys and those of the identifiers (`encode_eq`). It is read back as the operation with its start cut
to the millisecond (`decode_context`), unless the year of the start has not four digits (`decode_context_of_odd`).
-/
namespace Provisioner

theorem Json.toMaps_of_isPrimitive {value : Json} (plain : value.isPrimitive = true) : value.toMaps = value := by
  cases value with
  | array | object => cases plain
  | _ => rfl

/-- The tag of a value leads back to the value. -/
class Tagged.Distinct (α : Type) [Tagged α] : Prop where
  ofTag?_tag : ∀ value : α, ofTag? (tag value) = some value

/-- A value that a context can hold. -/
def Json.IsPlain (value : Json) : Prop :=
  value.isPrimitive = true ∧ value.isNull = false

/-- The identifiers of a record have keys of their own and plain values in a context, and are read back as others. -/
structure Record.Fits {I : Type} (record : Record I) (reread : I → I) : Prop where
  different : record.fields.keys.Nodup
  free : ∀ key ∈ record.fields.keys, Context.isReserved key = false
  plain : ∀ ids, ∀ field ∈ record.fields.write (record.toRow ids), field.2.IsPlain
  rereads : ∀ ids, record.fields.Rereads (record.toRow ids) (record.toRow (reread ids))
  back : ∀ ids, record.ofRow (record.toRow ids) = ids

/-- The timing that is read back. -/
def Timing.reread (timing : Timing) : Timing :=
  { timing with startedAt := timing.startedAt.reread }

@[simp] theorem Timing.reread_reread (timing : Timing) : timing.reread.reread = timing.reread := by
  simp [reread]

/-- The operation started in a year that four digits spell, if its start is kept. -/
def Continuation.HasPlainStart {P I : Type} (continuation : Continuation P I) : Prop :=
  ∀ timing ∈ continuation.timing, timing.startedAt.HasPlainYear

/-- The operation that is read back. -/
def Continuation.reread {P I : Type} (reread : I → I) (continuation : Continuation P I) : Continuation P I :=
  { continuation with ids := reread continuation.ids, timing := continuation.timing.map Timing.reread }

@[simp] theorem Continuation.isSome_timing_reread {P I : Type} (continuation : Continuation P I) (reread : I → I) :
    (continuation.reread reread).timing.isSome = continuation.timing.isSome :=
  Option.isSome_map

theorem Continuation.HasPlainStart.reread {P I : Type} {continuation : Continuation P I}
    (plain : continuation.HasPlainStart) (reread : I → I) : (continuation.reread reread).HasPlainStart := by
  intro timing member
  obtain ⟨timing, known, rfl⟩ := Option.mem_map.mp member
  exact Instant.HasPlainYear.reread (plain timing known)

namespace Context
variable {P I : Type} [Tagged P] {target : Target} {record : Record I} {reread : I → I}

/-! ## Writing -/

/-- The fields under reserved keys, in the order in which they are put down. -/
def reservedList (target : Target) (continuation : Continuation P I) : Fields :=
  [("v", Json.ofNat version), ("family", .string target.family), ("operation", .string target.operation.tag),
    ("phase", .string (Tagged.tag continuation.phase)),
    ("operationId", .string (String.ofList continuation.operationId.text))] ++
  (continuation.timing.map timingFields).getD []

/-- The fields of a context: the reserved ones, and the identifiers. -/
def fieldList (target : Target) (record : Record I) (continuation : Continuation P I) : Fields :=
  reservedList target continuation ++ record.fields.write (record.toRow continuation.ids)

/-- The context of an operation whose identifiers fit. -/
def contextOf (target : Target) (record : Record I) (continuation : Continuation P I) : Fields :=
  (reservedFields target continuation).insertAll (Fields.toMap (record.fields.write (record.toRow continuation.ids)))

/-- The keys under which fields are put down, in that order. -/
def orderedKeys : List String :=
  ["v", "family", "operation", "phase", "operationId", "startTime", "deleteOnTimeout", "timeoutDuration"]

theorem keys_reservedList (target : Target) (continuation : Continuation P I) :
    ((reservedList target continuation).map (·.1)).Sublist orderedKeys := by
  rcases continuation with ⟨_, _, _, _ | ⟨_, _ | _, _⟩⟩ <;> simp [reservedList, timingFields, orderedKeys]

theorem different_reservedList (target : Target) (continuation : Continuation P I) :
    ((reservedList target continuation).map (·.1)).Nodup :=
  (keys_reservedList target continuation).nodup (by decide)

theorem isReserved_of_mem {continuation : Continuation P I} {field : String × Json}
    (member : field ∈ reservedList target continuation) : isReserved field.1 = true := by
  have reserved : ∀ key ∈ orderedKeys, isReserved key = true := by decide
  exact reserved _ ((keys_reservedList target continuation).subset (List.mem_map_of_mem member))

theorem plain_of_mem_reservedList {continuation : Continuation P I} {field : String × Json}
    (member : field ∈ reservedList target continuation) : field.2.IsPlain := by
  have values : ∀ value ∈ (reservedList target continuation).map (·.2), value.IsPlain := by
    rcases continuation with ⟨_, _, _, _ | ⟨_, _ | _, _⟩⟩ <;>
      simp [reservedList, timingFields, Json.IsPlain, Json.isPrimitive, Json.isNull, Json.ofNat, Json.ofInt]
  exact values _ (List.mem_map_of_mem member)

theorem writeIds_of_plain {identifiers : Fields} (free : ∀ field ∈ identifiers, isReserved field.1 = false)
    (plain : ∀ field ∈ identifiers, field.2.IsPlain) (raw : Fields) :
    writeIds identifiers raw = .ok (raw.insertAll identifiers) := by
  induction identifiers generalizing raw with
  | nil => rfl
  | cons field rest ih =>
    obtain ⟨primitive, something⟩ := plain field List.mem_cons_self
    have unreserved := free field List.mem_cons_self
    rw [writeIds, if_neg (by simp [something]), if_neg (by simp [unreserved]), if_neg (by simp [primitive])]
    exact ih (fun field member => free field (List.mem_cons_of_mem _ member))
      (fun field member => plain field (List.mem_cons_of_mem _ member)) _

theorem free_of_mem_write (fits : record.Fits reread) (ids : I) {field : String × Json}
    (member : field ∈ record.fields.write (record.toRow ids)) : isReserved field.1 = false :=
  fits.free _ (Fieldset.mem_keys_of_mem_write _ _ member)

theorem toMaps_write (fits : record.Fits reread) (ids : I) :
    ((record.fields.write (record.toRow ids)).map fun field => (field.1, field.2.toMaps)) =
      record.fields.write (record.toRow ids) := by
  rw [List.map_congr_left (g := id), List.map_id]
  intro field member
  rw [Json.toMaps_of_isPrimitive (fits.plain ids field member).1, id]

theorem toMap_write_perm (fits : record.Fits reread) (ids : I) :
    (Fields.toMap (record.fields.write (record.toRow ids))).Perm (record.fields.write (record.toRow ids)) :=
  Fields.toMap_perm ((Fieldset.keys_write _ _).nodup fits.different)

/-- Where identifiers fit, a context is always written. -/
theorem encode_eq (fits : record.Fits reread) (target : Target) (continuation : Continuation P I) :
    encode target record.shape continuation = .ok (contextOf target record continuation) := by
  have fields := toMap_write_perm fits continuation.ids
  have written : record.shape.toJson continuation.ids =
      .object (Fields.toMap (record.fields.write (record.toRow continuation.ids))) := by
    rw [Shape.toJson, Record.shape, Json.toMaps, Json.fieldsToMaps_eq_map, toMaps_write fits]
  rw [encode, written]
  exact writeIds_of_plain (fun field member => free_of_mem_write fits _ (fields.mem_iff.mp member))
    (fun field member => fits.plain _ field (fields.mem_iff.mp member)) _

/-! ## What a context holds -/

theorem different_fieldList (fits : record.Fits reread) (target : Target) (continuation : Continuation P I) :
    ((fieldList target record continuation).map (·.1)).Nodup := by
  rw [fieldList, List.map_append, List.nodup_append]
  refine ⟨different_reservedList target continuation, (Fieldset.keys_write _ _).nodup fits.different, ?_⟩
  intro key reserved other free same
  obtain ⟨field, member, rfl⟩ := List.mem_map.mp reserved
  obtain ⟨field', member', rfl⟩ := List.mem_map.mp free
  have : isReserved field'.1 = false := free_of_mem_write fits _ member'
  rw [← same, isReserved_of_mem member] at this
  cases this

theorem contextOf_perm (fits : record.Fits reread) (target : Target) (continuation : Continuation P I) :
    (contextOf target record continuation).Perm (fieldList target record continuation) := by
  have reserved : (reservedFields target continuation).Perm (reservedList target continuation) :=
    Fields.toMap_perm (different_reservedList target continuation)
  have both := reserved.append (toMap_write_perm fits continuation.ids)
  exact (Fields.insertAll_perm ((both.map _).nodup_iff.mpr (different_fieldList fits target continuation))).trans both

theorem isMap_contextOf (target : Target) (continuation : Continuation P I) :
    (contextOf target record continuation).IsMap :=
  Fields.isMap_insertAll (Fields.isMap_toMap _) _

theorem plain_of_mem_contextOf (fits : record.Fits reread) {continuation : Continuation P I}
    {field : String × Json} (member : field ∈ contextOf target record continuation) : field.2.IsPlain := by
  rcases List.mem_append.mp ((contextOf_perm fits target continuation).mem_iff.mp member) with reserved | free
  · exact plain_of_mem_reservedList reserved
  · exact fits.plain _ _ free

/-- Under a reserved key stands what was put down there. -/
theorem get?_contextOf (fits : record.Fits reread) (target : Target) (continuation : Continuation P I)
    {key : String} (reserved : isReserved key = true) :
    (contextOf target record continuation).get? key = (reservedList target continuation).get? key := by
  have same := contextOf_perm fits target continuation
  rw [Fields.get?_eq_of_perm (isMap_contextOf target continuation).different same, fieldList,
    Fields.get?_append_of_new]
  intro field member equal
  have := free_of_mem_write fits _ member
  rw [equal, reserved] at this
  cases this

/-- A context names its phase. -/
theorem get?_phase (fits : record.Fits reread) (target : Target) (continuation : Continuation P I) :
    (contextOf target record continuation).get? "phase" = some (.string (Tagged.tag continuation.phase)) := by
  rw [get?_contextOf fits target continuation (by decide)]
  rfl

theorem identifiers_contextOf (fits : record.Fits reread) (target : Target) (continuation : Continuation P I) :
    (identifiers (contextOf target record continuation)).Perm
      (record.fields.write (record.toRow continuation.ids)) := by
  have reserved : (reservedList target continuation).filter
      (fun field => !isReserved field.1 && !field.2.isNull) = [] := by
    simp only [List.filter_eq_nil_iff]
    intro field member
    simp [isReserved_of_mem member]
  have free : (record.fields.write (record.toRow continuation.ids)).filter
      (fun field => !isReserved field.1 && !field.2.isNull) =
        record.fields.write (record.toRow continuation.ids) := by
    rw [List.filter_eq_self]
    intro field member
    simp [free_of_mem_write fits _ member, (fits.plain _ field member).2]
  have filtered := (contextOf_perm fits target continuation).filter
    (fun field => !isReserved field.1 && !field.2.isNull)
  rwa [fieldList, List.filter_append, reserved, free] at filtered

/-! ## Reading -/

theorem checkFlat_contextOf (fits : record.Fits reread) (target : Target) (continuation : Continuation P I) :
    checkFlat (contextOf target record continuation) = .ok () := by
  have : (contextOf target record continuation).find? (fun field => !field.2.isPrimitive) = none := by
    simp only [List.find?_eq_none]
    intro field member
    simp [(plain_of_mem_contextOf fits member).1]
  rw [checkFlat, this]

theorem checkVersion_contextOf (fits : record.Fits reread) (target : Target) (continuation : Continuation P I) :
    checkVersion (contextOf target record continuation) = .ok () := by
  rw [checkVersion, get?_contextOf fits target continuation (by decide)]
  simp [reservedList, Json.ofNat, Json.ofInt]

theorem checkTarget_contextOf (fits : record.Fits reread) (target : Target) (continuation : Continuation P I) :
    checkTarget target (contextOf target record continuation) = .ok () := by
  simp only [checkTarget, requireString, get?_contextOf fits target continuation (by decide : isReserved "family"),
    get?_contextOf fits target continuation (by decide : isReserved "operation")]
  simp [reservedList, Json.string?, bind, Except.bind, pure, Except.pure]

theorem readPhase_contextOf [Tagged.Distinct P] (fits : record.Fits reread) (target : Target)
    (continuation : Continuation P I) :
    readPhase (contextOf target record continuation) = .ok continuation.phase := by
  rw [readPhase, requireString, get?_contextOf fits target continuation (by decide)]
  simp [reservedList, Json.string?, bind, Except.bind, pure, Except.pure, Tagged.Distinct.ofTag?_tag]

theorem readOperationId_contextOf (fits : record.Fits reread) (target : Target) (continuation : Continuation P I) :
    readOperationId (contextOf target record continuation) = .ok continuation.operationId := by
  rw [readOperationId, requireString, get?_contextOf fits target continuation (by decide)]
  simp [reservedList, Json.string?, bind, Except.bind, pure, Except.pure, OperationId.parse?_text]

theorem readTiming_contextOf (fits : record.Fits reread) (target : Target) {continuation : Continuation P I}
    (plain : continuation.HasPlainStart) :
    readTiming (contextOf target record continuation) = .ok (continuation.timing.map Timing.reread) := by
  simp only [readTiming, readTimeout, readDeleteOnTimeout, Fields.has,
    get?_contextOf fits target continuation (by decide : isReserved "startTime"),
    get?_contextOf fits target continuation (by decide : isReserved "timeoutDuration"),
    get?_contextOf fits target continuation (by decide : isReserved "deleteOnTimeout")]
  rcases continuation with ⟨_, _, _, _ | ⟨start, timeout, kept⟩⟩
  · simp [reservedList]
  · have read : Instant.parse? start.text = some start.reread :=
      Instant.parse?_text (plain ⟨start, timeout, kept⟩ (Option.mem_some_self _))
    cases timeout <;>
      simp [reservedList, timingFields, readStart, read, bind, Except.bind, pure, Except.pure, Timing.reread]

theorem readTiming_contextOf_of_odd (fits : record.Fits reread) (target : Target) {continuation : Continuation P I}
    {timing : Timing} (known : continuation.timing = some timing) (odd : ¬ timing.startedAt.HasPlainYear) :
    readTiming (contextOf target record continuation) =
      .error (.invalidStartTime (String.ofList timing.startedAt.text)) := by
  have read : Instant.parse? timing.startedAt.text = none := Instant.parse?_text_eq_none odd
  simp only [readTiming, get?_contextOf fits target continuation (by decide : isReserved "startTime")]
  simp [reservedList, known, timingFields, readStart, read, bind, Except.bind]

theorem readIds_contextOf (fits : record.Fits reread) (target : Target) (continuation : Continuation P I) :
    readIds record.shape (contextOf target record continuation) = .ok (reread continuation.ids) := by
  have same := identifiers_contextOf fits target continuation
  rw [← toMaps_write fits] at same
  rw [readIds, record.ofJson_of_perm fits.different (fits.rereads continuation.ids) same, fits.back]
  rfl

theorem contextOf_ne_nil (fits : record.Fits reread) (target : Target) (continuation : Continuation P I) :
    (contextOf target record continuation).isEmpty = false := by
  have same := (contextOf_perm fits target continuation).length_eq
  cases fields : contextOf target record continuation with
  | nil => simp [fields, fieldList, reservedList] at same
  | cons => rfl

/-- The operation is read back, with its start cut to the millisecond. -/
theorem decode_contextOf [Tagged.Distinct P] (fits : record.Fits reread) (target : Target)
    {continuation : Continuation P I} (plain : continuation.HasPlainStart) :
    decode target record.shape (contextOf target record continuation) = .ok (some (continuation.reread reread)) := by
  simp only [decode, contextOf_ne_nil fits, checkFlat_contextOf fits, checkVersion_contextOf fits,
    checkTarget_contextOf fits, readPhase_contextOf fits, readOperationId_contextOf fits,
    readTiming_contextOf fits target plain, readIds_contextOf fits]
  rfl

theorem decode_contextOf_of_odd [Tagged.Distinct P] (fits : record.Fits reread) (target : Target)
    {continuation : Continuation P I} {timing : Timing} (known : continuation.timing = some timing)
    (odd : ¬ timing.startedAt.HasPlainYear) :
    decode (P := P) target record.shape (contextOf target record continuation) =
      .error (.invalidStartTime (String.ofList timing.startedAt.text)) := by
  simp only [decode, contextOf_ne_nil fits, checkFlat_contextOf fits, checkVersion_contextOf fits,
    checkTarget_contextOf fits, readPhase_contextOf fits, readOperationId_contextOf fits,
    readTiming_contextOf_of_odd fits target known odd]
  rfl

/-- Timings that are read back alike are written alike. -/
theorem map_timingFields_reread (timing : Option Timing) :
    (timing.map Timing.reread).map timingFields = timing.map timingFields := by
  cases timing with
  | none => rfl
  | some timing => simp [timingFields, Timing.reread, Instant.text_reread]

/-- Where the identifiers are read back as they are, so is the whole context. -/
theorem contextOf_reread {continuation : Continuation P I} (kept : reread continuation.ids = continuation.ids)
    (target : Target) :
    contextOf target record (continuation.reread reread) = contextOf target record continuation := by
  simp only [contextOf, reservedFields, Continuation.reread, kept, map_timingFields_reread]

end Context
end Provisioner
