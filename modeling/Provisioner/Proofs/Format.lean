import Provisioner.Proofs.Family
import Provisioner.Proofs.Json.Strict

/-!
# The format of contexts

`Family.Documented` says in one list what a context of an operation holds: plain values, the tags of the operation, a
timing that is whole (`Context.Timed`), and the identifiers of the family with values of their types. Exactly these
contexts are read, once identifiers that are `null` are left out of them (`Family.exists_decode_iff_documented`): reading
takes such an identifier for one that is missing, as writing does.
-/
namespace Provisioner

/-- The types of what a context says besides numbers. -/
inductive ScalarType where
  | text
  | flag
  deriving DecidableEq, Repr

/-- The values of a type. -/
def ScalarType.Has : ScalarType → Json → Prop
  | text, value => ∃ text, value = .string text
  | flag, value => ∃ flag, value = .bool flag

/-- An identifier as the format lists it. -/
structure ListedId where
  key : String
  type : ScalarType
  needed : Bool
  deriving DecidableEq, Repr

/-- Either a context says nothing of time, or it has a start, and the rest that it says has the right types. -/
def Context.Timed (context : Fields) : Prop :=
  (context.get? "startTime" = none ∧ context.get? "timeoutDuration" = none ∧ context.get? "deleteOnTimeout" = none) ∨
    (∃ text start, context.get? "startTime" = some (.string text) ∧ Instant.parse? text.toList = some start) ∧
      (∀ value ∈ context.get? "timeoutDuration", ScalarType.text.Has value) ∧
      ∀ value ∈ context.get? "deleteOnTimeout", ScalarType.flag.Has value

namespace Family

/-- The identifiers that contexts of a family hold. -/
def listedIds : Family → List ListedId
  | cluster => [⟨"projectId", .text, true⟩, ⟨"clusterName", .text, true⟩, ⟨"targetPaused", .flag, false⟩]
  | streamProcessor =>
    [⟨"projectId", .text, true⟩, ⟨"workspaceName", .text, true⟩, ⟨"processorName", .text, true⟩,
      ⟨"needsStarting", .flag, false⟩]
  | privateEndpoint =>
    [⟨"projectId", .text, true⟩, ⟨"region", .text, true⟩, ⟨"serviceId", .text, false⟩,
      ⟨"interfaceEndpointId", .text, false⟩, ⟨"networkEndpointIds", .text, false⟩]
  | exportJob => [⟨"projectId", .text, true⟩, ⟨"clusterName", .text, true⟩, ⟨"exportId", .text, true⟩]

/-- The reserved keys of a context hold what they should in an operation on the family. -/
structure Headed (family : Family) (operation : Operation) (context : Fields) : Prop where
  version : context.get? "v" = some (.number (.integer 1))
  ofFamily : context.get? "family" = some (.string family.tag)
  ofOperation : context.get? "operation" = some (.string operation.tag)
  phase : ∃ phase : family.Phase, context.get? "phase" = some (.string (Tagged.tag phase))
  operationId : ∃ text id, context.get? "operationId" = some (.string text) ∧ OperationId.parse? text.toList = some id
  timed : Context.Timed context

/-- The context is one of an operation on the family, in the documented format. -/
structure Documented (family : Family) (operation : Operation) (context : Fields) : Prop
    extends family.Headed operation context where
  plain : ∀ field ∈ context, field.2.IsPlain
  known : ∀ field ∈ context, Context.isReserved field.1 = false →
    ∃ listed ∈ family.listedIds, listed.key = field.1 ∧ listed.type.Has field.2
  complete : ∀ listed ∈ family.listedIds, listed.needed = true → listed.key ∈ context.map (·.1)

end Family

/-! ## What each part is read from -/

namespace Context
variable {P I : Type} [Tagged P] {raw : Fields} {target : Target}

theorem requireString_eq_ok {key text : String} :
    requireString raw key = .ok text ↔ raw.get? key = some (.string text) := by
  rw [requireString]
  cases raw.get? key with
  | none => simp
  | some value => cases value <;> simp [Json.string?]

theorem checkFlat_eq_ok : checkFlat raw = .ok () ↔ ∀ field ∈ raw, field.2.isPrimitive = true := by
  rw [checkFlat]
  cases found : raw.find? fun field => !field.2.isPrimitive with
  | none => simpa using found
  | some field =>
    have nested : field.2.isPrimitive = false := by simpa using List.find?_some found
    simp only [reduceCtorEq, false_iff]
    intro flat
    rw [flat field (List.mem_of_find?_eq_some found)] at nested
    cases nested

theorem checkVersion_eq_ok : checkVersion raw = .ok () ↔ raw.get? "v" = some (.number (.integer 1)) := by
  rw [checkVersion]
  split
  · next missing => simp [missing]
  · next found => simp [found, version]
  · next other found =>
    simp only [found, reduceCtorEq, Option.some.injEq, false_iff]
    exact other 1

theorem checkTarget_eq_ok : checkTarget target raw = .ok () ↔
    raw.get? "family" = some (.string target.family) ∧ raw.get? "operation" = some (.string target.operation.tag) := by
  simp only [checkTarget, bind_eq_ok, requireString_eq_ok]
  constructor
  · rintro ⟨family, named, operation, done, passed⟩
    split at passed
    · next same => exact ⟨same.1 ▸ named, same.2 ▸ done⟩
    · cases passed
  · rintro ⟨named, done⟩
    exact ⟨_, named, _, done, if_pos ⟨rfl, rfl⟩⟩

theorem exists_readPhase_iff [Tagged.Distinct P] :
    (∃ phase : P, readPhase raw = .ok phase) ↔ ∃ phase : P, raw.get? "phase" = some (.string (Tagged.tag phase)) := by
  simp only [readPhase, bind_eq_ok, requireString_eq_ok]
  constructor
  · rintro ⟨phase, tag, found, read⟩
    split at read
    · next known => exact ⟨_, (Tagged.tag_of_ofTag? known).symm ▸ found⟩
    · cases read
  · rintro ⟨phase, found⟩
    refine ⟨phase, _, found, ?_⟩
    rw [Tagged.Distinct.ofTag?_tag]
    rfl

theorem exists_readOperationId_iff : (∃ id, readOperationId raw = .ok id) ↔
    ∃ text id, raw.get? "operationId" = some (.string text) ∧ OperationId.parse? text.toList = some id := by
  simp only [readOperationId, bind_eq_ok, requireString_eq_ok]
  constructor
  · rintro ⟨_, text, found, read⟩
    split at read
    · next id spelt => exact ⟨text, id, found, spelt⟩
    · cases read
  · rintro ⟨text, id, found, spelt⟩
    refine ⟨id, text, found, ?_⟩
    rw [spelt]
    rfl

theorem exists_readStart_iff {value : Json} : (∃ start, readStart value = .ok start) ↔
    ∃ text start, value = .string text ∧ Instant.parse? text.toList = some start := by
  cases value with
  | string text => cases spelt : Instant.parse? text.toList <;> simp [readStart, spelt]
  | _ => simp [readStart]

theorem exists_readTimeout_iff : (∃ timeout, readTimeout raw = .ok timeout) ↔
    ∀ value ∈ raw.get? "timeoutDuration", ScalarType.text.Has value := by
  rw [readTimeout]
  cases raw.get? "timeoutDuration" with
  | none => simp
  | some value => cases value <;> simp [ScalarType.Has]

theorem exists_readDeleteOnTimeout_iff : (∃ delete, readDeleteOnTimeout raw = .ok delete) ↔
    ∀ value ∈ raw.get? "deleteOnTimeout", ScalarType.flag.Has value := by
  rw [readDeleteOnTimeout]
  cases raw.get? "deleteOnTimeout" with
  | none => simp
  | some value => cases value <;> simp [ScalarType.Has]

theorem exists_readTiming_iff : (∃ timing, readTiming raw = .ok timing) ↔ Timed raw := by
  simp only [readTiming, Timed, Fields.has]
  cases raw.get? "startTime" with
  | none =>
    have absent : ¬ ((raw.get? "timeoutDuration").isSome = true ∨ (raw.get? "deleteOnTimeout").isSome = true) ↔
        raw.get? "timeoutDuration" = none ∧ raw.get? "deleteOnTimeout" = none := by simp
    rw [← absent]
    by_cases given : (raw.get? "timeoutDuration").isSome = true ∨ (raw.get? "deleteOnTimeout").isSome = true <;>
      simp [given]
  | some start =>
    have started : (∃ text start', some start = some (Json.string text) ∧ Instant.parse? text.toList = some start') ↔
        ∃ start', readStart start = .ok start' := by
      rw [exists_readStart_iff]
      simp
    rw [started, ← exists_readTimeout_iff, ← exists_readDeleteOnTimeout_iff]
    simp only [bind_eq_ok, reduceCtorEq, false_and, false_or]
    constructor
    · rintro ⟨_, start, reads, timeout, reads', delete, reads'', _⟩
      exact ⟨⟨start, reads⟩, ⟨timeout, reads'⟩, ⟨delete, reads''⟩⟩
    · rintro ⟨⟨start, reads⟩, ⟨timeout, reads'⟩, ⟨delete, reads''⟩⟩
      exact ⟨_, start, reads, timeout, reads', delete, reads'', rfl⟩

theorem Timed.get?_ne_null (timed : Timed raw) : raw.get? "startTime" ≠ some .null ∧
    raw.get? "timeoutDuration" ≠ some .null ∧ raw.get? "deleteOnTimeout" ≠ some .null := by
  rcases timed with ⟨noStart, noTimeout, noDelete⟩ | ⟨⟨_, _, start, _⟩, timeout, delete⟩
  · simp [noStart, noTimeout, noDelete]
  · refine ⟨by simp [start], ?_, ?_⟩
    · intro null
      obtain ⟨_, ⟨⟩⟩ := timeout .null null
    · intro null
      obtain ⟨_, ⟨⟩⟩ := delete .null null

/-- A context is read where each part of it is. -/
theorem exists_decode_iff {ids : Shape I} :
    (∃ continuation : Continuation P I, decode target ids raw = .ok (some continuation)) ↔
      checkFlat raw = .ok () ∧ checkVersion raw = .ok () ∧ checkTarget target raw = .ok () ∧
        (∃ phase : P, readPhase raw = .ok phase) ∧ (∃ id, readOperationId raw = .ok id) ∧
        (∃ timing, readTiming raw = .ok timing) ∧ ∃ read, readIds ids raw = .ok read := by
  constructor
  · rintro ⟨continuation, decoded⟩
    rw [decode] at decoded
    split at decoded
    · cases decoded
    · simp only [bind_eq_ok] at decoded
      obtain ⟨_, flat, _, version, _, owned, phase, reads, id, reads', timing, timed, ids, known, _⟩ := decoded
      exact ⟨flat, version, owned, ⟨phase, reads⟩, ⟨id, reads'⟩, ⟨timing, timed⟩, ⟨ids, known⟩⟩
  · rintro ⟨flat, version, owned, ⟨phase, reads⟩, ⟨id, reads'⟩, ⟨timing, timed⟩, ⟨ids, known⟩⟩
    have filled : ¬ raw.isEmpty = true := by
      intro empty
      rw [List.isEmpty_iff.mp empty] at version
      cases version
    refine ⟨{ operationId := id, phase, ids, timing }, ?_⟩
    rw [decode, if_neg filled]
    simp only [bind_eq_ok]
    exact ⟨_, flat, _, version, _, owned, phase, reads, id, reads', timing, timed, ids, known, rfl⟩

/-- Only the empty context stands for no operation. -/
theorem eq_nil_of_decode {ids : Shape I} (decoded : decode (P := P) target ids raw = .ok none) : raw = [] := by
  rw [decode] at decoded
  split at decoded
  · next empty => exact List.isEmpty_iff.mp empty
  · simp only [bind_eq_ok] at decoded
    obtain ⟨_, _, _, _, _, _, _, _, _, _, _, _, _, _, ⟨⟩⟩ := decoded

/-! ## Values of `null` -/

/-- A context without the identifiers that are `null`. -/
def withoutNulls (raw : Fields) : Fields :=
  raw.filter fun field => isReserved field.1 || !field.2.isNull

theorem mem_withoutNulls {field : String × Json} :
    field ∈ withoutNulls raw ↔ field ∈ raw ∧ (isReserved field.1 = true ∨ field.2.isNull = false) := by
  simp [withoutNulls]

theorem get?_withoutNulls {key : String} (reserved : isReserved key = true) :
    (withoutNulls raw).get? key = raw.get? key := by
  induction raw with
  | nil => rfl
  | cons field raw ih =>
    obtain ⟨k, value⟩ := field
    rw [withoutNulls, List.filter_cons]
    by_cases same : key = k
    · subst same
      simp [reserved]
    · split
      · rw [Fields.get?_cons, Fields.get?_cons, if_neg same, if_neg same]
        exact ih
      · rw [Fields.get?_cons, if_neg same]
        exact ih

theorem mem_identifiers {field : String × Json} :
    field ∈ identifiers raw ↔ field ∈ withoutNulls raw ∧ isReserved field.1 = false := by
  rw [mem_withoutNulls]
  cases reserved : isReserved field.1 <;> simp [identifiers, reserved]

end Context

/-! ## Identifiers -/

namespace Shape
variable {origin : Origin} {value : Json}

theorem exists_string_iff : (∃ text, string.read origin value.source = .ok text) ↔ ScalarType.text.Has value := by
  cases value <;> simp [string, Json.source, ScalarType.Has]

theorem exists_bool_iff : (∃ flag, bool.read origin value.source = .ok flag) ↔ ScalarType.flag.Has value := by
  cases value <;> simp [bool, Json.source, ScalarType.Has]

theorem exists_option_iff {α : Type} {shape : Shape α} (something : value.isNull = false) :
    (∃ read, shape.option.read origin value.source = .ok read) ↔ ∃ read, shape.read origin value.source = .ok read := by
  have lifted (source : Source) : (∃ read, (shape.read origin source).map some = .ok read) ↔
      ∃ read, shape.read origin source = .ok read := by
    cases shape.read origin source <;> simp [Except.map]
  cases value with
  | null => cases something
  | _ => exact lifted _

theorem exists_commaList_iff : (∃ items, commaList.read origin value.source = .ok items) ↔ ScalarType.text.Has value := by
  cases value <;> simp [commaList, via, string, Json.source, ScalarType.Has, Except.map]

end Shape

namespace Family
variable {family : Family} {operation : Operation} {raw : Fields}

theorem strict_idsRecord (family : Family) : family.idsRecord.strict = true := by
  cases family <;> rfl

theorem unaliased_idsRecord (family : Family) : family.idsRecord.fields.Unaliased := by
  cases family <;> simp [idsRecord, ClusterIds.record, StreamProcessorIds.record, PrivateEndpointIds.record,
    ExportJobIds.record, Fieldset.Unaliased, Field.required, Field.optional, Field.unlessEmpty]

theorem different_idsRecord (family : Family) : family.idsRecord.fields.names.Nodup := by
  cases family <;> decide

theorem needed_idsRecord (family : Family) :
    family.idsRecord.fields.needed = (family.listedIds.filter (·.needed)).map (·.key) := by
  cases family <;> rfl

theorem free_listedIds (family : Family) : ∀ listed ∈ family.listedIds, Context.isReserved listed.key = false := by
  cases family <;> decide

/-- The fields of the record are the identifiers listed. -/
theorem suits_idsRecord {key : String} {value : Json} (something : value.isNull = false) :
    family.idsRecord.fields.Suits .document key value.source ↔
      ∃ listed ∈ family.listedIds, listed.key = key ∧ listed.type.Has value := by
  cases family <;>
    simp [idsRecord, ClusterIds.record, StreamProcessorIds.record, PrivateEndpointIds.record, ExportJobIds.record,
      Fieldset.Suits, Field.required, Field.optional, Field.unlessEmpty, listedIds, Shape.exists_string_iff,
      Shape.exists_bool_iff, Shape.exists_option_iff something, Shape.exists_commaList_iff, eq_comm (a := key),
      -Bool.exists_bool]

theorem exists_readIds_iff (distinct : (raw.map (·.1)).Nodup) :
    (∃ ids, Context.readIds family.idsRecord.shape raw = .ok ids) ↔
      (∀ field ∈ Context.withoutNulls raw, Context.isReserved field.1 = false →
        ∃ listed ∈ family.listedIds, listed.key = field.1 ∧ listed.type.Has field.2) ∧
      ∀ listed ∈ family.listedIds, listed.needed = true → listed.key ∈ (Context.withoutNulls raw).map (·.1) := by
  have read : (∃ ids, Context.readIds family.idsRecord.shape raw = .ok ids) ↔
      ∃ ids, family.idsRecord.shape.ofJson (.object (Context.identifiers raw)) = .ok ids := by
    rw [Context.readIds]
    cases read : family.idsRecord.shape.ofJson (.object (Context.identifiers raw)) <;> simp [Except.mapError]
  have distinct : ((Context.identifiers raw).map (·.1)).Nodup :=
    (List.filter_sublist.map _).nodup distinct
  rw [read, Record.exists_ofJson_iff family.strict_idsRecord family.unaliased_idsRecord family.different_idsRecord distinct]
  refine and_congr ?_ ?_
  · constructor
    · intro suits field member free
      have present := (Context.mem_withoutNulls.mp member).2.resolve_left (by simp [free])
      exact (suits_idsRecord present).mp (suits field (Context.mem_identifiers.mpr ⟨member, free⟩))
    · intro known field member
      obtain ⟨member, free⟩ := Context.mem_identifiers.mp member
      have present := (Context.mem_withoutNulls.mp member).2.resolve_left (by simp [free])
      exact (suits_idsRecord present).mpr (known field member free)
  · rw [needed_idsRecord]
    simp only [List.forall_mem_map, List.mem_filter, and_imp]
    refine forall₂_congr fun listed member => imp_congr_right fun _ => ?_
    have free := free_listedIds family listed member
    simp only [List.mem_map]
    constructor
    · rintro ⟨field, there, same⟩
      exact ⟨field, (Context.mem_identifiers.mp there).1, same⟩
    · rintro ⟨field, there, same⟩
      exact ⟨field, Context.mem_identifiers.mpr ⟨there, same ▸ free⟩, same⟩

/-! ## Whole contexts -/

namespace Headed

/-- Only reserved keys count. -/
theorem of_same (headed : family.Headed operation raw) {other : Fields}
    (same : ∀ key, Context.isReserved key = true → other.get? key = raw.get? key) : family.Headed operation other where
  version := (same _ (by decide)).trans headed.version
  ofFamily := (same _ (by decide)).trans headed.ofFamily
  ofOperation := (same _ (by decide)).trans headed.ofOperation
  phase := headed.phase.imp fun _ found => (same _ (by decide)).trans found
  operationId := by simpa only [same "operationId" (by decide)] using headed.operationId
  timed := by
    simpa only [Context.Timed, same "startTime" (by decide), same "timeoutDuration" (by decide),
      same "deleteOnTimeout" (by decide)] using headed.timed

theorem withoutNulls_iff : family.Headed operation (Context.withoutNulls raw) ↔ family.Headed operation raw :=
  ⟨fun headed => headed.of_same fun _ reserved => (Context.get?_withoutNulls reserved).symm,
    fun headed => headed.of_same fun _ reserved => Context.get?_withoutNulls reserved⟩

/-- Nothing under a reserved key is `null`. -/
theorem get?_ne_null (headed : family.Headed operation raw) {key : String} (reserved : Context.isReserved key = true) :
    raw.get? key ≠ some .null := by
  have listed : key ∈ Context.reservedKeys := by simpa [Context.isReserved] using reserved
  obtain ⟨phase, named⟩ := headed.phase
  obtain ⟨text, id, spelt, _⟩ := headed.operationId
  obtain ⟨start, timeout, delete⟩ := headed.timed.get?_ne_null
  simp only [Context.reservedKeys, List.mem_cons, List.not_mem_nil, or_false] at listed
  rcases listed with rfl | rfl | rfl | rfl | rfl | rfl | rfl | rfl
  · simp [headed.version]
  · simp [headed.ofFamily]
  · simp [headed.ofOperation]
  · simp [named]
  · simp [spelt]
  · exact start
  · exact timeout
  · exact delete

end Headed

/-- A map is read as a context exactly where it is one in the documented format, identifiers that are `null` left
out. -/
theorem exists_decode_iff_documented (operation : Operation) (family : Family) (distinct : (raw.map (·.1)).Nodup) :
    (∃ continuation : Continuation family.Phase family.Ids,
        Context.decode ⟨family.tag, operation⟩ family.idsRecord.shape raw = .ok (some continuation)) ↔
      family.Documented operation (Context.withoutNulls raw) := by
  rw [Context.exists_decode_iff, Context.checkFlat_eq_ok, Context.checkVersion_eq_ok, Context.checkTarget_eq_ok,
    Context.exists_readPhase_iff, Context.exists_readOperationId_iff, Context.exists_readTiming_iff,
    exists_readIds_iff distinct]
  constructor
  · rintro ⟨flat, version, ⟨ofFamily, ofOperation⟩, phase, operationId, timed, known, complete⟩
    have headed : family.Headed operation raw := { version, ofFamily, ofOperation, phase, operationId, timed }
    refine { Headed.withoutNulls_iff.mpr headed with plain := ?_, known, complete }
    intro field member
    obtain ⟨there, kept⟩ := Context.mem_withoutNulls.mp member
    refine ⟨flat field there, ?_⟩
    rcases kept with reserved | present
    · -- a value under a reserved key was read as something else than `null`
      have found := Fields.get?_of_mem distinct there
      have something : field.2 ≠ .null := fun null => headed.get?_ne_null reserved (null ▸ found)
      cases value : field.2 with
      | null => exact absurd value something
      | _ => rfl
    · exact present
  · intro documented
    have headed := Headed.withoutNulls_iff.mp documented.toHeaded
    refine ⟨?_, headed.version, ⟨headed.ofFamily, headed.ofOperation⟩, headed.phase, headed.operationId, headed.timed,
      documented.known, documented.complete⟩
    intro field member
    cases null : field.2.isNull with
    | false => exact (documented.plain field (Context.mem_withoutNulls.mpr ⟨member, .inr null⟩)).1
    | true =>
      cases value : field.2 with
      | array | object => simp [value, Json.isNull] at null
      | _ => rfl

/-- A context with an identifier that is not listed is refused, unless the identifier is `null`. -/
theorem decode_of_unlisted (distinct : (raw.map (·.1)).Nodup) {field : String × Json} (member : field ∈ raw)
    (free : Context.isReserved field.1 = false) (something : field.2.isNull = false)
    (unlisted : ∀ listed ∈ family.listedIds, listed.key ≠ field.1) :
    ∃ error, Context.decode (P := family.Phase) ⟨family.tag, operation⟩ family.idsRecord.shape raw = .error error := by
  have refused : ¬ family.Documented operation (Context.withoutNulls raw) := by
    intro documented
    obtain ⟨listed, known, same, _⟩ :=
      documented.known field (Context.mem_withoutNulls.mpr ⟨member, .inr something⟩) free
    exact unlisted listed known same
  cases decoded : Context.decode (P := family.Phase) ⟨family.tag, operation⟩ family.idsRecord.shape raw with
  | error error => exact ⟨error, rfl⟩
  | ok result =>
    cases result with
    | none => exact absurd (Context.eq_nil_of_decode decoded) (List.ne_nil_of_mem member)
    | some continuation => exact absurd ((exists_decode_iff_documented operation family distinct).mp ⟨_, decoded⟩) refused

/-- The contexts that are read are those in the documented format, identifiers that are `null` left out. In particular
every context is refused that has an identifier which is neither listed nor `null`. -/
theorem decodes_documented_format (operation : Operation) (family : Family) (distinct : (raw.map (·.1)).Nodup) :
    ((∃ continuation : Continuation family.Phase family.Ids,
        Context.decode ⟨family.tag, operation⟩ family.idsRecord.shape raw = .ok (some continuation)) ↔
      family.Documented operation (Context.withoutNulls raw)) ∧
    ∀ field ∈ raw, Context.isReserved field.1 = false → field.2.isNull = false →
      (∀ listed ∈ family.listedIds, listed.key ≠ field.1) →
      ∃ error, Context.decode (P := family.Phase) ⟨family.tag, operation⟩ family.idsRecord.shape raw = .error error := by
  refine ⟨exists_decode_iff_documented operation family distinct, ?_⟩
  intro field member free something unlisted
  exact decode_of_unlisted distinct member free something unlisted

/-- The context of a cluster that is created, with a note in it. -/
def notedContext (note : Json) : Fields :=
  [("clusterName", .string "c"), ("family", .string "cluster"), ("note", note), ("operation", .string "create"),
    ("operationId", .string "00000000-0000-0000-0000-000000000000"), ("phase", .string "CREATING"),
    ("projectId", .string "p"), ("v", .number (.integer 1))]

theorem documented_notedContext : cluster.Documented .create (Context.withoutNulls (notedContext .null)) where
  version := rfl
  ofFamily := rfl
  ofOperation := rfl
  phase := ⟨.creating, rfl⟩
  operationId := ⟨_, .nil, rfl, rfl⟩
  timed := .inl ⟨rfl, rfl, rfl⟩
  plain := by
    simp [notedContext, Context.withoutNulls, Context.isReserved, Context.reservedKeys, Json.IsPlain, Json.isPrimitive,
      Json.isNull]
  known := by
    simp [notedContext, Context.withoutNulls, Context.isReserved, Context.reservedKeys, Json.isNull, listedIds,
      ScalarType.Has]
  complete := by decide

/-- A note of `null` is not even looked at, a note that says something is refused. -/
theorem note_refused_unless_null :
    (∃ continuation : Continuation ClusterPhase ClusterIds,
      Context.decode ⟨cluster.tag, .create⟩ cluster.idsRecord.shape (notedContext .null) = .ok (some continuation)) ∧
    ∃ error, Context.decode (P := ClusterPhase) ⟨cluster.tag, .create⟩ cluster.idsRecord.shape
      (notedContext (.string "n")) = .error error :=
  ⟨(decodes_documented_format .create .cluster (by decide)).1.mpr documented_notedContext,
    (decodes_documented_format .create .cluster (by decide)).2 ("note", .string "n") (by simp [notedContext]) (by decide)
      rfl (by decide)⟩

/-- So a context with an identifier that is not listed is read, which is not in the documented format itself. -/
theorem null_note_undocumented :
    ¬ ((∃ continuation : Continuation ClusterPhase ClusterIds,
        Context.decode ⟨cluster.tag, .create⟩ cluster.idsRecord.shape (notedContext .null) = .ok (some continuation)) ↔
      cluster.Documented .create (notedContext .null)) := by
  intro same
  have documented := same.mp ⟨_, rfl⟩
  have plain := documented.plain ("note", .null) (by simp [notedContext])
  cases plain.2

end Family

end Provisioner
