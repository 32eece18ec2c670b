import Provisioner.Proofs.Family
import Provisioner.Proofs.Json.Values

/-!
# Canonical contexts

A context may spell an operation in many ways: its id in any form, its start with any offset and fraction, its list of
network endpoints with blanks and empty items, and with identifiers that are `null`. Writing the operation that was read
gives one canonical context. It is read as the same operation with its start cut to the millisecond, and that operation
has the same context again (`Family.rewritten_stably`). Only a start whose year in UTC has not four digits is lost.
-/
namespace Provisioner

/-! ## What is read -/

namespace Instant

/-- What is read is a local time. -/
theorem exists_ofLocal_of_parse? {cs : List Char} {t : Instant} (read : parse? cs = some t) :
    ∃ date hour minute second nanos offset, t = ofLocal date hour minute second nanos offset := by
  unfold parse? at read
  -- one part of the text after the other: numbers, the marks between them, the fraction and the offset
  iterate 13 obtain ⟨_, _, read⟩ := Option.bind_eq_some_iff.mp read
  dsimp only at read
  split at read
  · exact ⟨_, _, _, _, _, _, (Option.some.inj read).symm⟩
  · cases read

/-- A leap second that is read ends a minute, so nothing but the time below a millisecond is lost of it. -/
theorem reread_of_parse? {cs : List Char} {t : Instant} (read : parse? cs = some t) : t.reread = t.truncated := by
  obtain ⟨date, hour, minute, second, nanos, offset, rfl⟩ := exists_ofLocal_of_parse? read
  apply reread_of_usual
  rw [isLeap_iff]
  have small := nanos.isLt
  rintro ⟨leap, odd⟩
  by_cases last : second = 60
  · simp only [ofLocal, last, if_true] at odd
    omega
  · simp only [ofLocal, last, if_false] at leap
    omega

end Instant

/-- A timing with its start cut to the millisecond. -/
def Timing.truncated (timing : Timing) : Timing :=
  { timing with startedAt := timing.startedAt.truncated }

/-- An operation with its start cut to the millisecond. -/
def Continuation.truncated {P I : Type} (continuation : Continuation P I) : Continuation P I :=
  { continuation with timing := continuation.timing.map Timing.truncated }

/-- A list in one string that is read, or that stands for a missing one, is a list of items. -/
theorem Field.Yields.allItems {name : String} {origin : Origin} {items : List String}
    (yields : (Field.unlessEmpty name .commaList).Yields origin items) : AllItems items := by
  rcases yields with ⟨source, read⟩ | absent
  · cases text : Shape.string.read origin source with
    | error => simp [unlessEmpty, Shape.commaList, Shape.via, text, Except.map] at read
    | ok text' =>
      simp only [unlessEmpty, Shape.commaList, Shape.via, text, Except.map, Except.ok.injEq] at read
      exact read ▸ Shape.allItems_splitItems text'
  · cases absent
    exact allItems_nil

namespace Context
variable {P I : Type} [Tagged P] {target : Target} {shape : Shape I} {raw : Fields} {continuation : Continuation P I}

/-- The start of an operation that is read was spelled in its context. -/
theorem reread_of_readTiming {timing : Timing} (read : readTiming raw = .ok (some timing)) :
    timing.reread = timing.truncated := by
  unfold readTiming at read
  split at read
  · split at read <;> cases read
  · obtain ⟨start, started, limited⟩ := bind_eq_ok.mp read
    obtain ⟨timeout, _, removed⟩ := bind_eq_ok.mp limited
    obtain ⟨deleteOnTimeout, _, ⟨⟩⟩ := bind_eq_ok.mp removed
    unfold readStart at started
    split at started
    · split at started
      · next spelled =>
        obtain rfl := Except.ok.inj started
        simp only [Timing.reread, Timing.truncated, Instant.reread_of_parse? spelled]
      · cases started
    · cases started

/-- The timing and the identifiers of an operation are what is read of them. -/
theorem parts_of_decode (decoded : decode target shape raw = .ok (some continuation)) :
    readTiming raw = .ok continuation.timing ∧ readIds shape raw = .ok continuation.ids := by
  rw [decode] at decoded
  split at decoded
  · cases decoded
  · simp only [bind_eq_ok] at decoded
    obtain ⟨_, _, _, _, _, _, _, _, _, _, _, timed, _, known, ⟨⟩⟩ := decoded
    exact ⟨timed, known⟩

/-- Where the identifiers that were read are read back as they are, the operation is, but for its start. -/
theorem reread_of_decode {reread : I → I} (decoded : decode target shape raw = .ok (some continuation))
    (kept : reread continuation.ids = continuation.ids) : continuation.reread reread = continuation.truncated := by
  obtain ⟨timed, _⟩ := parts_of_decode decoded
  have same : continuation.timing.map Timing.reread = continuation.timing.map Timing.truncated := by
    cases known : continuation.timing with
    | none => rfl
    | some timing =>
      rw [known] at timed
      rw [Option.map_some, Option.map_some, reread_of_readTiming timed]
  rw [Continuation.reread, Continuation.truncated, kept, same]

end Context

namespace Family

/-- Identifiers that were read are read back as they are. -/
theorem rereadIds_of_readIds {family : Family} {raw : Fields} {ids : family.Ids}
    (read : Context.readIds family.idsRecord.shape raw = .ok ids) : family.rereadIds ids = ids := by
  cases family with
  | cluster | streamProcessor | exportJob => rfl
  | privateEndpoint =>
    cases found : PrivateEndpointIds.record.read .document (Json.object (Context.identifiers raw)).source with
    | error => simp [Context.readIds, idsRecord, Record.shape, Shape.ofJson, found, Except.mapError] at read
    | ok ids' =>
      simp only [Context.readIds, idsRecord, Record.shape, Shape.ofJson, found, Except.mapError, Except.ok.injEq] at read
      obtain ⟨⟨project, region, service, interface, endpoints, _⟩, yields, rfl⟩ := Record.exists_yields_of_read found
      have items : AllItems endpoints := yields.2.2.2.2.1.allItems
      rw [← read]
      simp [rereadIds, PrivateEndpointIds.record, Shape.flatMap_splitItems items]

end Family

namespace Lifecycle.Keeps
variable {M P I R : Type} [Tagged P] {lifecycle : Lifecycle M P I R} {record : Record I} {reread : I → I}
  {continuation : Continuation P I} (keeps : lifecycle.Keeps record reread)
include keeps

theorem encode_eq (continuation : Continuation P I) :
    Context.encode lifecycle.target lifecycle.ids continuation = .ok (lifecycle.write record continuation) := by
  rw [keeps.ids_eq, Context.encode_eq keeps.fits]

variable [Tagged.Distinct P]

theorem decode_write_of_not_plain (odd : ¬ continuation.HasPlainStart) :
    ∃ text, Context.decode (P := P) lifecycle.target lifecycle.ids (lifecycle.write record continuation) =
      .error (.invalidStartTime text) := by
  simp only [Continuation.HasPlainStart, not_forall] at odd
  obtain ⟨timing, known, odd⟩ := odd
  exact ⟨_, keeps.decode_write_of_odd known odd⟩

/-- A context that is written is only read if the start of its operation can be spelled. -/
theorem decode_write_eq_ok {again : Continuation P I} :
    Context.decode lifecycle.target lifecycle.ids (lifecycle.write record continuation) = .ok (some again) ↔
      continuation.HasPlainStart ∧ again = continuation.reread reread := by
  by_cases plain : continuation.HasPlainStart
  · rw [keeps.decode_write plain]
    simp [plain, eq_comm]
  · obtain ⟨text, failed⟩ := keeps.decode_write_of_not_plain plain
    simp [failed, plain]

end Lifecycle.Keeps

/-- Whatever context an operation is read from, the operation is written again. What was written is read if and only if
its start, if it has one, lies in a year of four digits, and otherwise refused because of its start. What is read then is
the operation with its start cut to the millisecond, and its context is the one that was written. -/
theorem Family.rewritten_stably (settings : Settings) (operation : Operation) (family : Family) {raw : Fields}
    {continuation : Continuation family.Phase family.Ids}
    (decoded : Context.decode (family.lifecycle settings operation).target (family.lifecycle settings operation).ids raw =
      .ok (some continuation)) :
    ∃ context,
      Context.encode (family.lifecycle settings operation).target (family.lifecycle settings operation).ids continuation =
        .ok context ∧
      ((∃ again : Continuation family.Phase family.Ids, Context.decode (family.lifecycle settings operation).target
          (family.lifecycle settings operation).ids context = .ok (some again)) ↔
        ∀ timing ∈ continuation.timing, timing.startedAt.HasPlainYear) ∧
      ((¬ ∀ timing ∈ continuation.timing, timing.startedAt.HasPlainYear) → ∃ text,
        Context.decode (P := family.Phase) (family.lifecycle settings operation).target
          (family.lifecycle settings operation).ids context = .error (.invalidStartTime text)) ∧
      ∀ again, Context.decode (family.lifecycle settings operation).target (family.lifecycle settings operation).ids
          context = .ok (some again) →
        again = continuation.truncated ∧
        Context.encode (family.lifecycle settings operation).target (family.lifecycle settings operation).ids again =
          .ok context := by
  have keeps := family.keeps settings operation
  have kept : family.rereadIds continuation.ids = continuation.ids := by
    obtain ⟨_, known⟩ := Context.parts_of_decode decoded
    rw [lifecycle_ids] at known
    exact rereadIds_of_readIds known
  have same := Context.reread_of_decode decoded kept
  refine ⟨_, keeps.encode_eq continuation, ⟨?_, ?_⟩, keeps.decode_write_of_not_plain, ?_⟩
  · rintro ⟨again, read⟩
    exact (keeps.decode_write_eq_ok.mp read).1
  · intro plain
    exact ⟨_, keeps.decode_write plain⟩
  · intro again read
    obtain ⟨_, rfl⟩ := keeps.decode_write_eq_ok.mp read
    refine ⟨same, ?_⟩
    rw [keeps.encode_eq, Lifecycle.write, Context.contextOf_reread kept]

/-- The context of a private endpoint that is deleted, with its start in some spelling. -/
def spelledContext (start : String) : Fields :=
  [("family", .string "private-endpoint"), ("interfaceEndpointId", .null),
    ("networkEndpointIds", .string " vpce-1 ,, vpce-2"), ("operation", .string "delete"),
    ("operationId", .string "urn:uuid:00000000-0000-0000-0000-000000000000"), ("phase", .string "DETACHING_INTERFACES"),
    ("projectId", .string "p"), ("region", .string "r"), ("serviceId", .string "s"), ("startTime", .string start),
    ("v", .number (.integer 1))]

/-- The operation that it stands for. -/
def spelledDeletion (startedAt : Instant) : Continuation PrivateEndpointPhase PrivateEndpointIds where
  operationId := .nil
  phase := .detachingInterfaces
  ids := { projectId := "p", region := "r", serviceId := some "s", networkEndpointIds := ["vpce-1", "vpce-2"] }
  timing := some { startedAt, timeout := none, deleteOnTimeout := false }

/-- The last leap second so far, a thousandth of a millisecond before its end. -/
def lastLeapSecond : Instant :=
  ⟨17166, Fin.last 86399, ⟨1_999_999_000, by decide⟩⟩

/-- A start in a leap second at an offset is written in UTC to the millisecond, and then stays as it is. -/
theorem spelled_rewritten :
    Context.decode ⟨"private-endpoint", .delete⟩ PrivateEndpointIds.shape
      (spelledContext "2017-01-01 00:59:60.999999+01:00") = .ok (some (spelledDeletion lastLeapSecond)) ∧
    ∃ context,
      Context.encode ⟨"private-endpoint", .delete⟩ PrivateEndpointIds.shape (spelledDeletion lastLeapSecond) =
        .ok context ∧
      Context.decode ⟨"private-endpoint", .delete⟩ PrivateEndpointIds.shape context =
        .ok (some (spelledDeletion lastLeapSecond).truncated) ∧
      Context.encode ⟨"private-endpoint", .delete⟩ PrivateEndpointIds.shape (spelledDeletion lastLeapSecond).truncated =
        .ok context := by
  have read : Context.decode ⟨"private-endpoint", .delete⟩ PrivateEndpointIds.shape
      (spelledContext "2017-01-01 00:59:60.999999+01:00") = .ok (some (spelledDeletion lastLeapSecond)) := by
    have known : Context.readIds PrivateEndpointIds.shape (spelledContext "2017-01-01 00:59:60.999999+01:00") =
        .ok (spelledDeletion lastLeapSecond).ids := by
      decide +kernel
    have named : Context.readOperationId (spelledContext "2017-01-01 00:59:60.999999+01:00") = .ok .nil := by
      decide +kernel
    have timed : Context.readTiming (spelledContext "2017-01-01 00:59:60.999999+01:00") =
        .ok (spelledDeletion lastLeapSecond).timing := by
      decide +kernel
    rw [Context.decode, known, named, timed]
    rfl
  obtain ⟨context, written, readable, _, again⟩ := Family.rewritten_stably {} .delete .privateEndpoint read
  have plain : ∀ timing ∈ (spelledDeletion lastLeapSecond).timing, timing.startedAt.HasPlainYear := by
    rintro _ ⟨⟩
    decide
  obtain ⟨continuation, reread⟩ := readable.mpr plain
  obtain ⟨rfl, same⟩ := again continuation reread
  exact ⟨read, context, written, reread, same⟩

end Provisioner
