import Provisioner.Proofs.Family

/-!
# Operations read back

Writing the context of an operation never fails, and reading it gives the operation back (`Family.decode_encode`):
`Family.IsReadBack` says how much of it. Two things can be lost: what is finer than a millisecond of its start, and in
the list of network endpoints whatever is no item (`AllItems`).
-/
namespace Provisioner

/-- A timing is another one with its start cut to the millisecond. -/
structure Timing.IsCutOf (cut timing : Timing) : Prop where
  startedAt : cut.startedAt.IsCutOf timing.startedAt
  timeout : cut.timeout = timing.timeout
  deleteOnTimeout : cut.deleteOnTimeout = timing.deleteOnTimeout

theorem Timing.isCutOf_reread (timing : Timing) : timing.reread.IsCutOf timing where
  startedAt := timing.startedAt.isCutOf_reread
  timeout := rfl
  deleteOnTimeout := rfl

theorem Timing.isCutOf_map_reread (timing : Option Timing) :
    Option.Rel IsCutOf (timing.map reread) timing := by
  cases timing with
  | none => exact .none
  | some timing => exact .some timing.isCutOf_reread

namespace Family

/-- The list among the identifiers of a family that is kept in one string; only private endpoints have one. -/
def listed : (family : Family) → family.Ids → List String
  | cluster, _ | streamProcessor, _ | exportJob, _ => []
  | privateEndpoint, ids => ids.networkEndpointIds

/-- The identifiers with another list, where there is one. -/
def relist : (family : Family) → family.Ids → List String → family.Ids
  | cluster, ids, _ | streamProcessor, ids, _ | exportJob, ids, _ => ids
  | privateEndpoint, ids, list => { ids with networkEndpointIds := list }

theorem rereadIds_eq_relist (family : Family) (ids : family.Ids) :
    family.rereadIds ids = family.relist ids (family.listed (family.rereadIds ids)) := by
  cases family <;> rfl

theorem listed_rereadIds (family : Family) (ids : family.Ids) :
    family.listed (family.rereadIds ids) = (family.listed ids).flatMap Shape.splitItems := by
  cases family <;> rfl

/-- What may be read back of an operation: all of it but what is finer than a millisecond of its start and, in a list,
what is no item. -/
structure IsReadBack (family : Family) (again continuation : Continuation family.Phase family.Ids) : Prop where
  operationId : again.operationId = continuation.operationId
  phase : again.phase = continuation.phase
  timing : Option.Rel Timing.IsCutOf again.timing continuation.timing
  others : again.ids = family.relist continuation.ids (family.listed again.ids)
  list : family.listed again.ids = family.listed continuation.ids ↔ AllItems (family.listed continuation.ids)

theorem isReadBack_reread (family : Family) (continuation : Continuation family.Phase family.Ids) :
    family.IsReadBack (continuation.reread family.rereadIds) continuation where
  operationId := rfl
  phase := rfl
  timing := Timing.isCutOf_map_reread continuation.timing
  others := family.rereadIds_eq_relist continuation.ids
  list := by
    rw [Continuation.reread, listed_rereadIds]
    exact Shape.flatMap_splitItems_eq_self_iff

/-- An operation that began in a year of four digits is always written, and what was written is read back. -/
theorem decode_encode (settings : Settings) (operation : Operation) (family : Family)
    (continuation : Continuation family.Phase family.Ids) (plain : continuation.HasPlainStart) :
    ∃ context again,
      Context.encode (family.lifecycle settings operation).target (family.lifecycle settings operation).ids
        continuation = .ok context ∧
      Context.decode (family.lifecycle settings operation).target (family.lifecycle settings operation).ids context =
        .ok (some again) ∧
      family.IsReadBack again continuation := by
  have keeps := keeps settings operation family
  refine ⟨_, _, ?_, keeps.decode_write plain, family.isReadBack_reread continuation⟩
  rw [keeps.ids_eq]
  exact Context.encode_eq keeps.fits _ continuation

/-- An operation that began in a leap second, with a network endpoint whose id has blanks around it. -/
def blurred : Continuation PrivateEndpointPhase PrivateEndpointIds where
  operationId := .nil
  phase := .detachingInterfaces
  ids := { projectId := "p1", region := "eu-west-1", networkEndpointIds := ["vpce-1", " vpce-2 "] }
  timing := some
    { startedAt := ⟨17166, ⟨86399, by decide⟩, ⟨1_999_999_999, by decide⟩⟩
      timeout := some "20m"
      deleteOnTimeout := true }

/-- It is read back, but not with that id. -/
theorem blurred_read_back :
    blurred.HasPlainStart ∧ ∃ context again,
      Context.encode ⟨"private-endpoint", .delete⟩ PrivateEndpointIds.shape blurred = .ok context ∧
      Context.decode ⟨"private-endpoint", .delete⟩ PrivateEndpointIds.shape context = .ok (some again) ∧
      privateEndpoint.IsReadBack again blurred ∧ again.ids.networkEndpointIds ≠ ["vpce-1", " vpce-2 "] := by
  have plain : blurred.HasPlainStart := by
    rintro timing ⟨⟩
    decide
  obtain ⟨context, again, written, read, same⟩ := decode_encode {} .delete .privateEndpoint blurred plain
  refine ⟨plain, context, again, written, read, same, ?_⟩
  have odd : ¬ AllItems ["vpce-1", " vpce-2 "] := by decide
  exact fun kept => odd (same.list.mp kept)

end Family
end Provisioner
