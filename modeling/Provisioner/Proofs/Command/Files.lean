import Provisioner.Proofs.Json.Text
import Provisioner.Proofs.Refusals

/-!
# Contexts in files

A context that a step returns is a flat map of strings, flags and its version, so it is read back unchanged from the
text it is written to (`Registry.ofText_returned`), whatever characters its strings are made of.
-/
namespace Provisioner
open Json (IsScalar)

theorem Context.isScalar_of_mem_reservedList {P I : Type} [Tagged P] {target : Target} {continuation : Continuation P I}
    {field : String × Json} (member : field ∈ reservedList target continuation) : field.2.IsScalar := by
  have values : ∀ value ∈ (reservedList target continuation).map (·.2), value.IsScalar := by
    have versioned : (Json.ofNat version).IsScalar := .ofNat version (by decide)
    rcases continuation with ⟨_, _, _, _ | ⟨_, _ | _, _⟩⟩ <;>
      simp [reservedList, timingFields, versioned, IsScalar.string, IsScalar.bool]
  exact values _ (List.mem_map_of_mem member)

namespace Family

/-- The identifiers of every family are strings and flags. -/
theorem isScalar_of_mem_write (family : Family) (ids : family.Ids) :
    ∀ field ∈ family.idsRecord.fields.write (family.idsRecord.toRow ids), field.2.IsScalar := by
  cases family with
  | cluster =>
    obtain ⟨projectId, clusterName, _ | targetPaused⟩ := ids <;>
      simp [idsRecord, ClusterIds.record, Fieldset.write, Field.required, Field.optional, Shape.string, Shape.bool,
        Shape.option, IsScalar.string, IsScalar.bool]
  | streamProcessor =>
    simp [idsRecord, StreamProcessorIds.record, Fieldset.write, Field.required, Shape.string, Shape.bool,
      IsScalar.string, IsScalar.bool]
  | privateEndpoint =>
    obtain ⟨projectId, region, _ | serviceId, _ | interfaceEndpointId, _ | ⟨endpointId, endpointIds⟩⟩ := ids <;>
      simp [idsRecord, PrivateEndpointIds.record, Fieldset.write, Field.required, Field.optional, Field.unlessEmpty,
        Shape.string, Shape.option, Shape.commaList, Shape.via, IsScalar.string]
  | exportJob =>
    simp [idsRecord, ExportJobIds.record, Fieldset.write, Field.required, Shape.string, IsScalar.string]

end Family

namespace Registry
variable {settings : Settings} {operation : Operation} {fresh : OperationId} {context : Fields} {document : Json}
  {now : Instant} {trace : Trace Gateway}

/-- A context that a step returns is read back from its text. -/
theorem ofText_returned {tag : String} {response : StepResponse Json} {returned : Fields}
    (ends : (step settings tag operation fresh context document now).Ends trace (.ok response))
    (returns : response.continuationContext = some returned) :
    Json.ofText (Json.object returned).text = .ok (.object returned) := by
  obtain ⟨family, continuation, _, rfl⟩ := exists_returned ends returns
  refine Json.ofText_text (Context.isMap_contextOf _ _) fun field member => ?_
  have fields := Context.contextOf_perm family.fits ⟨family.tag, operation⟩ continuation
  rcases List.mem_append.mp (fields.mem_iff.mp member) with reserved | free
  · exact Context.isScalar_of_mem_reservedList reserved
  · exact family.isScalar_of_mem_write continuation.ids field free

/-- Every response is that for an outcome. -/
theorem exists_outcome {tag : String} {response : StepResponse Json}
    (ends : (step settings tag operation fresh context document now).Ends trace (.ok response)) :
    ∃ outcome, response = .ofOutcome outcome := by
  unfold step at ends
  cases found : findFamily tag with
  | error error =>
    rw [found] at ends
    obtain ⟨_, ⟨⟩⟩ := Program.ends_done.mp ends
    exact ⟨_, rfl⟩
  | ok family =>
    rw [found] at ends
    rcases Program.ends_bind.mp ends with ⟨error, _, _⟩ | ⟨outcome, _, _, _, responded, _⟩
    · exact error.elim
    · obtain ⟨_, ⟨⟩⟩ := Program.ends_done.mp responded
      exact ⟨outcome, rfl⟩

/-- A response that asks for another step returns the context for it. -/
theorem exists_returned_of_inProgress {tag : String} {response : StepResponse Json}
    (ends : (step settings tag operation fresh context document now).Ends trace (.ok response))
    (waits : response.status = .inProgress) : ∃ returned, response.continuationContext = some returned := by
  obtain ⟨outcome, rfl⟩ := exists_outcome ends
  cases outcome with
  | inProgress returned => exact ⟨returned, rfl⟩
  | success | failed => cases waits

end Registry
end Provisioner
