import Provisioner.Registry
import Provisioner.Proofs.Calls
import Provisioner.Proofs.Run
import Provisioner.Proofs.Text.Items

/-!
# The four families at once

Every family has types of its own and a lifecycle for each operation (`Family.lifecycle`), the one that the registry
uses (`stepFamily_eq`). The identifiers of every family fit into a context (`Family.fits`), and looking at a resource
changes nothing (`Family.looks`).
-/
namespace Provisioner

/-- Looking at a resource only reads. -/
structure Lifecycle.Looks {M P I R : Type} (lifecycle : Lifecycle M P I R) : Prop where
  inspect (model : M) : (lifecycle.inspect model).Always fun trace _ => Reads trace
  observe (phase : P) (ids : I) : (lifecycle.observe phase ids).Always fun trace _ => Reads trace

namespace Family

/-- The models of a family. -/
abbrev Model : Family → Type
  | cluster => ClusterModel
  | streamProcessor => StreamProcessorModel
  | privateEndpoint => PrivateEndpointModel
  | exportJob => ExportJobModel

/-- The phases of a family. -/
abbrev Phase : Family → Type
  | cluster => ClusterPhase
  | streamProcessor => StreamProcessorPhase
  | privateEndpoint => PrivateEndpointPhase
  | exportJob => ExportJobPhase

/-- The identifiers of a family. -/
abbrev Ids : Family → Type
  | cluster => ClusterIds
  | streamProcessor => StreamProcessorIds
  | privateEndpoint => PrivateEndpointIds
  | exportJob => ExportJobIds

/-- What is observed of a resource of a family. -/
abbrev Remote : Family → Type
  | cluster => RemoteCluster
  | streamProcessor => RemoteStreamProcessor
  | privateEndpoint => EndpointObservation
  | exportJob => RemoteExportJob

instance (family : Family) : Tagged family.Phase :=
  match family with
  | cluster => inferInstanceAs (Tagged ClusterPhase)
  | streamProcessor => inferInstanceAs (Tagged StreamProcessorPhase)
  | privateEndpoint => inferInstanceAs (Tagged PrivateEndpointPhase)
  | exportJob => inferInstanceAs (Tagged ExportJobPhase)

/-- How the identifiers of a family are read and written. -/
def idsRecord : (family : Family) → Record family.Ids
  | cluster => ClusterIds.record
  | streamProcessor => StreamProcessorIds.record
  | privateEndpoint => PrivateEndpointIds.record
  | exportJob => ExportJobIds.record

/-- How models of a family are read and written. -/
def modelShape : (family : Family) → Shape family.Model
  | cluster => ClusterModel.shape
  | streamProcessor => StreamProcessorModel.shape
  | privateEndpoint => PrivateEndpointModel.shape
  | exportJob => ExportJobModel.shape

/-- How an operation on a family goes. -/
def lifecycle (settings : Settings) (operation : Operation) :
    (family : Family) → Lifecycle family.Model family.Phase family.Ids family.Remote
  | cluster => clusterLifecycle settings.reservedLabel operation
  | streamProcessor => streamProcessorLifecycle settings.createTimeout operation
  | privateEndpoint => privateEndpointLifecycle operation
  | exportJob => exportJobLifecycle settings.completionState operation

/-- The registry steps these lifecycles. -/
theorem stepFamily_eq (settings : Settings) (family : Family) (operation : Operation) (fresh : OperationId)
    (context : Fields) (model : Json) (now : Instant) :
    Registry.stepFamily settings family operation fresh context model now =
      (family.lifecycle settings operation).stepOn family.modelShape (settings.step family) fresh context model now := by
  cases family <;> rfl

variable (settings : Settings) (operation : Operation) (family : Family)

theorem lifecycle_ids : (family.lifecycle settings operation).ids = family.idsRecord.shape := by
  cases family <;> rfl

/-! ## Phases have different tags -/

instance : Tagged.Distinct ClusterPhase where
  ofTag?_tag phase := by cases phase <;> decide

instance : Tagged.Distinct StreamProcessorPhase where
  ofTag?_tag phase := by cases phase <;> decide

instance : Tagged.Distinct PrivateEndpointPhase where
  ofTag?_tag phase := by cases phase <;> decide

instance : Tagged.Distinct ExportJobPhase where
  ofTag?_tag phase := by cases phase <;> decide

instance (family : Family) : Tagged.Distinct family.Phase :=
  match family with
  | cluster => inferInstanceAs (Tagged.Distinct ClusterPhase)
  | streamProcessor => inferInstanceAs (Tagged.Distinct StreamProcessorPhase)
  | privateEndpoint => inferInstanceAs (Tagged.Distinct PrivateEndpointPhase)
  | exportJob => inferInstanceAs (Tagged.Distinct ExportJobPhase)

/-! ## Identifiers fit into contexts -/

/-- The identifiers that are read back: a list of network endpoints is read item by item. -/
def rereadIds : (family : Family) → family.Ids → family.Ids
  | cluster, ids => ids
  | streamProcessor, ids => ids
  | privateEndpoint, ids => { ids with networkEndpointIds := ids.networkEndpointIds.flatMap Shape.splitItems }
  | exportJob, ids => ids

theorem cluster_fits : ClusterIds.record.Fits (rereadIds .cluster) where
  different := by decide
  free := by decide
  plain := by
    rintro ⟨projectId, clusterName, _ | targetPaused⟩ <;>
      simp [ClusterIds.record, Fieldset.write, Field.required, Field.optional, Shape.string, Shape.bool, Shape.option,
        Json.IsPlain, Json.isPrimitive, Json.isNull]
  rereads := by
    rintro ⟨projectId, clusterName, targetPaused⟩
    refine ⟨Field.rereads_of_written rfl rfl, Field.rereads_of_written rfl rfl, ?_, trivial⟩
    cases targetPaused with
    | none => exact Field.rereads_of_omitted rfl rfl
    | some => exact Field.rereads_of_written rfl rfl
  back ids := rfl

theorem streamProcessor_fits : StreamProcessorIds.record.Fits (rereadIds .streamProcessor) where
  different := by decide
  free := by decide
  plain := by
    rintro ⟨projectId, workspaceName, processorName, needsStarting⟩
    simp [StreamProcessorIds.record, Fieldset.write, Field.required, Shape.string, Shape.bool, Json.IsPlain,
      Json.isPrimitive, Json.isNull]
  rereads ids :=
    ⟨Field.rereads_of_written rfl rfl, Field.rereads_of_written rfl rfl, Field.rereads_of_written rfl rfl,
      Field.rereads_of_written rfl rfl, trivial⟩
  back ids := rfl

theorem privateEndpoint_fits : PrivateEndpointIds.record.Fits (rereadIds .privateEndpoint) where
  different := by decide
  free := by decide
  plain := by
    rintro ⟨projectId, region, _ | serviceId, _ | interfaceEndpointId, _ | ⟨endpointId, endpointIds⟩⟩ <;>
      simp [PrivateEndpointIds.record, Fieldset.write, Field.required, Field.optional, Field.unlessEmpty, Shape.string,
        Shape.option, Shape.commaList, Shape.via, Json.IsPlain, Json.isPrimitive, Json.isNull]
  rereads := by
    rintro ⟨projectId, region, serviceId, interfaceEndpointId, networkEndpointIds⟩
    refine ⟨Field.rereads_of_written rfl rfl, Field.rereads_of_written rfl rfl, ?_, ?_, ?_, trivial⟩
    · cases serviceId with
      | none => exact Field.rereads_of_omitted rfl rfl
      | some => exact Field.rereads_of_written rfl rfl
    · cases interfaceEndpointId with
      | none => exact Field.rereads_of_omitted rfl rfl
      | some => exact Field.rereads_of_written rfl rfl
    · cases networkEndpointIds with
      | nil => exact Field.rereads_of_omitted rfl rfl
      | cons => exact Field.rereads_of_written rfl (congrArg Except.ok (Shape.splitItems_intercalate _))
  back ids := rfl

theorem exportJob_fits : ExportJobIds.record.Fits (rereadIds .exportJob) where
  different := by decide
  free := by decide
  plain := by
    rintro ⟨projectId, clusterName, exportId⟩
    simp [ExportJobIds.record, Fieldset.write, Field.required, Shape.string, Json.IsPlain, Json.isPrimitive, Json.isNull]
  rereads ids :=
    ⟨Field.rereads_of_written rfl rfl, Field.rereads_of_written rfl rfl, Field.rereads_of_written rfl rfl, trivial⟩
  back ids := rfl

/-- The identifiers of every family fit into a context. -/
theorem fits : (family : Family) → family.idsRecord.Fits family.rereadIds
  | cluster => cluster_fits
  | streamProcessor => streamProcessor_fits
  | privateEndpoint => privateEndpoint_fits
  | exportJob => exportJob_fits

theorem keeps (settings : Settings) (operation : Operation) (family : Family) :
    (family.lifecycle settings operation).Keeps family.idsRecord family.rereadIds :=
  ⟨lifecycle_ids settings operation family, family.fits⟩

/-! ## Looking changes nothing -/

theorem looks (settings : Settings) (operation : Operation) :
    (family : Family) → (family.lifecycle settings operation).Looks
  | cluster =>
    { inspect model := by simp [lifecycle, clusterLifecycle, ClusterLifecycle.look]
      observe phase ids := by simp [lifecycle, clusterLifecycle, ClusterLifecycle.look, Observation.ofAnswer] }
  | streamProcessor =>
    { inspect model := by simp [lifecycle, streamProcessorLifecycle, StreamProcessorLifecycle.look]
      observe phase ids := by
        simp [lifecycle, streamProcessorLifecycle, StreamProcessorLifecycle.look, Observation.ofAnswer] }
  | privateEndpoint =>
    { inspect model := by simp [lifecycle, privateEndpointLifecycle, PrivateEndpointLifecycle.look]
      observe phase ids := by
        cases phase <;>
          simp [lifecycle, privateEndpointLifecycle, PrivateEndpointLifecycle.observe, PrivateEndpointLifecycle.look] }
  | exportJob =>
    { inspect model := by simp [lifecycle, exportJobLifecycle, ExportJobLifecycle.look]
      observe phase ids := by simp [lifecycle, exportJobLifecycle, ExportJobLifecycle.look, Observation.ofAnswer] }

end Family
end Provisioner
