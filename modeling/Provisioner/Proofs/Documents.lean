import Provisioner.Proofs.Family
import Provisioner.Proofs.Json.Stability
import Provisioner.Proofs.Starting

/-!
# Documents that stay what they are

The types whose values are exchanged as documents (`DocumentType`), and that they all are stable: whatever a value was
read from, its own document is read as that value again.
-/
namespace Provisioner

instance : Tagged.Distinct Operation where
  ofTag?_tag operation := by cases operation <;> decide

instance : Tagged.Distinct ErrorCategory where
  ofTag?_tag category := by cases category <;> decide

instance : Tagged.Distinct StepStatus where
  ofTag?_tag status := by cases status <;> decide

/-- A type of which there are documents. Pages and responses are of any other such type. -/
inductive DocumentType where
  | any
  | label
  | timeouts
  | page (item : DocumentType)
  | hardwareSpec
  | regionConfig
  | replicationSpec
  | processArgs
  | connectionStrings
  | clusterModel
  | clusterRequest
  | remoteCluster
  | customData
  | exportStatus
  | exportJobModel
  | exportJobRequest
  | remoteExportJob
  | privateEndpointModel
  | endpointService
  | interfaceEndpoint
  | networkEndpoint
  | streamProcessorState
  | deadLetterQueue
  | streamsOptions
  | streamProcessorModel
  | streamProcessorRequest
  | remoteStreamProcessor
  | operation
  | errorCategory
  | stepStatus
  | stepResponse (model : DocumentType)
  deriving DecidableEq, Repr

namespace DocumentType

/-- The values of the type. -/
def Value : DocumentType → Type
  | any => Json
  | label => Label
  | timeouts => Timeouts
  | page item => Page item.Value
  | hardwareSpec => HardwareSpec
  | regionConfig => RegionConfig
  | replicationSpec => ReplicationSpec
  | processArgs => ProcessArgs
  | connectionStrings => ConnectionStrings
  | clusterModel => ClusterModel
  | clusterRequest => ClusterRequest
  | remoteCluster => RemoteCluster
  | customData => CustomData
  | exportStatus => ExportStatus
  | exportJobModel => ExportJobModel
  | exportJobRequest => ExportJobRequest
  | remoteExportJob => RemoteExportJob
  | privateEndpointModel => PrivateEndpointModel
  | endpointService => EndpointService
  | interfaceEndpoint => InterfaceEndpoint
  | networkEndpoint => NetworkEndpoint
  | streamProcessorState => StreamProcessorState
  | deadLetterQueue => DeadLetterQueue
  | streamsOptions => StreamsOptions
  | streamProcessorModel => StreamProcessorModel
  | streamProcessorRequest => StreamProcessorRequest
  | remoteStreamProcessor => RemoteStreamProcessor
  | operation => Operation
  | errorCategory => ErrorCategory
  | stepStatus => StepStatus
  | stepResponse model => StepResponse model.Value

/-- How its values are read and written. -/
def shape : (type : DocumentType) → Shape type.Value
  | any => Shape.any
  | label => Label.shape
  | timeouts => Timeouts.shape
  | page item => Page.shape item.shape
  | hardwareSpec => HardwareSpec.shape
  | regionConfig => RegionConfig.shape
  | replicationSpec => ReplicationSpec.shape
  | processArgs => ProcessArgs.shape
  | connectionStrings => ConnectionStrings.shape
  | clusterModel => ClusterModel.shape
  | clusterRequest => ClusterRequest.shape
  | remoteCluster => RemoteCluster.shape
  | customData => CustomData.shape
  | exportStatus => ExportStatus.shape
  | exportJobModel => ExportJobModel.shape
  | exportJobRequest => ExportJobRequest.shape
  | remoteExportJob => RemoteExportJob.shape
  | privateEndpointModel => PrivateEndpointModel.shape
  | endpointService => EndpointService.shape
  | interfaceEndpoint => InterfaceEndpoint.shape
  | networkEndpoint => NetworkEndpoint.shape
  | streamProcessorState => StreamProcessorState.shape
  | deadLetterQueue => DeadLetterQueue.shape
  | streamsOptions => StreamsOptions.shape
  | streamProcessorModel => StreamProcessorModel.shape
  | streamProcessorRequest => StreamProcessorRequest.shape
  | remoteStreamProcessor => RemoteStreamProcessor.shape
  | operation => Shape.tagged Operation
  | errorCategory => ErrorCategory.shape
  | stepStatus => StepStatus.shape
  | stepResponse model => StepResponse.shape model.shape

end DocumentType

/-! ## Every record is stable -/

@[simp]
theorem Label.stable : Label.shape.Stable :=
  Record.stable (by decide) (fun _ => rfl) (by simp [record, Fieldset.Stable])

@[simp]
theorem Timeouts.stable : Timeouts.shape.Stable :=
  Record.stable (by decide) (fun _ => rfl) (by simp [record, Fieldset.Stable])

theorem Page.stable {α : Type} {item : Shape α} (stable : item.Stable) : (Page.shape item).Stable :=
  Record.stable (show ["results", "totalCount"].Nodup by decide) (fun _ => rfl)
    ⟨Field.stable_listed _ stable, Field.stable_defaulted _ Shape.stable_uint64 rfl, trivial⟩

@[simp]
theorem HardwareSpec.stable : HardwareSpec.shape.Stable :=
  Record.stable (by decide) (fun _ => rfl) (by simp [record, Fieldset.Stable])

@[simp]
theorem RegionConfig.stable : RegionConfig.shape.Stable :=
  Record.stable (by decide) (fun _ => rfl) (by simp [record, Fieldset.Stable])

@[simp]
theorem ReplicationSpec.stable : ReplicationSpec.shape.Stable :=
  Record.stable (by decide) (fun _ => rfl) (by simp [record, Fieldset.Stable])

@[simp]
theorem ProcessArgs.stable : ProcessArgs.shape.Stable :=
  Record.stable (by decide) (fun _ => rfl) (by simp [record, Fieldset.Stable])

@[simp]
theorem ConnectionStrings.stable : ConnectionStrings.shape.Stable :=
  Record.stable (by decide) (fun _ => rfl) (by simp [record, Fieldset.Stable])

theorem ClusterModel.stable : ClusterModel.shape.Stable :=
  Record.stable (by decide) (fun _ => rfl) (by simp [record, Fieldset.Stable])

theorem ClusterRequest.stable : ClusterRequest.shape.Stable :=
  Record.stable (by decide) (fun _ => rfl) (by simp [record, Fieldset.Stable])

theorem RemoteCluster.stable : RemoteCluster.shape.Stable :=
  Record.stable (by decide) (fun _ => rfl) (by simp [record, Fieldset.Stable])

@[simp]
theorem CustomData.stable : CustomData.shape.Stable :=
  Record.stable (by decide) (fun _ => rfl) (by simp [record, Fieldset.Stable])

@[simp]
theorem ExportStatus.stable : ExportStatus.shape.Stable :=
  Record.stable (by decide) (fun _ => rfl) (by simp [record, Fieldset.Stable])

theorem ExportJobModel.stable : ExportJobModel.shape.Stable :=
  Record.stable (by decide) (fun _ => rfl) (by simp [record, Fieldset.Stable])

theorem ExportJobRequest.stable : ExportJobRequest.shape.Stable :=
  Record.stable (by decide) (fun _ => rfl) (by simp [record, Fieldset.Stable])

theorem RemoteExportJob.stable : RemoteExportJob.shape.Stable :=
  Record.stable (by decide) (fun _ => rfl) (by simp [record, Fieldset.Stable])

theorem PrivateEndpointModel.stable : PrivateEndpointModel.shape.Stable :=
  Record.stable (by decide) (fun _ => rfl)
    ⟨Field.stable_aliased (Field.stable_nullable _ Shape.stable_string) _, by simp [Fieldset.Stable]⟩

theorem EndpointService.stable : EndpointService.shape.Stable :=
  Record.stable (by decide) (fun _ => rfl) (by simp [record, Fieldset.Stable])

theorem InterfaceEndpoint.stable : InterfaceEndpoint.shape.Stable :=
  Record.stable (by decide) (fun _ => rfl) (by simp [record, Fieldset.Stable])

theorem NetworkEndpoint.stable : NetworkEndpoint.shape.Stable :=
  Record.stable (by decide) (fun _ => rfl) (by simp [record, Fieldset.Stable])

@[simp]
theorem DeadLetterQueue.stable : DeadLetterQueue.shape.Stable :=
  Record.stable (by decide) (fun _ => rfl) (by simp [record, Fieldset.Stable])

@[simp]
theorem StreamsOptions.stable : StreamsOptions.shape.Stable :=
  Record.stable (by decide) (fun _ => rfl) (by simp [record, Fieldset.Stable])

theorem StreamProcessorModel.stable : StreamProcessorModel.shape.Stable :=
  Record.stable (by decide) (fun _ => rfl) (by simp [record, Fieldset.Stable])

theorem StreamProcessorRequest.stable : StreamProcessorRequest.shape.Stable :=
  Record.stable (by decide) (fun _ => rfl) (by simp [record, Fieldset.Stable])

theorem RemoteStreamProcessor.stable : RemoteStreamProcessor.shape.Stable :=
  Record.stable (by decide) (fun _ => rfl) (by simp [record, Fieldset.Stable])

theorem StepResponse.stable {α : Type} {model : Shape α} (stable : model.Stable) :
    (StepResponse.shape model).Stable := by
  have different : ["status", "model", "message", "retryDelaySeconds", "continuationContext", "errorCategory",
    "retryable"].Nodup := by decide
  exact Record.stable different (fun _ => rfl)
    (by simp [record, Fieldset.Stable, StepStatus.shape, ErrorCategory.shape, stable])

/-! ## Every type is stable -/

namespace DocumentType

theorem stable_shape (type : DocumentType) : type.shape.Stable := by
  induction type with
  | any => exact Shape.stable_any
  | label => exact Label.stable
  | timeouts => exact Timeouts.stable
  | page item stable => exact Page.stable stable
  | hardwareSpec => exact HardwareSpec.stable
  | regionConfig => exact RegionConfig.stable
  | replicationSpec => exact ReplicationSpec.stable
  | processArgs => exact ProcessArgs.stable
  | connectionStrings => exact ConnectionStrings.stable
  | clusterModel => exact ClusterModel.stable
  | clusterRequest => exact ClusterRequest.stable
  | remoteCluster => exact RemoteCluster.stable
  | customData => exact CustomData.stable
  | exportStatus => exact ExportStatus.stable
  | exportJobModel => exact ExportJobModel.stable
  | exportJobRequest => exact ExportJobRequest.stable
  | remoteExportJob => exact RemoteExportJob.stable
  | privateEndpointModel => exact PrivateEndpointModel.stable
  | endpointService => exact EndpointService.stable
  | interfaceEndpoint => exact InterfaceEndpoint.stable
  | networkEndpoint => exact NetworkEndpoint.stable
  | streamProcessorState => exact @Shape.stable_tagged StreamProcessorState _ _
  | deadLetterQueue => exact DeadLetterQueue.stable
  | streamsOptions => exact StreamsOptions.stable
  | streamProcessorModel => exact StreamProcessorModel.stable
  | streamProcessorRequest => exact StreamProcessorRequest.stable
  | remoteStreamProcessor => exact RemoteStreamProcessor.stable
  | operation => exact @Shape.stable_tagged Operation _ _
  | errorCategory => exact @Shape.stable_tagged ErrorCategory _ _
  | stepStatus => exact @Shape.stable_tagged StepStatus _ _
  | stepResponse model stable => exact StepResponse.stable stable

/-- A value that was read, from a document or from a text, is read from its own document again, and its document stays
the same. The way back begins at the document, not at a text that it is written as: a double in a field of any form may
be read from a text as another one. -/
theorem document_reread (type : DocumentType) (value : type.Value)
    (read : (∃ document, type.shape.ofJson document = .ok value) ∨ ∃ text, type.shape.ofText text = .ok value) :
    type.shape.ofJson (type.shape.toJson value) = .ok value ∧
      (type.shape.ofJson (type.shape.toJson value)).map type.shape.toJson = .ok (type.shape.toJson value) := by
  have back : type.shape.ofJson (type.shape.toJson value) = .ok value := by
    rcases read with ⟨document, read⟩ | ⟨text, read⟩
    · exact type.stable_shape.back read
    · obtain ⟨found, read, ended⟩ := bind_eq_ok.mp read
      split at ended
      · cases ended
      · cases ended
        exact type.stable_shape.back read
  exact ⟨back, congrArg (Except.map type.shape.toJson) back⟩

/-- A list in place of a page, of a model with another name of the project and a field that no model has. -/
theorem page_reread :
    let endpoints := page privateEndpointModel
    let document := Json.array [.array [.object [("groupId", .string "p1"), ("zone", .array []), ("id", .null)]]]
    let read : Page PrivateEndpointModel := { results := [{ projectId := some "p1" }], totalCount := 0 }
    endpoints.shape.ofJson document = .ok read ∧
      endpoints.shape.ofJson (endpoints.shape.toJson read) = .ok read ∧
      (endpoints.shape.ofJson (endpoints.shape.toJson read)).map endpoints.shape.toJson =
        .ok (endpoints.shape.toJson read) := by
  intro endpoints document read
  have found : endpoints.shape.ofJson document = .ok read := rfl
  exact ⟨found, document_reread endpoints read (.inl ⟨document, found⟩)⟩

end DocumentType

end Provisioner
