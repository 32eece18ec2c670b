import Provisioner.Proofs.Account
import Provisioner.Proofs.Json.Maps
import Provisioner.Proofs.Json.Records
import Provisioner.Proofs.Refusals
import Mathlib.Data.List.ReduceOption

/-!
# Reading and listing

The same resource is shown by a read and in a list. A list makes a whole model of what is found; a read puts it onto the
model that it was given, and leaves that as it is under the keys that only a caller sets (`Family.unread`). A read with a
model that says nothing but which resource is meant shows the same under all other keys (`Registry.read_agrees_with_list`).
-/
namespace Provisioner

/-! ## Documents without some keys -/

/-- A document without some of its keys. -/
def Json.without (keys : List String) : Json → Json
  | .object fields => .object (fields.filter fun field => !keys.contains field.1)
  | value => value

@[simp] theorem Json.without_nil (document : Json) : document.without [] = document := by
  cases document <;> simp [without]

/-- The rows agree on all fields but those with some names. -/
def Fieldset.AgreeBut (keys : List String) : {ρ σ : Type} → Fieldset ρ σ → ρ → ρ → Prop
  | _, _, .none, _, _ => True
  | _, _, .cons field rest, (value, values), (other, others) =>
    (keys.contains field.name = false → value = other) ∧ rest.AgreeBut keys values others

theorem Fieldset.filter_write {ρ σ : Type} {keys : List String} {fields : Fieldset ρ σ} {row other : ρ}
    (agree : fields.AgreeBut keys row other) :
    (fields.write row).filter (fun field => !keys.contains field.1) =
      (fields.write other).filter fun field => !keys.contains field.1 := by
  induction fields with
  | none => rfl
  | cons field rest ih =>
    obtain ⟨value, values⟩ := row
    obtain ⟨value', values'⟩ := other
    obtain ⟨same, agree⟩ := agree
    cases left : keys.contains field.name with
    | false =>
      obtain rfl := same left
      simp only [write]
      split
      · exact ih agree
      · simp only [List.filter_cons, left, Bool.not_false, if_true, ih agree]
    | true =>
      -- the field is left out, whatever it holds
      have dropped (value : _) (values : _) : (write (.cons field rest) (value, values)).filter
          (fun field => !keys.contains field.1) = (rest.write values).filter fun field => !keys.contains field.1 := by
        rw [write]
        split
        · rfl
        · simp only [List.filter_cons, left, Bool.not_true, Bool.false_eq_true, if_false]
      rw [dropped, dropped, ih agree]

/-- Values that agree but for some fields have documents that agree but for their keys. -/
theorem Record.without_toJson {α : Type} {record : Record α} {keys : List String} {value other : α}
    (agree : record.fields.AgreeBut keys (record.toRow value) (record.toRow other)) :
    (record.shape.toJson value).without keys = (record.shape.toJson other).without keys := by
  have whole (value : α) : (record.shape.toJson value).without keys = .object (Fields.toMap (Json.fieldsToMaps
      ((record.fields.write (record.toRow value)).filter fun field => !keys.contains field.1))) := by
    rw [Shape.toJson, Record.shape, Json.toMaps, Json.without, Json.fieldsToMaps_eq_map, Json.fieldsToMaps_eq_map,
      Fields.filter_toMap (fun key => !keys.contains key), List.filter_map]
    rfl
  rw [whole, whole, Fieldset.filter_write agree]

/-! ## What a read and a list show -/

/-- The keys under which a cluster reports what only a caller sets, where it does. -/
def RemoteCluster.choices (remote : RemoteCluster) : List (Option String) :=
  [remote.clusterType.map fun _ => "clusterType",
    remote.majorVersion.map fun _ => "mongoDBMajorVersion",
    remote.replicationSpecs.map fun _ => "replicationSpecs",
    remote.backupEnabled.map fun _ => "backupEnabled",
    remote.terminationProtectionEnabled.map fun _ => "terminationProtectionEnabled"]

/-- A cluster has nothing where it does not report a choice. -/
theorem RemoteCluster.none_eq_of_choice (remote : RemoteCluster) {α : Type} {value : Option α} {key : String}
    (choice : (value.map fun _ => key) ∈ remote.choices) (unreported : key ∉ remote.choices.reduceOption) :
    none = value := by
  cases value with
  | none => rfl
  | some => exact (unreported (List.reduceOption_mem_iff.mpr choice)).elim

/-- A program that makes one call goes on with the answer to it. The type of an answer depends on the call, so the answer
that was noted is the same only once the calls are. -/
theorem Program.ends_call_singleton {ι : Interface} {ε α : Type} {c : ι.Call} {next : ι.Answer c → Program ι ε α}
    {answered : Answered ι} {result : Except ε α} (ends : (call c next).Ends [answered] result) :
    ∃ answer, answered.call = c ∧ HEq answered.answer answer ∧ (next answer).Ends [] result := by
  obtain ⟨answer, rest, same, later⟩ := ends_call.mp ends
  rw [List.cons.injEq] at same
  obtain ⟨rfl, rfl⟩ := same
  exact ⟨answer, rfl, .rfl, later⟩

namespace Family

/-- What a read of one resource finds, and a list many of. -/
abbrev Object : Family → Type
  | cluster => RemoteCluster
  | streamProcessor => RemoteStreamProcessor
  | privateEndpoint => EndpointService
  | exportJob => RemoteExportJob

/-- Where the resources lie that are listed together: a project, or a workspace or a cluster of one. -/
abbrev Parent : Family → Type
  | cluster => String
  | streamProcessor => String × String
  | privateEndpoint => String
  | exportJob => String × String

/-- The call that reads a resource, answered with it. -/
def answeredRead : (family : Family) → family.Parent → family.Object → Answered Gateway
  | cluster, project, remote => ⟨.control (.getCluster project remote.name), .ok remote⟩
  | streamProcessor, (project, workspace), remote =>
    ⟨.control (.getProcessor project workspace remote.name), .ok remote⟩
  | privateEndpoint, project, service => ⟨.control (.getService project service.id), .ok service⟩
  | exportJob, (project, clusterName), job => ⟨.control (.getExport project clusterName job.id), .ok job⟩

/-- The call that lists the resources that lie together, answered with them. -/
def answeredList : (family : Family) → family.Parent → List family.Object → Answered Gateway
  | cluster, project, remotes => ⟨.control (.listClusters project), .ok remotes⟩
  | streamProcessor, (project, workspace), remotes => ⟨.control (.listProcessors project workspace), .ok remotes⟩
  | privateEndpoint, project, services => ⟨.control (.listServices project), .ok services⟩
  | exportJob, (project, clusterName), jobs => ⟨.control (.listExports project clusterName), .ok jobs⟩

/-- The model says which resource is meant and nothing else. The workspace may have either of its names. -/
def Identifies : (family : Family) → family.Parent → family.Object → family.Model → Prop
  | cluster, project, remote, model => model = { projectId := some project, name := some remote.name }
  | streamProcessor, (project, workspace), remote, model => model.workspace = some workspace ∧
    ∃ workspaceName instanceName,
      model = { projectId := some project, workspaceName, instanceName, processorName := some remote.name }
  | privateEndpoint, project, service, model => model = { projectId := some project, id := some service.id }
  | exportJob, (project, clusterName), job, model =>
    model = { projectId := some project, clusterName := some clusterName, exportId := some job.id }

/-- The keys under which a list shows what is found, and a read what it was given. -/
def unread : (family : Family) → family.Object → List String
  | cluster, remote => remote.choices.reduceOption
  | streamProcessor, _ => ["pipeline"]
  | privateEndpoint, _ => []
  | exportJob, _ => []

/-- The model with what is found. -/
def merged (settings : Settings) : (family : Family) → family.Model → family.Object → family.Model
  | cluster, model, remote => model.merge settings.reservedLabel remote
  | streamProcessor, model, remote => model.merge remote
  | privateEndpoint, model, service => model.merge service
  | exportJob, model, job => model.merge job

/-- The model that what is found amounts to. -/
def entry (settings : Settings) : (family : Family) → family.Parent → family.Object → family.Model
  | cluster, project, remote => .ofRemote settings.reservedLabel project remote
  | streamProcessor, (project, workspace), remote => .ofRemote project workspace remote
  | privateEndpoint, project, service => .ofService project service
  | exportJob, (project, clusterName), job => .ofRemote project clusterName job

/-- The model of an existing resource. -/
def read (settings : Settings) : (family : Family) → family.Model → Action family.Model
  | cluster => ClusterLifecycle.read settings.reservedLabel
  | streamProcessor => StreamProcessorLifecycle.read
  | privateEndpoint => PrivateEndpointLifecycle.read
  | exportJob => ExportJobLifecycle.read

variable {settings : Settings} {family : Family} {parent : family.Parent} {object : family.Object}
  {objects : List family.Object} {model : family.Model}

theorem registry_read_eq (settings : Settings) (family : Family) (document : Json) :
    Registry.read settings family.tag document = (do
      let model ← parseModel family.modelShape document
      return family.modelShape.toJson (← family.read settings model)) := by
  rw [Registry.read, Registry.findFamily_tag]
  cases family <;> rfl

/-- A read puts what it finds onto the model that it was given. -/
theorem ends_read {shown : Except ProvisionError family.Model}
    (ends : (family.read settings model).Ends [family.answeredRead parent object] shown) :
    shown = .ok (family.merged settings model object) := by
  cases family with
  | cluster | streamProcessor | exportJob =>
    rcases failsSilently_or_lift ends with ⟨⟨⟩, _⟩ | ⟨ids, _, ends⟩
    obtain ⟨_, _, same, later⟩ := Program.ends_call_singleton ends
    obtain rfl := eq_of_heq same
    exact (Program.ends_done.mp later).2
  | privateEndpoint =>
    rcases failsSilently_or_lift ends with ⟨⟨⟩, _⟩ | ⟨project, _, ends⟩
    rcases failsSilently_or_lift ends with ⟨⟨⟩, _⟩ | ⟨service, _, ends⟩
    obtain ⟨_, _, same, later⟩ := Program.ends_call_singleton ends
    obtain rfl := eq_of_heq same
    exact (Program.ends_done.mp later).2

/-- A list makes a model of everything that it finds. -/
theorem ends_list {listing : Json} {listed : Except ProvisionError (List Json)}
    (ends : (Registry.list settings family.tag listing).Ends [family.answeredList parent objects] listed) :
    listed = .ok (objects.map fun object => family.modelShape.toJson (family.entry settings parent object)) := by
  rw [Registry.list, Registry.findFamily_tag, Program.lift_ok_bind] at ends
  cases family with
  | cluster | privateEndpoint =>
    rcases failsSilently_or_lift ends with ⟨⟨⟩, _⟩ | ⟨under, _, ends⟩
    rcases failsSilently_or_lift ends with ⟨⟨⟩, _⟩ | ⟨project, _, ends⟩
    obtain ⟨_, ⟨⟩, same, later⟩ := Program.ends_call_singleton ends
    obtain rfl := eq_of_heq same
    rw [(Program.ends_done.mp later).2, List.map_map]
    rfl
  | streamProcessor =>
    obtain ⟨project, workspace⟩ := parent
    rcases failsSilently_or_lift ends with ⟨⟨⟩, _⟩ | ⟨under, _, ends⟩
    rcases failsSilently_or_lift ends with ⟨⟨⟩, _⟩ | ⟨project, _, ends⟩
    split at ends
    · cases ends
    · obtain ⟨_, ⟨⟩, same, later⟩ := Program.ends_call_singleton ends
      obtain rfl := eq_of_heq same
      rw [(Program.ends_done.mp later).2, List.map_map]
      rfl
  | exportJob =>
    obtain ⟨project, clusterName⟩ := parent
    rcases failsSilently_or_lift ends with ⟨⟨⟩, _⟩ | ⟨under, _, ends⟩
    rcases failsSilently_or_lift ends with ⟨⟨⟩, _⟩ | ⟨project, _, ends⟩
    rcases failsSilently_or_lift ends with ⟨⟨⟩, _⟩ | ⟨clusterName, _, ends⟩
    obtain ⟨_, ⟨⟩, same, later⟩ := Program.ends_call_singleton ends
    obtain rfl := eq_of_heq same
    rw [(Program.ends_done.mp later).2, List.map_map]
    rfl

end Family

/-- A model with a workspace has it under both names once something is put onto it. -/
theorem StreamProcessorModel.merge_eq {model : StreamProcessorModel} {workspace : String}
    (known : model.workspace = some workspace) (remote : RemoteStreamProcessor) :
    model.merge remote =
      { model with
        workspaceName := some workspace
        instanceName := some workspace
        id := remote.id
        state := some remote.state
        stats := remote.stats.map Json.text
        options := remote.options.orElse fun _ => model.options } := by
  rw [merge, withWorkspace]
  split
  · next name found =>
    obtain rfl : name = workspace := Option.some.inj (found.symm.trans known)
    rfl
  · next missing => cases missing.symm.trans known

/-- The name of a workspace is not empty. -/
theorem StreamProcessorModel.ne_empty_of_workspace {model : StreamProcessorModel} {workspace : String}
    (known : model.workspace = some workspace) : workspace ≠ "" := by
  simpa using (Option.filter_eq_some_iff.mp known).2

namespace Family
variable {settings : Settings} {family : Family} {parent : family.Parent} {object : family.Object}
  {model : family.Model}

/-- A model without what a read does not show. -/
def withoutUnread : (family : Family) → family.Model → family.Model
  | cluster, model =>
    { model with
      clusterType := none
      majorVersion := none
      replicationSpecs := none
      backupEnabled := none
      terminationProtectionEnabled := none }
  | streamProcessor, model => { model with pipeline := none }
  | privateEndpoint, model => model
  | exportJob, model => model

/-- Put onto a model that only says which resource is meant, what is found amounts to the model that a list makes of it,
without what a read does not show. -/
theorem merged_eq (identifies : family.Identifies parent object model) :
    family.merged settings model object = family.withoutUnread (family.entry settings parent object) := by
  cases family with
  | cluster | privateEndpoint | exportJob =>
    obtain rfl : model = _ := identifies
    rfl
  | streamProcessor =>
    obtain ⟨project, workspace⟩ := parent
    obtain ⟨known, workspaceName, instanceName, rfl⟩ := identifies
    -- the model that a list puts the processor onto
    have named : StreamProcessorModel.workspace
        { projectId := some project
          workspaceName := some workspace
          processorName := some object.name
          pipeline := some (Json.array object.pipeline).text } = some workspace := by
      simpa [StreamProcessorModel.workspace] using StreamProcessorModel.ne_empty_of_workspace known
    rw [merged, StreamProcessorModel.merge_eq known, entry, StreamProcessorModel.ofRemote,
      StreamProcessorModel.merge_eq named]
    rfl

/-- Leaving out what a read does not show changes nothing under the other keys. -/
theorem without_unread (settings : Settings) (parent : family.Parent) (object : family.Object) :
    (family.modelShape.toJson (family.withoutUnread (family.entry settings parent object))).without (family.unread object) =
      (family.modelShape.toJson (family.entry settings parent object)).without (family.unread object) := by
  cases family with
  | cluster =>
    have same :
        ("clusterType" ∉ object.choices.reduceOption → none = object.clusterType) ∧
        ("mongoDBMajorVersion" ∉ object.choices.reduceOption → none = object.majorVersion) ∧
        ("replicationSpecs" ∉ object.choices.reduceOption → none = object.replicationSpecs) ∧
        ("backupEnabled" ∉ object.choices.reduceOption → none = object.backupEnabled) ∧
        ("terminationProtectionEnabled" ∉ object.choices.reduceOption → none = object.terminationProtectionEnabled) := by
      refine ⟨?_, ?_, ?_, ?_, ?_⟩ <;> exact object.none_eq_of_choice (by simp [RemoteCluster.choices])
    apply Record.without_toJson
    simpa [Fieldset.AgreeBut, ClusterModel.record, Field.nullable, withoutUnread, entry, ClusterModel.ofRemote,
      ClusterModel.merge, unread] using same
  | streamProcessor =>
    apply Record.without_toJson
    simp [Fieldset.AgreeBut, StreamProcessorModel.record, Field.nullable, withoutUnread, unread]
  | privateEndpoint | exportJob => rfl

end Family

/-- A read and a list that find the same resource show the same of it, but for the pipeline of a stream processor and for
what a cluster reports that only a caller sets. -/
theorem Registry.read_agrees_with_list (settings : Settings) (family : Family) {parent : family.Parent}
    {object : family.Object} {objects : List family.Object} {document listing : Json} {model : family.Model}
    {shown : Except ProvisionError Json} {listed : Except ProvisionError (List Json)}
    (parsed : parseModel family.modelShape document = .ok model) (identifies : family.Identifies parent object model)
    (reads : (read settings family.tag document).Ends [family.answeredRead parent object] shown)
    (lists : (list settings family.tag listing).Ends [family.answeredList parent objects] listed) :
    ∃ found entries, shown = .ok found ∧ listed = .ok entries ∧ entries.length = objects.length ∧
      ∀ i : Nat, objects[i]? = some object → ∃ entry, entries[i]? = some entry ∧
        found.without (family.unread object) = entry.without (family.unread object) ∧
        (family.unread object = [] → found = entry) := by
  rw [Family.registry_read_eq, parsed, Program.lift_ok_bind] at reads
  refine ⟨family.modelShape.toJson (family.merged settings model object), _, ?_, Family.ends_list lists, by simp, ?_⟩
  · rcases Program.ends_bind.mp reads with ⟨error, failed, rfl⟩ | ⟨found, before, after, looked, later, calls⟩
    · cases Family.ends_read failed
    · obtain ⟨rfl, rfl⟩ := Program.ends_done.mp later
      rw [List.append_nil] at calls
      rw [← calls] at looked
      cases Family.ends_read looked
      rfl
  · intro i held
    have agree := Family.without_unread settings parent object
    rw [← Family.merged_eq identifies] at agree
    refine ⟨family.modelShape.toJson (family.entry settings parent object), by simp [held], agree, ?_⟩
    intro all
    simpa [all] using agree

/-- A cluster that says something under every key that a read does not show. -/
def shardedCluster : RemoteCluster where
  name := "c"
  stateName := "IDLE"
  clusterType := some "SHARDED"
  majorVersion := some "8.0"
  replicationSpecs := some []
  backupEnabled := some true
  terminationProtectionEnabled := some true

/-- The model that says which cluster is meant. -/
def shardedModel : ClusterModel where
  projectId := some "p"
  name := some "c"

def shardedDocument : Json :=
  .object [("name", .string "c"), ("projectId", .string "p")]

theorem parseModel_shardedDocument : parseModel Family.cluster.modelShape shardedDocument = .ok shardedModel := by
  rfl

/-- What the read of the cluster shows. -/
def shardedRead : Json :=
  Family.cluster.modelShape.toJson (Family.cluster.merged {} shardedModel shardedCluster)

/-- What the list shows of the cluster. -/
def shardedEntry : Json :=
  Family.cluster.modelShape.toJson (Family.cluster.entry {} "p" shardedCluster)

theorem ends_shardedRead : (Registry.read {} Family.cluster.tag shardedDocument).Ends
    [Family.cluster.answeredRead "p" shardedCluster] (.ok shardedRead) := by
  rw [Family.registry_read_eq, parseModel_shardedDocument]
  exact .call (.done _)

theorem ends_shardedList : (Registry.list {} Family.cluster.tag shardedDocument).Ends
    [Family.cluster.answeredList "p" [shardedCluster]] (.ok [shardedEntry]) :=
  .call (.done _)

/-- Under all other keys the two agree. -/
theorem sharded_agrees_with_list : Family.cluster.Identifies "p" shardedCluster shardedModel ∧
    shardedRead.without (Family.cluster.unread shardedCluster) =
      shardedEntry.without (Family.cluster.unread shardedCluster) := by
  have identifies : Family.cluster.Identifies "p" shardedCluster shardedModel := rfl
  obtain ⟨found, entries, ⟨⟩, ⟨⟩, _, agree⟩ :=
    Registry.read_agrees_with_list {} .cluster parseModel_shardedDocument identifies ends_shardedRead ends_shardedList
  obtain ⟨entry, ⟨⟩, same, _⟩ := agree 0 rfl
  exact ⟨identifies, same⟩

/-- A stream processor with a pipeline. -/
def pipedProcessor : RemoteStreamProcessor where
  name := "n"
  state := "CREATED"

def pipedModel : StreamProcessorModel where
  projectId := some "p"
  workspaceName := some "w"
  processorName := some "n"

def pipedDocument : Json :=
  .object [("processorName", .string "n"), ("projectId", .string "p"), ("workspaceName", .string "w")]

/-- What the read of the stream processor shows. -/
def pipedRead : Json :=
  Family.streamProcessor.modelShape.toJson (Family.streamProcessor.merged {} pipedModel pipedProcessor)

/-- What the list shows of the stream processor. -/
def pipedEntry : Json :=
  Family.streamProcessor.modelShape.toJson (Family.streamProcessor.entry {} ("p", "w") pipedProcessor)

theorem ends_pipedRead : (Registry.read {} Family.streamProcessor.tag pipedDocument).Ends
    [Family.streamProcessor.answeredRead ("p", "w") pipedProcessor] (.ok pipedRead) := by
  have parsed : parseModel Family.streamProcessor.modelShape pipedDocument = .ok pipedModel := rfl
  rw [Family.registry_read_eq, parsed]
  exact .call (.done _)

theorem ends_pipedList : (Registry.list {} Family.streamProcessor.tag pipedDocument).Ends
    [Family.streamProcessor.answeredList ("p", "w") [pipedProcessor]] (.ok [pipedEntry]) :=
  .call (.done _)

/-- The document has a value under a key, and the value is not null. -/
def Json.hasNonNull (document : Json) (key : String) : Bool :=
  (document.field? key).any fun value => !value.isNull

/-- What a list shows of a cluster and of a stream processor need not be what a read shows: under each of those keys the
list has a value and the read has none. -/
theorem read_disagrees_with_list :
    ((Registry.read {} Family.cluster.tag shardedDocument).Ends [Family.cluster.answeredRead "p" shardedCluster]
        (.ok shardedRead) ∧
      (Registry.list {} Family.cluster.tag shardedDocument).Ends [Family.cluster.answeredList "p" [shardedCluster]]
        (.ok [shardedEntry]) ∧
      ∀ key ∈ Family.cluster.unread shardedCluster,
        shardedRead.hasNonNull key = false ∧ shardedEntry.hasNonNull key = true) ∧
    (Registry.read {} Family.streamProcessor.tag pipedDocument).Ends
        [Family.streamProcessor.answeredRead ("p", "w") pipedProcessor] (.ok pipedRead) ∧
      (Registry.list {} Family.streamProcessor.tag pipedDocument).Ends
        [Family.streamProcessor.answeredList ("p", "w") [pipedProcessor]] (.ok [pipedEntry]) ∧
      ∀ key ∈ Family.streamProcessor.unread pipedProcessor,
        pipedRead.hasNonNull key = false ∧ pipedEntry.hasNonNull key = true := by
  refine ⟨⟨ends_shardedRead, ends_shardedList, ?_⟩, ends_pipedRead, ends_pipedList, ?_⟩
  · decide
  · decide

end Provisioner
