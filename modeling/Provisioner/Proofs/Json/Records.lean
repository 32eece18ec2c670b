import Provisioner.Json.Record
import Provisioner.Proofs.Json.Maps

/-!
# Records read back

A record that is written as a document is read back field by field: if every field reads another value back
(`Field.Rereads`), the record of these values is read (`Record.ofJson_toJson`), in whatever order the fields stand.
-/
namespace Provisioner

theorem Json.fieldsToMaps_eq_map (fields : List (String × Json)) :
    Json.fieldsToMaps fields = fields.map fun field => (field.1, field.2.toMaps) := by
  induction fields with
  | nil => rfl
  | cons field fields ih => simp [Json.fieldsToMaps, ih]

namespace Field
variable {α : Type}

/-- The keys under which a field is read. -/
def keys (field : Field α) : List String :=
  field.name :: field.aliases

/-- What stands for the field where it is not there. -/
def absent? (field : Field α) : Option α :=
  match field.presence with
  | .required => none
  | .optional absent => some absent
  | .defaulted absent => some absent

/-- A value that is written is read back as another one. -/
def Rereads (field : Field α) (value other : α) : Prop :=
  if field.omitted value then field.absent? = some other
  else field.shape.ofJson (field.shape.toJson value) = .ok other

theorem rereads_of_written {field : Field α} {value other : α} (written : field.omitted value = false)
    (read : field.shape.ofJson (field.shape.toJson value) = .ok other) : field.Rereads value other := by
  rw [Rereads, if_neg (by simp [written])]
  exact read

theorem rereads_of_omitted {field : Field α} {value other : α} (omitted : field.omitted value = true)
    (absent : field.absent? = some other) : field.Rereads value other := by
  rw [Rereads, if_pos omitted]
  exact absent

end Field

namespace Fieldset

/-- The keys under which the fields are read. -/
def keys : {ρ σ : Type} → Fieldset ρ σ → List String
  | _, _, .none => []
  | _, _, .cons field rest => field.keys ++ rest.keys

/-- Values that are written are read back as others. -/
def Rereads : {ρ σ : Type} → Fieldset ρ σ → ρ → ρ → Prop
  | _, _, .none, _, _ => True
  | _, _, .cons field rest, (value, values), (other, others) => field.Rereads value other ∧ rest.Rereads values others

variable {α ρ σ : Type} {strict : Bool} {origin : Origin}

theorem keys_write (fields : Fieldset ρ σ) (row : ρ) : ((fields.write row).map (·.1)).Sublist fields.keys := by
  induction fields with
  | none => exact List.Sublist.refl _
  | cons field rest ih =>
    obtain ⟨value, values⟩ := row
    rw [write]
    split
    · exact (ih values).trans (List.sublist_append_right _ _)
    · exact ((ih values).trans (List.sublist_append_right _ _)).cons_cons _

theorem mem_keys_of_mem_write (fields : Fieldset ρ σ) (row : ρ) {field : String × Json}
    (member : field ∈ fields.write row) : field.1 ∈ fields.keys :=
  (keys_write fields row).subset (List.mem_map_of_mem member)

/-! ## Reading fields of the rest -/

theorem store_cons_of_not_mem {field : Field α} {rest : Fieldset ρ σ} {key : String} (other : key ∉ field.keys)
    (source : Source) (slot : Option α) (slots : σ) :
    (Fieldset.cons field rest).store origin key source (slot, slots) =
      (rest.store origin key source slots).map fun result => result.map fun slots => (slot, slots) := by
  have : ¬ (key = field.name ∨ key ∈ field.aliases) := by simpa [Field.keys] using other
  simp [store, this]

/-- A field under a key of the rest goes where the rest puts it. -/
theorem readFields_cons_step {field : Field α} {rest : Fieldset ρ σ} {key : String} {source : Source}
    {sources sources' : List (String × Source)} (other : key ∉ field.keys) {slot slot' : Option α} {slots slots' : σ}
    (read : rest.readFields strict origin slots ((key, source) :: sources) = .ok slots')
    (later : ∀ next, rest.readFields strict origin next sources = .ok slots' →
      (Fieldset.cons field rest).readFields strict origin (slot, next) sources' = .ok (slot', slots')) :
    (Fieldset.cons field rest).readFields strict origin (slot, slots) ((key, source) :: sources') =
      .ok (slot', slots') := by
  rw [readFields] at read ⊢
  rw [store_cons_of_not_mem other]
  cases stored : rest.store origin key source slots with
  | some result =>
    rw [stored] at read
    cases result with
    | error error => cases read
    | ok next => exact later next read
  | none =>
    rw [stored] at read
    cases strict with
    | true => cases read
    | false =>
      cases skipped : source.skip with
      | error error =>
        rw [skipped] at read
        cases read
      | ok _ =>
        rw [skipped] at read
        exact later slots read

theorem readFields_cons_of_not_mem {field : Field α} {rest : Fieldset ρ σ} {sources : List (String × Source)}
    (others : ∀ source ∈ sources, source.1 ∉ field.keys) (slot : Option α) {slots slots' : σ}
    (read : rest.readFields strict origin slots sources = .ok slots') :
    (Fieldset.cons field rest).readFields strict origin (slot, slots) sources = .ok (slot, slots') := by
  induction sources generalizing slots with
  | nil =>
    simp only [readFields, Except.ok.injEq] at read ⊢
    rw [read]
  | cons source sources ih =>
    exact readFields_cons_step (others source List.mem_cons_self) read fun next =>
      ih fun source member => others source (List.mem_cons_of_mem _ member)

/-- The one field under the first name is read into its slot, wherever it stands. -/
theorem readFields_cons_of_split {field : Field α} {rest : Fieldset ρ σ} {before after : List (String × Source)}
    {source : Source} {value : α} (fits : field.shape.read origin source = .ok value)
    (others : ∀ source ∈ before ++ after, source.1 ∉ field.keys) {slots slots' : σ}
    (read : rest.readFields strict origin slots (before ++ after) = .ok slots') :
    (Fieldset.cons field rest).readFields strict origin (Option.none, slots) (before ++ (field.name, source) :: after) =
      .ok (some value, slots') := by
  induction before generalizing slots with
  | nil =>
    have stored : (Fieldset.cons field rest).store origin field.name source (Option.none, slots) =
        some (.ok (some value, slots)) := by
      simp [store, fits, Except.map]
    rw [List.nil_append, readFields, stored]
    exact readFields_cons_of_not_mem others (some value) read
  | cons head before ih =>
    obtain ⟨key, other⟩ := head
    rw [List.cons_append] at read
    exact readFields_cons_step (others (key, other) List.mem_cons_self) read fun _ =>
      ih fun source member => others source (List.mem_cons_of_mem _ member)

/-! ## Reading all fields -/

theorem complete_cons_of_read {field : Field α} {rest : Fieldset ρ σ} {value : α} {slots : σ} {values : ρ}
    (complete : rest.complete slots = .ok values) :
    (Fieldset.cons field rest).complete (some value, slots) = .ok (value, values) := by
  rw [Fieldset.complete, complete]
  rfl

theorem complete_cons_of_absent {field : Field α} {rest : Fieldset ρ σ} {value : α} {slots : σ} {values : ρ}
    (absent : field.absent? = some value) (complete : rest.complete slots = .ok values) :
    (Fieldset.cons field rest).complete (Option.none, slots) = .ok (value, values) := by
  rw [Field.absent?] at absent
  split at absent
  · cases absent
  all_goals
    next presence =>
      obtain rfl := Option.some.inj absent
      simp only [Fieldset.complete, presence, complete]
      rfl

/-- Fields in any order are read into slots that make the values read back. -/
theorem exists_slots {fields : Fieldset ρ σ} (different : fields.keys.Nodup) {row other : ρ}
    (rereads : fields.Rereads row other) {sources : List (String × Source)}
    (same : sources.Perm ((fields.write row).map fun field => (field.1, field.2.toMaps.source))) :
    ∃ slots, fields.readFields strict .document fields.empty sources = .ok slots ∧
      fields.complete slots = .ok other := by
  induction fields generalizing sources with
  | none =>
    have : sources = [] := same.eq_nil
    exact ⟨(), by rw [this]; rfl, rfl⟩
  | cons field rest ih =>
    obtain ⟨value, values⟩ := row
    obtain ⟨other, others⟩ := other
    obtain ⟨first, later⟩ := rereads
    obtain ⟨_, restDifferent, apart⟩ := List.nodup_append.mp different
    have strange : ∀ source ∈ (rest.write values).map fun field => (field.1, field.2.toMaps.source),
        source.1 ∉ field.keys := by
      intro source member mine
      obtain ⟨written, listed, rfl⟩ := List.mem_map.mp member
      exact apart _ mine _ (mem_keys_of_mem_write rest values listed) rfl
    rw [write] at same
    by_cases omitted : field.omitted value
    · rw [if_pos omitted] at same
      rw [Field.Rereads, if_pos omitted] at first
      obtain ⟨slots, read, complete⟩ := ih restDifferent later same
      refine ⟨(Option.none, slots),
        readFields_cons_of_not_mem (fun source member => strange source (same.mem_iff.mp member)) _ read, ?_⟩
      exact complete_cons_of_absent first complete
    · rw [if_neg omitted, List.map_cons] at same
      rw [Field.Rereads, if_neg omitted] at first
      obtain ⟨before, after, rfl⟩ := List.append_of_mem (same.mem_iff.mpr List.mem_cons_self)
      have same : (before ++ after).Perm _ := (List.perm_middle.symm.trans same).cons_inv
      obtain ⟨slots, read, complete⟩ := ih restDifferent later same
      refine ⟨(some other, slots), readFields_cons_of_split first
        (fun source member => strange source (same.mem_iff.mp member)) read, ?_⟩
      exact complete_cons_of_read complete

end Fieldset

namespace Record
variable {α : Type} (record : Record α)

/-- A record is read back from its fields in any order. -/
theorem ofJson_of_perm (different : record.fields.keys.Nodup) {value : α} {row : record.Row}
    (rereads : record.fields.Rereads (record.toRow value) row) {fields : Fields}
    (same : fields.Perm ((record.fields.write (record.toRow value)).map fun field => (field.1, field.2.toMaps))) :
    record.shape.ofJson (.object fields) = .ok (record.ofRow row) := by
  have sources : (Json.fieldSources fields).Perm
      ((record.fields.write (record.toRow value)).map fun field => (field.1, field.2.toMaps.source)) := by
    rw [Json.fieldSources_eq_map]
    simpa [Function.comp_def] using same.map fun field => (field.1, field.2.source)
  obtain ⟨slots, read, complete⟩ := @Fieldset.exists_slots _ _ record.strict _ different _ _ rereads _ sources
  simp only [Shape.ofJson, shape, Json.source, Record.read, read]
  change (do return record.ofRow (← record.fields.complete slots)) = _
  rw [complete]
  rfl

end Record
end Provisioner
