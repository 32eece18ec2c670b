import Provisioner.Proofs.Json.Records

/-!
# What a strict record reads

A strict record whose fields have different names reads exactly the documents in which every key is the name of a field
that reads the value under it (`Fieldset.Suits`) and no field is missing that must be there (`Fieldset.needed`).
-/
namespace Provisioner
namespace Fieldset

/-- Every field is read under its name only. -/
def Unaliased : {ρ σ : Type} → Fieldset ρ σ → Prop
  | _, _, .none => True
  | _, _, .cons field rest => field.aliases = [] ∧ rest.Unaliased

/-- The names of the fields that must be there. -/
def needed : {ρ σ : Type} → Fieldset ρ σ → List String
  | _, _, .none => []
  | _, _, .cons field rest => if field.absent?.isNone then field.name :: rest.needed else rest.needed

/-- The field under a key reads what stands there. -/
def Suits (origin : Origin) (key : String) (source : Source) : {ρ σ : Type} → Fieldset ρ σ → Prop
  | _, _, .none => False
  | _, _, .cons field rest =>
    (key = field.name ∧ ∃ value, field.shape.read origin source = .ok value) ∨ rest.Suits origin key source

/-- The names of the fields that were read so far. -/
def stored : {ρ σ : Type} → Fieldset ρ σ → σ → List String
  | _, _, .none, _ => []
  | _, _, .cons field rest, (slot, slots) =>
    if slot.isSome then field.name :: rest.stored slots else rest.stored slots

variable {ρ σ : Type} {fields : Fieldset ρ σ} {origin : Origin} {key : String} {source : Source} {slots next : σ}

theorem needed_subset_names (fields : Fieldset ρ σ) : fields.needed ⊆ fields.names := by
  induction fields with
  | none => exact List.Subset.refl _
  | cons field rest ih =>
    rw [needed]
    split
    · exact List.cons_subset_cons _ ih
    · exact List.subset_cons_of_subset _ ih

theorem stored_subset_names (fields : Fieldset ρ σ) (slots : σ) : fields.stored slots ⊆ fields.names := by
  induction fields with
  | none => exact List.Subset.refl _
  | cons field rest ih =>
    rw [stored]
    split
    · exact List.cons_subset_cons _ (ih _)
    · exact List.subset_cons_of_subset _ (ih _)

theorem Suits.mem_names (suits : fields.Suits origin key source) : key ∈ fields.names := by
  induction fields with
  | none => exact suits.elim
  | cons field rest ih =>
    rcases suits with ⟨rfl, _⟩ | later
    · exact List.mem_cons_self
    · exact List.mem_cons_of_mem _ (ih later)

@[simp] theorem stored_empty (fields : Fieldset ρ σ) : fields.stored fields.empty = [] := by
  induction fields with
  | none => rfl
  | cons field rest ih => exact ih

/-! ## One field -/

theorem store_name_eq_ok {α : Type} {field : Field α} {slot : Option α} {next : Option α × σ} :
    (Fieldset.cons field fields).store origin field.name source (slot, slots) = some (.ok next) ↔
      slot = Option.none ∧ ∃ value, field.shape.read origin source = .ok value ∧ next = (some value, slots) := by
  cases slot with
  | some => simp [store]
  | none => cases read : field.shape.read origin source <;> simp [store, read, Except.map, eq_comm]

theorem store_cons_eq_ok {α : Type} {field : Field α} {slot : Option α} {next : Option α × σ}
    (other : key ∉ field.keys) :
    (Fieldset.cons field fields).store origin key source (slot, slots) = some (.ok next) ↔
      ∃ later, fields.store origin key source slots = some (.ok later) ∧ next = (slot, later) := by
  rw [store_cons_of_not_mem other]
  rcases fields.store origin key source slots with _ | _ | later <;> simp [Except.map, eq_comm]

/-- A value is stored where its field reads it and has not been read before. -/
theorem exists_store_iff (unaliased : fields.Unaliased) (different : fields.names.Nodup) :
    (∃ next, fields.store origin key source slots = some (.ok next)) ↔
      fields.Suits origin key source ∧ key ∉ fields.stored slots := by
  induction fields with
  | none => simp [store, Suits]
  | cons field rest ih =>
    obtain ⟨slot, slots⟩ := slots
    obtain ⟨plain, unaliased⟩ := unaliased
    obtain ⟨new, different⟩ := List.nodup_cons.mp different
    by_cases same : key = field.name
    · subst same
      -- no later field has the name of this one
      have unsuited : ¬ rest.Suits origin field.name source := fun suits => new suits.mem_names
      have unstored : field.name ∉ rest.stored slots := fun before => new (stored_subset_names rest slots before)
      cases slot with
      | some => simp [store_name_eq_ok, stored]
      | none => simp [store_name_eq_ok, stored, Suits, unsuited, unstored]
    · have other : key ∉ field.keys := by simp [Field.keys, plain, same]
      have apart : key ∉ (Fieldset.cons field rest).stored (slot, slots) ↔ key ∉ rest.stored slots := by
        cases slot <;> simp [stored, same]
      have later : (Fieldset.cons field rest).Suits origin key source ↔ rest.Suits origin key source := by
        simp [Suits, same]
      rw [apart, later, ← ih unaliased different]
      simp [store_cons_eq_ok other]

/-- The field that is stored has then been read. -/
theorem mem_stored_of_store (unaliased : fields.Unaliased) (found : fields.store origin key source slots = some (.ok next))
    (name : String) : name ∈ fields.stored next ↔ name = key ∨ name ∈ fields.stored slots := by
  induction fields with
  | none => cases found
  | cons field rest ih =>
    obtain ⟨slot, slots⟩ := slots
    obtain ⟨plain, unaliased⟩ := unaliased
    by_cases same : key = field.name
    · subst same
      obtain ⟨rfl, value, _, rfl⟩ := store_name_eq_ok.mp found
      simp [stored]
    · have other : key ∉ field.keys := by simp [Field.keys, plain, same]
      obtain ⟨after, stores, rfl⟩ := (store_cons_eq_ok other).mp found
      have later := ih unaliased stores
      cases slot with
      | none => simpa [stored] using later
      | some => simp [stored, later, or_left_comm]

/-! ## All fields -/

/-- A strict record goes on where a field was stored, and nowhere else. -/
theorem readFields_cons_eq_ok {sources : List (String × Source)} {slots' : σ} :
    fields.readFields true origin slots ((key, source) :: sources) = .ok slots' ↔
      ∃ next, fields.store origin key source slots = some (.ok next) ∧
        fields.readFields true origin next sources = .ok slots' := by
  rw [readFields]
  cases fields.store origin key source slots with
  | none => simp [bind, Except.bind]
  | some result => cases result <;> simp [bind, Except.bind]

/-- Sources under different keys are all read where each one is suitable. -/
theorem exists_readFields_iff (unaliased : fields.Unaliased) (different : fields.names.Nodup)
    {sources : List (String × Source)} (distinct : (sources.map (·.1)).Nodup)
    (new : ∀ source ∈ sources, source.1 ∉ fields.stored slots) :
    (∃ slots', fields.readFields true origin slots sources = .ok slots') ↔
      ∀ source ∈ sources, fields.Suits origin source.1 source.2 := by
  induction sources generalizing slots with
  | nil => simp [readFields]
  | cons head sources ih =>
    obtain ⟨key, source⟩ := head
    obtain ⟨apart, distinct⟩ := List.nodup_cons.mp distinct
    obtain ⟨unread, new⟩ := List.forall_mem_cons.mp new
    -- what is stored now is not what comes later, because the keys are different
    have still (next : σ) (found : fields.store origin key source slots = some (.ok next)) :
        ∀ source ∈ sources, source.1 ∉ fields.stored next := by
      intro other member before
      rcases (mem_stored_of_store unaliased found _).mp before with same | before
      · exact apart (same ▸ List.mem_map.mpr ⟨other, member, rfl⟩)
      · exact new other member before
    rw [List.forall_mem_cons]
    constructor
    · rintro ⟨slots', read⟩
      obtain ⟨next, found, rest⟩ := readFields_cons_eq_ok.mp read
      have suits := ((exists_store_iff unaliased different).mp ⟨next, found⟩).1
      exact ⟨suits, (ih distinct (still next found)).mp ⟨slots', rest⟩⟩
    · rintro ⟨suits, others⟩
      obtain ⟨next, found⟩ := (exists_store_iff unaliased different).mpr ⟨suits, unread⟩
      obtain ⟨slots', rest⟩ := (ih distinct (still next found)).mpr others
      exact ⟨slots', readFields_cons_eq_ok.mpr ⟨next, found, rest⟩⟩

theorem mem_stored_of_readFields (unaliased : fields.Unaliased) {sources : List (String × Source)} {slots' : σ}
    (read : fields.readFields true origin slots sources = .ok slots') (name : String) :
    name ∈ fields.stored slots' ↔ name ∈ sources.map (·.1) ∨ name ∈ fields.stored slots := by
  induction sources generalizing slots with
  | nil =>
    obtain rfl := Except.ok.inj read
    simp
  | cons head sources ih =>
    obtain ⟨key, source⟩ := head
    obtain ⟨next, found, rest⟩ := readFields_cons_eq_ok.mp read
    rw [ih rest, mem_stored_of_store unaliased found, List.map_cons, List.mem_cons, or_left_comm, or_assoc]

/-- The fields are complete where each one was read or may be missing. -/
theorem exists_complete_cons_iff {α : Type} {field : Field α} {slot : Option α} :
    (∃ row, (Fieldset.cons field fields).complete (slot, slots) = .ok row) ↔
      (slot.isSome ∨ field.absent?.isSome) ∧ ∃ row, fields.complete slots = .ok row := by
  constructor
  · rintro ⟨row, completed⟩
    cases slot with
    | some =>
      cases rest : fields.complete slots with
      | error => simp [complete, rest, bind, Except.bind] at completed
      | ok values => exact ⟨.inl rfl, values, rfl⟩
    | none =>
      cases rest : fields.complete slots with
      | error => cases presence : field.presence <;> simp [complete, rest, presence, bind, Except.bind] at completed
      | ok values =>
        refine ⟨.inr ?_, values, rfl⟩
        cases presence : field.presence <;> simp [complete, Field.absent?, presence, bind, Except.bind] at completed ⊢
  · rintro ⟨known, row, completed⟩
    cases slot with
    | some => exact ⟨_, complete_cons_of_read completed⟩
    | none =>
      obtain ⟨value, absent⟩ := Option.isSome_iff_exists.mp (known.resolve_left (by simp))
      exact ⟨_, complete_cons_of_absent absent completed⟩

/-- Nothing is missing where all fields that must be there were read. -/
theorem exists_complete_iff (different : fields.names.Nodup) :
    (∃ row, fields.complete slots = .ok row) ↔ ∀ name ∈ fields.needed, name ∈ fields.stored slots := by
  induction fields with
  | none => simp [complete, needed]
  | cons field rest ih =>
    obtain ⟨slot, slots⟩ := slots
    obtain ⟨new, different⟩ := List.nodup_cons.mp different
    have apart : ∀ name ∈ rest.needed, name ≠ field.name := by
      rintro name member rfl
      exact new (needed_subset_names rest member)
    have unstored : field.name ∉ rest.stored slots := fun before => new (stored_subset_names rest slots before)
    rw [exists_complete_cons_iff, ih different, needed, stored]
    cases slot with
    | some =>
      simp only [Option.isSome_some, true_or, true_and, if_true, List.mem_cons]
      split
      · simp +contextual [apart]
      · simp +contextual [apart]
    | none => cases absent : field.absent? <;> simp [unstored]

end Fieldset

/-- A strict record reads the documents that hold a suitable value for each key and all fields that must be there. -/
theorem Record.exists_ofJson_iff {α : Type} {record : Record α} (strict : record.strict = true)
    (unaliased : record.fields.Unaliased) (different : record.fields.names.Nodup) {fields : Fields}
    (distinct : (fields.map (·.1)).Nodup) :
    (∃ value, record.shape.ofJson (.object fields) = .ok value) ↔
      (∀ field ∈ fields, record.fields.Suits .document field.1 field.2.source) ∧
        ∀ name ∈ record.fields.needed, name ∈ fields.map (·.1) := by
  have keys : (Json.fieldSources fields).map (·.1) = fields.map (·.1) := by simp [Json.fieldSources_eq_map]
  have sources : (∀ source ∈ Json.fieldSources fields, record.fields.Suits .document source.1 source.2) ↔
      ∀ field ∈ fields, record.fields.Suits .document field.1 field.2.source := by
    rw [Json.fieldSources_eq_map, List.forall_mem_map]
  have read : (∃ value, record.shape.ofJson (.object fields) = .ok value) ↔
      ∃ slots, record.fields.readFields true .document record.fields.empty (Json.fieldSources fields) = .ok slots ∧
        ∃ row, record.fields.complete slots = .ok row := by
    simp only [Shape.ofJson, shape, Json.source, Record.read, strict]
    cases record.fields.readFields true .document record.fields.empty (Json.fieldSources fields) with
    | error => simp [bind, Except.bind]
    | ok slots =>
      simp only [bind, Except.bind, liftSyntax, Source.readFault, Except.mapError, pure, Except.pure]
      cases completed : record.fields.complete slots <;> simp [completed]
  have slots : (∃ slots, record.fields.readFields true .document record.fields.empty (Json.fieldSources fields) =
      .ok slots) ↔ ∀ source ∈ Json.fieldSources fields, record.fields.Suits .document source.1 source.2 :=
    Fieldset.exists_readFields_iff unaliased different (keys ▸ distinct) (by simp)
  rw [read, ← sources, ← slots]
  constructor
  · rintro ⟨slots, reading, completing⟩
    refine ⟨⟨slots, reading⟩, fun name needed => ?_⟩
    have stored := (Fieldset.exists_complete_iff different).mp completing name needed
    simpa [Fieldset.mem_stored_of_readFields unaliased reading, keys] using stored
  · rintro ⟨⟨slots, reading⟩, present⟩
    refine ⟨slots, reading, (Fieldset.exists_complete_iff different).mpr fun name needed => ?_⟩
    rw [Fieldset.mem_stored_of_readFields unaliased reading, keys]
    exact .inl (present name needed)

end Provisioner
