import Provisioner.Proofs.Calls
import Provisioner.Proofs.Json.Records

/-!
# The values of records

Every value of a record that is read is one that its field reads from some source, or the one that stands for the field
where it is missing (`Record.exists_yields_of_read`). So what all values of a shape have in common holds of the fields of
every record that is read.
-/
namespace Provisioner

/-- A value that a field can come to: one that it reads, or the one that stands for it. -/
def Field.Yields {α : Type} (field : Field α) (origin : Origin) (value : α) : Prop :=
  (∃ source, field.shape.read origin source = .ok value) ∨ field.absent? = some value

namespace Fieldset

/-- Values that the fields can come to. -/
def Yields (origin : Origin) : {ρ σ : Type} → Fieldset ρ σ → ρ → Prop
  | _, _, .none, _ => True
  | _, _, .cons field rest, (value, values) => field.Yields origin value ∧ rest.Yields origin values

/-- What was read of the fields so far are values that they can come to. -/
def Holds (origin : Origin) : {ρ σ : Type} → Fieldset ρ σ → σ → Prop
  | _, _, .none, _ => True
  | _, _, .cons field rest, (slot, slots) => (∀ value ∈ slot, field.Yields origin value) ∧ rest.Holds origin slots

variable {ρ σ : Type} {fields : Fieldset ρ σ} {origin : Origin} {slots next : σ}

theorem holds_empty (fields : Fieldset ρ σ) : fields.Holds origin fields.empty := by
  induction fields with
  | none => trivial
  | cons field rest ih => exact ⟨nofun, ih⟩

theorem Holds.store {key : String} {source : Source} (holds : fields.Holds origin slots)
    (found : fields.store origin key source slots = some (.ok next)) : fields.Holds origin next := by
  induction fields with
  | none => cases found
  | cons field rest ih =>
    obtain ⟨slot, slots⟩ := slots
    obtain ⟨first, later⟩ := holds
    unfold Fieldset.store at found
    split at found
    · cases slot with
      | some => cases found
      | none =>
        cases read : field.shape.read origin source with
        | error => simp [read, Except.map] at found
        | ok value =>
          simp only [read, Except.map, Option.some.injEq, Except.ok.injEq] at found
          subst found
          refine ⟨?_, later⟩
          rintro _ ⟨⟩
          exact .inl ⟨source, read⟩
    · obtain ⟨result, stored, same⟩ := Option.map_eq_some_iff.mp found
      cases result with
      | error => cases same
      | ok after =>
        cases same
        exact ⟨first, ih later stored⟩

theorem Holds.readFields {strict : Bool} {sources : List (String × Source)} (holds : fields.Holds origin slots)
    (read : fields.readFields strict origin slots sources = .ok next) : fields.Holds origin next := by
  induction sources generalizing slots with
  | nil =>
    cases read
    exact holds
  | cons head sources ih =>
    obtain ⟨key, source⟩ := head
    rw [Fieldset.readFields] at read
    split at read
    · next stored =>
      obtain ⟨after, rfl, rest⟩ := bind_eq_ok.mp read
      exact ih (holds.store stored) rest
    · cases strict with
      | true => cases read
      | false =>
        obtain ⟨_, _, rest⟩ := bind_eq_ok.mp read
        exact ih holds rest

theorem Holds.complete {row : ρ} (holds : fields.Holds origin slots) (completed : fields.complete slots = .ok row) :
    fields.Yields origin row := by
  induction fields with
  | none => trivial
  | cons field rest ih =>
    obtain ⟨slot, slots⟩ := slots
    obtain ⟨first, later⟩ := holds
    unfold Fieldset.complete at completed
    split at completed
    · obtain ⟨_, ⟨⟩, others⟩ := bind_eq_ok.mp completed
      obtain ⟨values, done, ⟨⟩⟩ := bind_eq_ok.mp others
      exact ⟨first _ rfl, ih later done⟩
    · cases completed
    all_goals
      next presence =>
        obtain ⟨_, ⟨⟩, others⟩ := bind_eq_ok.mp completed
        obtain ⟨values, done, ⟨⟩⟩ := bind_eq_ok.mp others
        exact ⟨.inr (by rw [Field.absent?, presence]), ih later done⟩

theorem yields_of_readItems {expected : String} {fault : Option Fault} {index : Nat} {items left : List Source} {row : ρ}
    (read : fields.readItems origin expected fault index items = .ok (row, left)) : fields.Yields origin row := by
  induction fields generalizing index items left with
  | none => trivial
  | cons field rest ih =>
    cases items with
    | cons source items =>
      obtain ⟨value, first, others⟩ := bind_eq_ok.mp read
      obtain ⟨⟨values, left⟩, later, ⟨⟩⟩ := bind_eq_ok.mp others
      exact ⟨.inl ⟨source, first⟩, ih later⟩
    | nil =>
      obtain ⟨_, _, missing⟩ := bind_eq_ok.mp read
      split at missing
      · next presence =>
        obtain ⟨⟨values, left⟩, later, ⟨⟩⟩ := bind_eq_ok.mp missing
        exact ⟨.inr (by rw [Field.absent?, presence]), ih later⟩
      · cases missing

end Fieldset

/-- A record that is read is made of values that its fields can come to. -/
theorem Record.exists_yields_of_read {α : Type} {record : Record α} {origin : Origin} {source : Source} {value : α}
    (read : record.read origin source = .ok value) : ∃ row, record.fields.Yields origin row ∧ value = record.ofRow row := by
  unfold Record.read at read
  split at read
  · obtain ⟨slots, filled, ended⟩ := bind_eq_ok.mp read
    obtain ⟨_, _, completing⟩ := bind_eq_ok.mp ended
    obtain ⟨row, completed, ⟨⟩⟩ := bind_eq_ok.mp completing
    exact ⟨row, ((Fieldset.holds_empty record.fields).readFields filled).complete completed, rfl⟩
  · obtain ⟨⟨row, left⟩, found, ended⟩ := bind_eq_ok.mp read
    obtain ⟨_, _, ⟨⟩⟩ := bind_eq_ok.mp ended
    exact ⟨row, Fieldset.yields_of_readItems found, rfl⟩
  · cases read

end Provisioner
