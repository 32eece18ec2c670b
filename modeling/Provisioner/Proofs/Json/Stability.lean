import Provisioner.Proofs.Context
import Provisioner.Proofs.Json.Values

/-!
# Shapes that read back what they wrote

A shape is stable if every value that it reads, from whatever source, is read back from the document that it writes
(`Shape.Stable`). That needs no more of a record than that its fields are stable and have keys of their own, however
they are named, left out or filled in (`Record.stable`).
-/
namespace Provisioner

/-! ## Any documents -/

mutual

/-- A document is read from its own source with its objects made maps. -/
theorem Json.toJson_source (document : Json) : document.source.toJson = .ok document.toMaps := by
  cases document with
  | null | bool | number | string => rfl
  | array items =>
    rw [source, Source.toJson, Json.itemsToJson_sources items]
    rfl
  | object fields =>
    rw [source, Source.toJson, Json.fieldsToJson_fieldSources fields]
    rfl

theorem Json.itemsToJson_sources (items : List Json) :
    Source.itemsToJson (Json.sources items) = .ok (Json.itemsToMaps items) := by
  cases items with
  | nil => rfl
  | cons item items =>
    rw [sources, Source.itemsToJson, Json.toJson_source item, Json.itemsToJson_sources items]
    rfl

theorem Json.fieldsToJson_fieldSources (fields : List (String × Json)) :
    Source.fieldsToJson (Json.fieldSources fields) = .ok (Json.fieldsToMaps fields) := by
  cases fields with
  | nil => rfl
  | cons field fields =>
    obtain ⟨key, value⟩ := field
    rw [fieldSources, Source.fieldsToJson, Json.toJson_source value, Json.fieldsToJson_fieldSources fields]
    rfl

end

theorem Fields.toMaps_toMap {fields : Fields} (fixed : ∀ field ∈ fields, field.2.toMaps = field.2) :
    (Json.object (toMap fields)).toMaps = .object (toMap fields) := by
  have same : Json.fieldsToMaps (toMap fields) = toMap fields := by
    rw [Json.fieldsToMaps_eq_map]
    refine (List.map_congr_left ?_).trans (List.map_id _)
    intro field member
    rw [fixed field (mem_of_mem_toMap member)]
    rfl
  rw [Json.toMaps, same, toMap_of_isMap (isMap_toMap fields)]

mutual

/-- All objects of a document that is read are maps. -/
theorem Source.toMaps_of_toJson (source : Source) {document : Json} (read : source.toJson = .ok document) :
    document.toMaps = document := by
  cases source with
  | null | bool | number | string =>
    cases read
    rfl
  | array items fault =>
    obtain ⟨values, first, ended⟩ := bind_eq_ok.mp read
    obtain ⟨_, _, ⟨⟩⟩ := bind_eq_ok.mp ended
    rw [Json.toMaps, Source.itemsToMaps_of_itemsToJson items first]
  | object fields fault =>
    obtain ⟨values, first, ended⟩ := bind_eq_ok.mp read
    obtain ⟨_, _, ⟨⟩⟩ := bind_eq_ok.mp ended
    exact Fields.toMaps_toMap (Source.toMaps_of_fieldsToJson fields first)
  | faulty fault => cases read

theorem Source.itemsToMaps_of_itemsToJson (items : List Source) {values : List Json}
    (read : Source.itemsToJson items = .ok values) : Json.itemsToMaps values = values := by
  cases items with
  | nil =>
    cases read
    rfl
  | cons item items =>
    obtain ⟨value, first, others⟩ := bind_eq_ok.mp read
    obtain ⟨rest, later, ⟨⟩⟩ := bind_eq_ok.mp others
    rw [Json.itemsToMaps, Source.toMaps_of_toJson item first, Source.itemsToMaps_of_itemsToJson items later]

theorem Source.toMaps_of_fieldsToJson (fields : List (String × Source)) {values : Fields}
    (read : Source.fieldsToJson fields = .ok values) : ∀ field ∈ values, field.2.toMaps = field.2 := by
  cases fields with
  | nil =>
    cases read
    simp
  | cons field fields =>
    obtain ⟨key, source⟩ := field
    obtain ⟨value, first, others⟩ := bind_eq_ok.mp read
    obtain ⟨rest, later, ⟨⟩⟩ := bind_eq_ok.mp others
    exact List.forall_mem_cons.mpr
      ⟨Source.toMaps_of_toJson source first, Source.toMaps_of_fieldsToJson fields later⟩

end

theorem Source.eq_null_of_toJson {source : Source} (read : source.toJson = .ok .null) : source = .null := by
  cases source with
  | null => rfl
  | bool | number | string | faulty => cases read
  | array items fault =>
    obtain ⟨_, _, ended⟩ := bind_eq_ok.mp read
    obtain ⟨_, _, ⟨⟩⟩ := bind_eq_ok.mp ended
  | object fields fault =>
    obtain ⟨_, _, ended⟩ := bind_eq_ok.mp read
    obtain ⟨_, _, ⟨⟩⟩ := bind_eq_ok.mp ended

theorem Json.source_ne_null {document : Json} (something : document ≠ .null) : document.source ≠ .null := by
  cases document with
  | null => exact absurd rfl something
  | _ => simp [source]

theorem liftSyntax_eq_ok {α : Type} {result : Except SyntaxError α} {value : α} :
    liftSyntax result = .ok value ↔ result = .ok value := by
  cases result <;> simp [liftSyntax, Except.mapError]

/-! ## Stable shapes -/

/-- Every value that is read from some source is read back from its own document, and that is only null if the source
was. -/
structure Shape.Stable {α : Type} (shape : Shape α) : Prop where
  back {origin : Origin} {source : Source} {value : α} (read : shape.read origin source = .ok value) :
    shape.ofJson (shape.toJson value) = .ok value
  present {origin : Origin} {source : Source} {value : α} (read : shape.read origin source = .ok value)
    (something : source ≠ .null) : shape.toJson value ≠ .null

namespace Shape
variable {α : Type}

@[simp]
theorem stable_bool : bool.Stable where
  back _ := rfl
  present _ _ := by simp [toJson, bool, Json.toMaps]

@[simp]
theorem stable_string : string.Stable where
  back _ := rfl
  present _ _ := by simp [toJson, string, Json.toMaps]

theorem readBounded_ofNat {bound n : Nat} (within : n ≤ bound) (expected : String) :
    readBounded bound expected (Json.ofNat n).source = .ok n := by
  have inside : (0 : Int) ≤ n ∧ (n : Int) ≤ bound := ⟨Int.natCast_nonneg n, Int.ofNat_le.mpr within⟩
  rw [Json.ofNat, Json.ofInt, Json.source, readBounded, if_pos inside]
  rfl

/-- Natural numbers up to a bound are read back. -/
theorem stable_bounded {bound : Nat} {expected : String} {ofNat : Nat → α} {toNat : α → Nat}
    (within : ∀ value, toNat value ≤ bound) (back : ∀ value, ofNat (toNat value) = value) :
    Stable { read := fun _ source => (readBounded bound expected source).map ofNat
             write := fun value => Json.ofNat (toNat value) } where
  back {_ _ value} _ := by
    have read := congrArg (Except.map ofNat) (readBounded_ofNat (within value) expected)
    rw [Except.map, back] at read
    exact read
  present _ _ := by simp [toJson, Json.toMaps, Json.ofNat, Json.ofInt]

@[simp]
theorem stable_uint32 : uint32.Stable :=
  stable_bounded (fun value => Nat.le_pred_of_lt value.toNat_lt_size) fun _ => UInt32.ofNat_toNat

@[simp]
theorem stable_uint64 : uint64.Stable :=
  stable_bounded (fun value => Nat.le_pred_of_lt value.toNat_lt_size) fun _ => UInt64.ofNat_toNat

@[simp]
theorem stable_any : any.Stable where
  back {_ source value} read := by
    have fixed := Source.toMaps_of_toJson source (liftSyntax_eq_ok.mp read)
    have again : ofJson any (toJson any value) = liftSyntax value.toMaps.source.toJson := rfl
    rw [again, fixed, Json.toJson_source, fixed]
    rfl
  present {_ source value} read something := by
    have found := liftSyntax_eq_ok.mp read
    have same : toJson any value = value := Source.toMaps_of_toJson source found
    rw [same]
    rintro rfl
    exact something (Source.eq_null_of_toJson found)

@[simp]
theorem stable_map : map.Stable where
  back {_ source value} read := by
    cases source with
    | object fields fault =>
      obtain ⟨entries, first, ended⟩ := bind_eq_ok.mp read
      obtain ⟨_, _, ⟨⟩⟩ := bind_eq_ok.mp ended
      have written : toJson map (Fields.toMap entries) = .object (Fields.toMap entries) :=
        Fields.toMaps_toMap (Source.toMaps_of_fieldsToJson fields (liftSyntax_eq_ok.mp first))
      have again : ofJson map (.object (Fields.toMap entries)) =
          (liftSyntax (Source.fieldsToJson (Json.fieldSources (Fields.toMap entries)))).map Fields.toMap := by
        rw [Json.fieldsToJson_fieldSources, ofJson, Json.source, map]
        simp only [Json.fieldsToJson_fieldSources]
        rfl
      rw [written, again, Json.fieldsToJson_fieldSources]
      exact congrArg Except.ok (Json.object.inj written)
    | _ => cases read
  present _ _ := by simp [toJson, map, Json.toMaps]

theorem exists_read_of_mapM {shape : Shape α} {origin : Origin} {items : List Source} {values : List α}
    (read : items.mapM (shape.read origin) = .ok values) :
    ∀ value ∈ values, ∃ source, shape.read origin source = .ok value := by
  induction items generalizing values with
  | nil =>
    cases read
    simp
  | cons item items ih =>
    rw [List.mapM_cons] at read
    obtain ⟨value, first, others⟩ := bind_eq_ok.mp read
    obtain ⟨rest, later, ⟨⟩⟩ := bind_eq_ok.mp others
    exact List.forall_mem_cons.mpr ⟨⟨item, first⟩, ih later⟩

theorem mapM_read_of_back {shape : Shape α} {values : List α}
    (back : ∀ value ∈ values, shape.ofJson (shape.toJson value) = .ok value) :
    (Json.sources (Json.itemsToMaps (values.map shape.write))).mapM (shape.read .document) = .ok values := by
  induction values with
  | nil => rfl
  | cons value values ih =>
    obtain ⟨first, later⟩ := List.forall_mem_cons.mp back
    have first : shape.read .document (shape.write value).toMaps.source = .ok value := first
    rw [List.map_cons, Json.itemsToMaps, Json.sources, List.mapM_cons, first, ih later]
    rfl

@[simp]
theorem stable_list {shape : Shape α} (stable : shape.Stable) : shape.list.Stable where
  back {origin source values} read := by
    cases source with
    | array items fault =>
      obtain ⟨found, first, ended⟩ := bind_eq_ok.mp read
      obtain ⟨_, _, ⟨⟩⟩ := bind_eq_ok.mp ended
      have again : ofJson shape.list (toJson shape.list values) =
          (Json.sources (Json.itemsToMaps (values.map shape.write))).mapM (shape.read .document) >>= fun values =>
            .ok values := rfl
      rw [again, mapM_read_of_back]
      · rfl
      · intro value member
        obtain ⟨source, one⟩ := exists_read_of_mapM first value member
        exact stable.back one
    | _ => cases read
  present _ _ := by simp [toJson, list, Json.toMaps]

/-- A value that is not null is read as the shape reads it. -/
theorem read_option_of_ne_null (shape : Shape α) {origin : Origin} {source : Source} (something : source ≠ .null) :
    shape.option.read origin source = (shape.read origin source).map some := by
  cases source with
  | null => exact absurd rfl something
  | _ => rfl

theorem map_some_eq_ok {ε : Type} {result : Except ε α} {value : Option α} :
    result.map some = .ok value ↔ ∃ inner, result = .ok inner ∧ value = some inner := by
  cases result <;> simp [Except.map, eq_comm]

@[simp]
theorem stable_option {shape : Shape α} (stable : shape.Stable) : shape.option.Stable where
  back {origin source value} read := by
    by_cases nothing : source = .null
    · subst nothing
      cases read
      rfl
    · rw [read_option_of_ne_null shape nothing, map_some_eq_ok] at read
      obtain ⟨inner, found, rfl⟩ := read
      have same : shape.option.toJson (some inner) = shape.toJson inner := rfl
      rw [same, ofJson, read_option_of_ne_null shape (Json.source_ne_null (stable.present found nothing))]
      exact congrArg (Except.map some) (stable.back found)
  present {origin source value} read something := by
    rw [read_option_of_ne_null shape something, map_some_eq_ok] at read
    obtain ⟨inner, found, rfl⟩ := read
    exact stable.present found something

theorem lookup_tags [Tagged α] (variants : List α) (text : String) :
    (variants.map fun value => (Tagged.tag value, value)).lookup text =
      variants.find? fun value => Tagged.tag value = text := by
  induction variants with
  | nil => rfl
  | cons value variants ih =>
    rw [List.map_cons, List.lookup_cons, List.find?_cons, ih]
    by_cases same : Tagged.tag value = text
    · simp [same]
    · have differs : (text == Tagged.tag value) = false := by simpa using Ne.symm same
      simp [same, differs]

@[simp]
theorem stable_tagged [Tagged α] [Tagged.Distinct α] : (tagged α).Stable where
  back {origin source value} _ := by
    have again : (tagged α).ofJson ((tagged α).toJson value) =
        readTag (Tagged.variants.map fun value => (Tagged.tag value, value)) (Tagged.tag value) := rfl
    have known : Tagged.variants.find? (fun other => Tagged.tag other = Tagged.tag value) = some value :=
      Tagged.Distinct.ofTag?_tag value
    rw [again, readTag, lookup_tags, known]
  present _ _ := by simp [toJson, tagged, tags, Json.toMaps]

end Shape

/-! ## Stable records -/

/-- The field reads back the values that it reads, and nothing but what stands for a missing value is left out. -/
structure Field.Stable {α : Type} (field : Field α) : Prop where
  shape : field.shape.Stable
  omits (value : α) (omitted : field.omitted value = true) : field.absent? = some value
  fills (value : α) (absent : field.absent? = some value) :
    field.omitted value = true ∨ field.shape.ofJson (field.shape.toJson value) = .ok value

theorem Field.Stable.rereads {α : Type} {field : Field α} (stable : field.Stable) {origin : Origin} {value : α}
    (yields : field.Yields origin value) : field.Rereads value value := by
  cases omitted : field.omitted value with
  | true => exact rereads_of_omitted omitted (stable.omits value omitted)
  | false =>
    rcases yields with ⟨source, read⟩ | absent
    · exact rereads_of_written omitted (stable.shape.back read)
    · exact rereads_of_written omitted ((stable.fills value absent).resolve_left (by simp [omitted]))

/-- All fields are stable. -/
def Fieldset.Stable : {ρ σ : Type} → Fieldset ρ σ → Prop
  | _, _, .none => True
  | _, _, .cons field rest => field.Stable ∧ rest.Stable

theorem Fieldset.Stable.rereads {ρ σ : Type} {fields : Fieldset ρ σ} (stable : fields.Stable) {origin : Origin}
    {row : ρ} (yields : fields.Yields origin row) : fields.Rereads row row := by
  induction fields with
  | none => trivial
  | cons field rest ih => exact ⟨stable.1.rereads yields.1, ih stable.2 yields.2⟩

/-- A record is stable whose fields are and have keys of their own. -/
theorem Record.stable {α : Type} {record : Record α} (different : record.fields.keys.Nodup)
    (kept : ∀ row, record.toRow (record.ofRow row) = row) (stable : record.fields.Stable) : record.shape.Stable where
  back {origin source value} read := by
    obtain ⟨row, yields, rfl⟩ := Record.exists_yields_of_read read
    have rereads : record.fields.Rereads (record.toRow (record.ofRow row)) row := by
      rw [kept]
      exact stable.rereads yields
    have written : record.shape.toJson (record.ofRow row) =
        .object (Fields.toMap (Json.fieldsToMaps (record.fields.write (record.toRow (record.ofRow row))))) := rfl
    -- The document has the fields in the order of their keys, which does not matter to who reads them.
    rw [written, Json.fieldsToMaps_eq_map]
    refine record.ofJson_of_perm different rereads (Fields.toMap_perm ?_)
    have keys := (Fieldset.keys_write record.fields (record.toRow (record.ofRow row))).nodup different
    simpa [Function.comp_def] using keys
  present _ _ := by
    rw [Shape.toJson, shape, Json.toMaps]
    simp

namespace Field
variable {α : Type} {shape : Shape α}

/-- Other keys under which a field is read do not matter, for it is never written under them. -/
theorem stable_aliased {field : Field α} (stable : field.Stable) (aliases : List String) :
    Stable { field with aliases := aliases } where
  shape := stable.shape
  omits := stable.omits
  fills := stable.fills

@[simp]
theorem stable_required (name : String) (stable : shape.Stable) : (required name shape).Stable where
  shape := stable
  omits _ omitted := by cases omitted
  fills _ absent := by cases absent

@[simp]
theorem stable_nullable (name : String) (stable : shape.Stable) : (nullable name shape).Stable where
  shape := Shape.stable_option stable
  omits _ omitted := by cases omitted
  fills value absent := by
    cases absent
    exact .inr rfl

@[simp]
theorem stable_optional (name : String) (stable : shape.Stable) : (optional name shape).Stable where
  shape := Shape.stable_option stable
  omits value omitted := by
    cases value with
    | none => rfl
    | some => cases omitted
  fills value absent := by
    cases absent
    exact .inl rfl

theorem stable_defaulted (name : String) (stable : shape.Stable) {absent : α}
    (back : shape.ofJson (shape.toJson absent) = .ok absent) :
    Stable { name := name, shape := shape, presence := .defaulted absent } where
  shape := stable
  omits _ omitted := by cases omitted
  fills value same := by
    cases same
    exact .inr back

@[simp]
theorem stable_listed (name : String) (stable : shape.Stable) : (listed name shape).Stable :=
  stable_defaulted name (Shape.stable_list stable) rfl

@[simp]
theorem stable_unlessEmpty (name : String) {shape : Shape (List α)} (stable : shape.Stable) :
    (unlessEmpty name shape).Stable where
  shape := stable
  omits value omitted := by
    cases value with
    | nil => rfl
    | cons => cases omitted
  fills value absent := by
    cases absent
    exact .inl rfl

end Field

end Provisioner
