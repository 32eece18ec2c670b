import Provisioner.Json.Basic
import Mathlib.Data.List.Perm.Basic
import Mathlib.Order.Basic
import Mathlib.Data.String.Basic

/-!
# Maps

A map has its keys in strictly rising order, and insertion keeps that order. A list of fields with different keys is a
permutation of its map (`toMap_perm`), a map is its own (`toMap_of_isMap`), and what is found under a key does not
depend on the order of the fields (`get?_eq_of_perm`).
-/
namespace Provisioner.Fields

/-- The keys rise strictly. -/
def IsMap (fields : Fields) : Prop :=
  fields.Pairwise fun one other => one.1 < other.1

theorem mem_of_mem_insert {fields : Fields} {key : String} {value : Json} {field : String × Json}
    (member : field ∈ fields.insert key value) : field = (key, value) ∨ field ∈ fields := by
  induction fields with
  | nil => simpa [insert] using member
  | cons head rest ih =>
    obtain ⟨k, v⟩ := head
    rw [insert] at member
    split at member
    · rcases List.mem_cons.mp member with same | later
      · exact .inl same
      · exact .inr (List.mem_cons_of_mem _ later)
    · split at member
      · exact List.mem_cons.mp member
      · rcases List.mem_cons.mp member with same | later
        · exact .inr (same ▸ List.mem_cons_self)
        · exact (ih later).imp_right (List.mem_cons_of_mem _)

theorem isMap_insert {fields : Fields} (sorted : fields.IsMap) (key : String) (value : Json) :
    (fields.insert key value).IsMap := by
  induction fields with
  | nil => simp [insert, IsMap]
  | cons head rest ih =>
    obtain ⟨k, v⟩ := head
    obtain ⟨above, tail⟩ := List.pairwise_cons.mp sorted
    rw [insert]
    split
    · next same => exact List.pairwise_cons.mpr ⟨fun field member => same ▸ above field member, tail⟩
    · next other =>
      split
      · next below =>
        refine List.pairwise_cons.mpr ⟨fun field member => ?_, sorted⟩
        rcases List.mem_cons.mp member with rfl | later
        · exact below
        · exact lt_trans below (above field later)
      · next above' =>
        have before : k < key := lt_of_le_of_ne (not_lt.mp above') (Ne.symm other)
        refine List.pairwise_cons.mpr ⟨fun field member => ?_, ih tail⟩
        rcases mem_of_mem_insert member with rfl | later
        · exact before
        · exact above field later

/-- A key that is new is added. -/
theorem insert_perm {fields : Fields} {key : String} (new : ∀ field ∈ fields, field.1 ≠ key) (value : Json) :
    (fields.insert key value).Perm ((key, value) :: fields) := by
  induction fields with
  | nil => exact List.Perm.refl _
  | cons head rest ih =>
    obtain ⟨k, v⟩ := head
    have other : key ≠ k := fun same => new (k, v) List.mem_cons_self same.symm
    have rest := ih fun field member => new field (List.mem_cons_of_mem _ member)
    rw [insert, if_neg other]
    split
    · exact List.Perm.refl _
    · exact (rest.cons _).trans (List.Perm.swap ..)

/-- The fields of a list put into a map one after the other. -/
def insertAll (map fields : Fields) : Fields :=
  fields.foldl (fun map field => map.insert field.1 field.2) map

@[simp] theorem insertAll_nil (map : Fields) : map.insertAll [] = map := rfl

@[simp] theorem insertAll_cons (map : Fields) (field : String × Json) (fields : Fields) :
    map.insertAll (field :: fields) = (map.insert field.1 field.2).insertAll fields := rfl

theorem isMap_insertAll {map : Fields} (sorted : map.IsMap) (fields : Fields) : (map.insertAll fields).IsMap := by
  induction fields generalizing map with
  | nil => exact sorted
  | cons field fields ih => exact ih (isMap_insert sorted _ _)

theorem isMap_toMap (fields : Fields) : (toMap fields).IsMap :=
  isMap_insertAll List.Pairwise.nil fields

theorem insertAll_perm {map fields : Fields} (different : ((map ++ fields).map (·.1)).Nodup) :
    (map.insertAll fields).Perm (map ++ fields) := by
  induction fields generalizing map with
  | nil => simp
  | cons field fields ih =>
    have new : ∀ other ∈ map, other.1 ≠ field.1 := by
      intro other member same
      rw [List.map_append, List.nodup_append] at different
      exact different.2.2 other.1 (List.mem_map_of_mem member) field.1 (by simp) same
    have moved := insert_perm new field.2
    have step : (map.insert field.1 field.2 ++ fields).Perm (map ++ field :: fields) :=
      (moved.append_right fields).trans List.perm_middle.symm
    exact (ih ((step.map _).nodup_iff.mpr different)).trans step

/-- The map of fields with different keys holds these fields. -/
theorem toMap_perm {fields : Fields} (different : (fields.map (·.1)).Nodup) : (toMap fields).Perm fields :=
  @insertAll_perm [] fields different

theorem mem_of_mem_insertAll {map fields : Fields} {field : String × Json} (member : field ∈ map.insertAll fields) :
    field ∈ map ∨ field ∈ fields := by
  induction fields generalizing map with
  | nil => exact .inl member
  | cons head fields ih =>
    rcases ih member with earlier | later
    · rcases mem_of_mem_insert earlier with rfl | earlier
      · exact .inr List.mem_cons_self
      · exact .inl earlier
    · exact .inr (List.mem_cons_of_mem _ later)

theorem mem_of_mem_toMap {fields : Fields} {field : String × Json} (member : field ∈ toMap fields) :
    field ∈ fields :=
  (@mem_of_mem_insertAll [] fields field member).resolve_left List.not_mem_nil

/-! ## Maps made of maps -/

/-- A key above all others is put at the end. -/
theorem insert_of_gt {fields : Fields} {key : String} (above : ∀ field ∈ fields, field.1 < key) (value : Json) :
    fields.insert key value = fields ++ [(key, value)] := by
  induction fields with
  | nil => rfl
  | cons head rest ih =>
    obtain ⟨first, later⟩ := List.forall_mem_cons.mp above
    rw [insert, if_neg (ne_of_gt first), if_neg (not_lt_of_gt first), ih later, List.cons_append]

theorem insertAll_of_isMap {map fields : Fields} (sorted : IsMap (map ++ fields)) :
    map.insertAll fields = map ++ fields := by
  induction fields generalizing map with
  | nil => simp
  | cons field fields ih =>
    have above : ∀ other ∈ map, other.1 < field.1 := by
      intro other member
      exact (List.pairwise_append.mp sorted).2.2 other member field List.mem_cons_self
    rw [insertAll_cons, insert_of_gt above, ih (by simpa using sorted), List.append_assoc]
    rfl

/-- A map is made a map as it is. -/
theorem toMap_of_isMap {fields : Fields} (sorted : fields.IsMap) : toMap fields = fields :=
  @insertAll_of_isMap [] fields sorted

/-! ## Leaving out keys -/

/-- A key below all others is put in front. -/
theorem insert_of_lt {fields : Fields} {key : String} (below : ∀ field ∈ fields, key < field.1) (value : Json) :
    fields.insert key value = (key, value) :: fields := by
  cases fields with
  | nil => rfl
  | cons head rest =>
    have less : key < head.1 := below head List.mem_cons_self
    rw [insert, if_neg (ne_of_lt less), if_pos less]

/-- Fields are left out of a map by their keys before or after another is put into it. -/
theorem filter_insert {fields : Fields} (sorted : fields.IsMap) (kept : String → Bool) (key : String) (value : Json) :
    (fields.insert key value).filter (fun field => kept field.1) =
      if kept key then Fields.insert key value (fields.filter fun field => kept field.1)
      else fields.filter fun field => kept field.1 := by
  induction fields with
  | nil => cases stays : kept key <;> simp [insert, stays]
  | cons head rest ih =>
    obtain ⟨k, v⟩ := head
    obtain ⟨above, tail⟩ := List.pairwise_cons.mp sorted
    have ih := ih tail
    rw [insert]
    split
    · next same =>
      subst same
      cases stays : kept key <;> simp [insert, stays]
    · next other =>
      split
      · next less =>
        -- what is left of the map lies above the key too, so the key comes first there as well
        have below : ∀ field ∈ ((k, v) :: rest).filter (fun field => kept field.1), key < field.1 := by
          intro field member
          rcases List.mem_cons.mp (List.mem_of_mem_filter member) with rfl | later
          · exact less
          · exact lt_trans less (above field later)
        cases stays : kept key with
        | false => simp [stays]
        | true =>
          rw [if_pos rfl, insert_of_lt below]
          exact List.filter_cons_of_pos stays
      · next least =>
        cases stays : kept k with
        | false => simp only [List.filter_cons, stays, if_false, Bool.false_eq_true, ih]
        | true =>
          simp only [List.filter_cons, stays, if_true, ih]
          split <;> simp [insert, other, least]

theorem filter_insertAll {map : Fields} (sorted : map.IsMap) (kept : String → Bool) (fields : Fields) :
    (map.insertAll fields).filter (fun field => kept field.1) =
      insertAll (map.filter fun field => kept field.1) (fields.filter fun field => kept field.1) := by
  induction fields generalizing map with
  | nil => rfl
  | cons field fields ih =>
    rw [insertAll_cons, ih (isMap_insert sorted _ _), filter_insert sorted]
    cases stays : kept field.1 <;> simp [stays]

/-- Fields are left out by their keys before or after a map is made of them. -/
theorem filter_toMap (kept : String → Bool) (fields : Fields) :
    (toMap fields).filter (fun field => kept field.1) = toMap (fields.filter fun field => kept field.1) :=
  filter_insertAll List.Pairwise.nil kept fields

/-! ## Looking up -/

theorem IsMap.different {fields : Fields} (sorted : fields.IsMap) : (fields.map (·.1)).Nodup := by
  refine (List.pairwise_map.mpr ?_)
  exact sorted.imp fun below => ne_of_lt below

theorem get?_eq_of_perm {one other : Fields} (different : (one.map (·.1)).Nodup) (same : one.Perm other)
    (key : String) : one.get? key = other.get? key := by
  induction same with
  | nil => rfl
  | cons field _ ih => rw [get?_cons, get?_cons, ih (List.nodup_cons.mp different).2]
  | swap first second rest =>
    obtain ⟨k, v⟩ := first
    obtain ⟨k', v'⟩ := second
    have apart : k' ≠ k := fun same => (List.nodup_cons.mp different).1 (by simp [same])
    rw [get?_cons, get?_cons, get?_cons, get?_cons]
    by_cases one : key = k'
    · rw [if_pos one, if_neg (one ▸ apart), if_pos one]
    · rw [if_neg one, if_neg one]
  | trans first _ ih ih' => rw [ih different, ih' ((first.map _).nodup_iff.mp different)]

theorem get?_of_mem {fields : Fields} (distinct : (fields.map (·.1)).Nodup) {field : String × Json}
    (member : field ∈ fields) : fields.get? field.1 = some field.2 := by
  induction fields with
  | nil => cases member
  | cons head fields ih =>
    obtain ⟨k, value⟩ := head
    obtain ⟨new, distinct⟩ := List.nodup_cons.mp distinct
    rw [get?_cons]
    rcases List.mem_cons.mp member with rfl | later
    · exact if_pos rfl
    · have apart : field.1 ≠ k := fun same => new (same ▸ List.mem_map.mpr ⟨field, later, rfl⟩)
      rw [if_neg apart]
      exact ih distinct later

theorem get?_append_of_new {fields : Fields} {key : String} (new : ∀ field ∈ fields, field.1 ≠ key) (front : Fields) :
    Fields.get? (front ++ fields) key = front.get? key := by
  induction front with
  | nil => exact List.lookup_eq_none_iff.mpr fun field member => by simpa using (new field member).symm
  | cons field front ih => rw [List.cons_append, get?_cons, get?_cons, ih]

end Provisioner.Fields
