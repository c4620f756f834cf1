import Mathlib.Data.List.AList

/-!
# The set of the values of a map

A finite map is kept together with the set of its values.  Several keys may have one
value, so the set cannot follow the removal of a key by the removal of its value.
-/

namespace PcapdroidFormal.Foundation

variable {Key Value : Type} [DecidableEq Key]
  {map : AList fun _ : Key => Value} {index : List Value} {key : Key} {value : Value}

/-- The index has just the values of the map. -/
def Indexes (map : AList fun _ : Key => Value) (index : List Value) : Prop :=
  ∀ value, value ∈ index ↔ ∃ key, map.lookup key = some value

def Unshared (map : AList fun _ : Key => Value) (key : Key) (value : Value) : Prop :=
  ∀ other, other ≠ key → map.lookup other ≠ some value

theorem indexes_empty : Indexes (∅ : AList fun _ : Key => Value) [] := by
  intro value
  simp

/-- The values after a new key. -/
theorem exists_lookup_insert (fresh : key ∉ map) {found : Value} :
    (∃ other, (map.insert key value).lookup other = some found) ↔
      found = value ∨ ∃ other, map.lookup other = some found := by
  constructor
  · rintro ⟨other, looked⟩
    by_cases same : other = key
    · rw [same, AList.lookup_insert] at looked
      grind
    · rw [AList.lookup_insert_ne same] at looked
      exact .inr ⟨other, looked⟩
  · rintro (rfl | ⟨other, looked⟩)
    · exact ⟨key, AList.lookup_insert map⟩
    · have distinct : other ≠ key := by
        rintro rfl
        exact fresh (AList.lookup_isSome.mp (Option.isSome_of_eq_some looked))
      exact ⟨other, by rw [AList.lookup_insert_ne distinct, looked]⟩

/-- The values after the removal of a key. -/
theorem exists_lookup_erase {found : Value} :
    (∃ other, (map.erase key).lookup other = some found) ↔
      ∃ other, other ≠ key ∧ map.lookup other = some found := by
  constructor
  · rintro ⟨other, looked⟩
    by_cases same : other = key
    · rw [same, AList.lookup_erase] at looked
      cases looked
    · exact ⟨other, same, by rwa [AList.lookup_erase_ne same] at looked⟩
  · rintro ⟨other, distinct, looked⟩
    exact ⟨other, by rw [AList.lookup_erase_ne distinct, looked]⟩

variable [DecidableEq Value]

instance : Decidable (Unshared map key value) :=
  decidable_of_iff (∀ other ∈ map.keys, other ≠ key → map.lookup other ≠ some value)
    ⟨fun unshared other distinct found => unshared other
        (AList.mem_keys.mp (AList.lookup_isSome.mp (Option.isSome_of_eq_some found))) distinct found,
      fun unshared other _ => unshared other⟩

variable (indexes : Indexes map index)
include indexes

theorem Indexes.insert (fresh : key ∉ map) (value : Value) :
    Indexes (map.insert key value) (index.insert value) := by
  intro found
  rw [exists_lookup_insert fresh, List.mem_insert_iff, indexes found]

/-- When a value may be removed with a key: no other key has it, and the value that the key
has is this one or one of another key. -/
theorem Indexes.erase_iff : Indexes (map.erase key) (index.filter (· ≠ value)) ↔
      Unshared map key value ∧
        ∀ old, map.lookup key = some old → old ≠ value → ¬ Unshared map key old := by
  have removed (found : Value) : (found ∈ index.filter (· ≠ value)) ↔
      (∃ other, map.lookup other = some found) ∧ found ≠ value := by
    rw [List.mem_filter, indexes found, decide_eq_true_iff]
  constructor
  · intro after
    refine ⟨fun other distinct looked => ?_, fun old looked different unshared => ?_⟩
    · have kept := (after value).mpr (exists_lookup_erase.mpr ⟨other, distinct, looked⟩)
      exact ((removed value).mp kept).2 rfl
    · have kept := (after old).mp ((removed old).mpr ⟨⟨key, looked⟩, different⟩)
      obtain ⟨other, distinct, found⟩ := exists_lookup_erase.mp kept
      exact unshared other distinct found
  · rintro ⟨unshared, shared⟩ found
    rw [removed, exists_lookup_erase]
    constructor
    · rintro ⟨⟨other, looked⟩, different⟩
      by_cases same : other = key
      · subst same
        by_contra absent
        exact shared found looked different fun other distinct looked =>
          absent ⟨other, distinct, looked⟩
      · exact ⟨other, same, looked⟩
    · rintro ⟨other, distinct, looked⟩
      refine ⟨⟨other, looked⟩, ?_⟩
      rintro rfl
      exact unshared other distinct looked

/-- The value of the key itself may be removed with it if no other key has it. -/
theorem Indexes.erase_own_iff (own : map.lookup key = some value) :
    Indexes (map.erase key) (index.filter (· ≠ value)) ↔ Unshared map key value := by
  rw [indexes.erase_iff]
  grind

/-- A new value for a key, after the removal of the old one. -/
theorem Indexes.move_iff (own : map.lookup key = some value) {new : Value}
    (different : new ≠ value) :
    Indexes ((map.erase key).insert key new) ((index.filter (· ≠ value)).insert new) ↔
      Unshared map key value := by
  have fresh : key ∉ map.erase key := by simp [AList.mem_erase]
  rw [← indexes.erase_own_iff own]
  refine ⟨fun moved => (indexes.erase_own_iff own).mpr fun other distinct looked => ?_,
    fun erased => erased.insert fresh new⟩
  -- another key that keeps the old value would be left without its entry of the index
  have kept := (moved value).mpr
    ((exists_lookup_insert fresh).mpr (.inr (exists_lookup_erase.mpr ⟨other, distinct, looked⟩)))
  grind

end PcapdroidFormal.Foundation
