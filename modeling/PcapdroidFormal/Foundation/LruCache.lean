import Mathlib.Data.List.Nodup

/-!
# Caches of the most recently used entries

The entries are kept in the order of their last use, the eldest one first.  A
lookup makes an entry the most recent one, and an insertion drops the eldest
entries when there are too many.  Keys are met once, so what a key is mapped to is
a matter of membership.
-/

namespace PcapdroidFormal.Foundation

structure LruCache (Key Value : Type) where
  maxSize : Nat
  entries : List (Key × Value)
  distinct : (entries.map Prod.fst).Nodup

namespace LruCache

variable {Key Value : Type} {entries : List (Key × Value)} {result : Value}

def empty (maxSize : Nat) : LruCache Key Value := ⟨maxSize, [], List.nodup_nil⟩

variable [DecidableEq Key]

def others (entries : List (Key × Value)) (key : Key) : List (Key × Value) :=
  entries.filter fun entry => entry.1 ≠ key

theorem mem_others {key : Key} {entry : Key × Value} :
    entry ∈ others entries key ↔ entry ∈ entries ∧ entry.1 ≠ key := by
  rw [others, List.mem_filter, decide_eq_true_iff]

/-- With a key behind the other entries the keys are still distinct. -/
theorem distinct_behind (distinct : (entries.map Prod.fst).Nodup) (key : Key) (value : Value) :
    ((others entries key ++ [(key, value)]).map Prod.fst).Nodup := by
  rw [List.map_append, List.map_singleton, List.nodup_append]
  refine ⟨distinct.sublist (List.filter_sublist.map _), List.nodup_singleton key, ?_⟩
  intro first member second last same
  obtain ⟨entry, inside, rfl⟩ := List.mem_map.mp member
  exact (mem_others.mp inside).2 (same.trans (List.mem_singleton.mp last))

variable (cache : LruCache Key Value)

/-- What a key is mapped to. -/
def lookup (key : Key) : Option Value :=
  (cache.entries.find? fun entry => entry.1 = key).map Prod.snd

def get (key : Key) : Option Value × LruCache Key Value :=
  match cache.lookup key with
  | none => (none, cache)
  | some value => (some value,
      { cache with
        entries := others cache.entries key ++ [(key, value)]
        distinct := distinct_behind cache.distinct key value })

/-- `put`, with the eldest entries dropped. -/
def put (key : Key) (value : Value) : LruCache Key Value :=
  let entries := others cache.entries key ++ [(key, value)]
  { cache with
    entries := entries.drop (entries.length - cache.maxSize)
    distinct := (distinct_behind cache.distinct key value).sublist
      ((List.drop_sublist _ _).map _) }

variable {cache} {key other : Key} {value : Value}

theorem lookup_eq_some : cache.lookup key = some value ↔ (key, value) ∈ cache.entries := by
  rw [lookup, Option.map_eq_some_iff]
  constructor
  · grind
  · intro member
    cases here : cache.entries.find? fun entry => entry.1 = key with
    | none => grind
    | some entry =>
      have sameKey := List.find?_some here
      have sameKey : entry.1 = key := of_decide_eq_true sameKey
      have same := List.inj_on_of_nodup_map cache.distinct (List.mem_of_find?_eq_some here)
        member sameKey
      grind

theorem get_fst : (cache.get key).1 = cache.lookup key := by
  rw [get]
  grind

/-- A lookup does not change what the keys are mapped to. -/
theorem get_lookup : (cache.get key).2.lookup other = cache.lookup other := by
  rw [get]
  split
  next => rfl
  next value found =>
    apply Option.ext
    intro result
    rw [lookup_eq_some, lookup_eq_some, List.mem_append, List.mem_singleton, mem_others]
    constructor
    · rintro (⟨member, -⟩ | same)
      · exact member
      · rw [same]
        exact lookup_eq_some.mp found
    · intro member
      by_cases same : other = key
      · subst same
        have equal := lookup_eq_some.mpr member
        grind
      · exact .inl ⟨member, same⟩

/-- A key is mapped to what was inserted last. -/
theorem eq_of_put_lookup (found : (cache.put key value).lookup key = some result) : result = value:= by
  rw [lookup_eq_some] at found
  rcases List.mem_append.mp (List.mem_of_mem_drop found) with old | new
  · exact absurd rfl (mem_others.mp old).2
  · grind

/-- An insertion does not map other keys to something new. -/
theorem lookup_of_put (differ : other ≠ key)
    (found : (cache.put key value).lookup other = some result) :
    cache.lookup other = some result := by
  rw [lookup_eq_some] at found ⊢
  rcases List.mem_append.mp (List.mem_of_mem_drop found) with old | new
  · exact (mem_others.mp old).1
  · grind

end LruCache

end PcapdroidFormal.Foundation
