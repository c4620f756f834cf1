import PcapdroidFormal.Foundation.LruCache

/-!
# The most recently used keys

What a cache of limited size has in it is a function of how it was used: the keys
that were used last, each with the value that was stored for it last.  A cache that
keeps its entries in the order of their last use, and drops the eldest one when
there are too many, has just these keys.
-/

namespace PcapdroidFormal.Foundation

namespace RecentUse

variable {Key Value : Type}

inductive Use (Key Value : Type) where
  | stored (key : Key) (value : Value)
  | found (key : Key)

def Use.key : Use Key Value → Key
  | stored key _ => key
  | found key => key

/-- The operations of a cache. -/
inductive CacheCall (Key Value : Type) where
  | find (key : Key)
  | add (key : Key) (value : Value)

variable [DecidableEq Key]

/-! ## The abstract map

The uses are listed with the last one first. -/

/-- The keys in the order of their last use, the most recent one first. -/
def recent : List (Use Key Value) → List Key
  | [] => []
  | use :: older => use.key :: (recent older).filter (· ≠ use.key)

/-- The keys that a cache of some size should have. -/
def kept (maxSize : Nat) (history : List (Use Key Value)) : List Key :=
  (recent history).take maxSize

def lastStored (key : Key) : List (Use Key Value) → Option Value
  | [] => none
  | .stored other value :: older => if other = key then some value else lastStored key older
  | .found _ :: older => lastStored key older

def useCall (maxSize : Nat) (history : List (Use Key Value)) :
    CacheCall Key Value → List (Use Key Value)
  | .find key => if key ∈ kept maxSize history then .found key :: history else history
  | .add key value => .stored key value :: history

def uses (maxSize : Nat) (calls : List (CacheCall Key Value)) : List (Use Key Value) :=
  calls.foldl (useCall maxSize) []

/-- A cache that is the abstract map after some uses. -/
structure IsLruMap (maxSize : Nat) (history : List (Use Key Value)) (keys : List Key)
    (find : Key → Option Value) : Prop where
  distinct : keys.Nodup
  size : keys.length ≤ maxSize
  present : ∀ key ∈ kept maxSize history,
    ∃ value, lastStored key history = some value ∧ find key = some value
  absent : ∀ key, key ∉ kept maxSize history → find key = none

/-- What an addition does to the keys: over the capacity it drops the key that was used
least recently, and nothing else is lost. -/
structure DropsEldest (maxSize : Nat) (history : List (Use Key Value)) (before : List Key)
    (key : Key) (after : List Key) : Prop where
  full : key ∉ before → before.length = maxSize →
    ∃ eldest, (kept maxSize history).getLast? = some eldest ∧
      ∀ other, other ∈ after ↔ other = key ∨ other ∈ before ∧ other ≠ eldest
  fits : key ∈ before ∨ before.length < maxSize →
    ∀ other, other ∈ after ↔ other = key ∨ other ∈ before

/-! ## Recent keys -/

section

variable (maxSize : Nat) (use : Use Key Value) (history : List (Use Key Value))

theorem recent_nodup : (recent history).Nodup := by
  induction history with
  | nil => exact List.nodup_nil
  | cons use older ih =>
    rw [recent, List.nodup_cons]
    grind

theorem kept_nodup :
    (kept maxSize history).Nodup :=
  (recent_nodup history).sublist (List.take_sublist _ _)

theorem length_kept_le :
    (kept maxSize history).length ≤ maxSize :=
  List.length_take_le _ _

/-- Without a key, the others move up by one place at most. -/
theorem take_filter_take {keys : List Key} (distinct : keys.Nodup) (key : Key) (count : Nat) :
    ((keys.take (count + 1)).filter (· ≠ key)).take count =
      (keys.filter (· ≠ key)).take count := by
  induction keys generalizing count with
  | nil => rfl
  | cons first keys ih =>
    obtain ⟨single, distinct⟩ := List.nodup_cons.mp distinct
    rw [List.take_succ_cons]
    by_cases same : first = key
    · subst same
      have others : ∀ other ∈ keys, decide (other ≠ first) = true := by
        grind
      have takenOthers : ∀ other ∈ keys.take count, decide (other ≠ first) = true :=
        fun other member => others other (List.mem_of_mem_take member)
      rw [List.filter_cons_of_neg (by simp), List.filter_cons_of_neg (by simp),
        List.filter_eq_self.mpr others, List.filter_eq_self.mpr takenOthers, List.take_take,
        Nat.min_self]
    · rw [List.filter_cons_of_pos (by simpa using same),
        List.filter_cons_of_pos (by simpa using same)]
      cases count with
      | zero => rfl
      | succ count => grind

/-- A use brings its key to the front. -/
theorem kept_cons :
    kept maxSize (use :: history) =
      (use.key :: (kept maxSize history).filter (· ≠ use.key)).take maxSize := by
  cases maxSize with
  | zero => rfl
  | succ count =>
    rw [kept, recent, List.take_succ_cons, List.take_succ_cons, kept,
      take_filter_take (recent_nodup history)]

theorem lastStored_cons_of_ne {use : Use Key Value} {key : Key} (differ : use.key ≠ key)
    (history : List (Use Key Value)) : lastStored key (use :: history) = lastStored key history := by
  cases use with
  | stored other value => exact if_neg differ
  | found other => rfl

/-! ## Caches -/

/-- The entries, the eldest one first, are the keys that should be kept with their values. -/
structure Caches (maxSize : Nat) (history : List (Use Key Value))
    (entries : List (Key × Value)) : Prop where
  keys : (entries.map Prod.fst).reverse = kept maxSize history
  values : ∀ entry ∈ entries, lastStored entry.1 history = some entry.2

theorem caches_nil : Caches maxSize [] ([] : List (Key × Value)) where
  keys := List.take_nil.symm
  values _ member := absurd member List.not_mem_nil

end

/-- The first entry of a key is its only one. -/
theorem eraseP_eq_others {entries : List (Key × Value)} (distinct : (entries.map Prod.fst).Nodup)
    (key : Key) : entries.eraseP (fun entry => entry.1 == key) = LruCache.others entries key := by
  induction entries with
  | nil => rfl
  | cons entry entries ih =>
    rw [List.map_cons, List.nodup_cons] at distinct
    by_cases same : entry.1 = key
    · have others : ∀ other ∈ entries, decide (other.1 ≠ key) = true := by
        grind
      rw [List.eraseP_cons_of_pos (by simpa using same), LruCache.others,
        List.filter_cons_of_neg (by simpa using same)]
      exact (List.filter_eq_self.mpr others).symm
    · rw [List.eraseP_cons_of_neg (by simpa using same), LruCache.others,
        List.filter_cons_of_pos (by simpa using same), ih distinct.2]
      rfl

namespace Caches

variable {maxSize : Nat} {history : List (Use Key Value)} {entries : List (Key × Value)}
  {key : Key} {value : Value}

variable (caches : Caches maxSize history entries)
include caches

theorem distinct : (entries.map Prod.fst).Nodup := by
  have kept := kept_nodup maxSize history
  rw [← caches.keys] at kept
  grind

theorem mem_keys : key ∈ entries.map Prod.fst ↔ key ∈ kept maxSize history := by
  rw [← caches.keys, List.mem_reverse]

theorem length_le : entries.length ≤ maxSize := by
  have size := length_kept_le maxSize history
  rw [← caches.keys, List.length_reverse, List.length_map] at size
  exact size

/-- A use of a key, with the entries that are too many dropped. -/
theorem use {use : Use Key Value} (isKey : use.key = key)
    (stored : lastStored key (use :: history) = some value) : Caches maxSize (use :: history)
      ((LruCache.others entries key ++ [(key, value)]).drop
        ((LruCache.others entries key).length + 1 - maxSize)) := by
  constructor
  · have others : ((LruCache.others entries key).map Prod.fst).reverse =
        (kept maxSize history).filter (· ≠ key) := by
      rw [← caches.keys, List.filter_reverse, List.filter_map]
      rfl
    have length : ((kept maxSize history).filter (· ≠ key)).length =
        (LruCache.others entries key).length := by
      grind
    rw [kept_cons, isKey, List.map_drop, List.map_append, List.reverse_drop, List.reverse_append,
      others]
    change (key :: (kept maxSize history).filter (· ≠ key)).take _ = _
    rw [List.take_eq_take_iff, List.length_cons, length, List.length_append, List.length_map,
      List.length_map, List.length_singleton]
    omega
  · intro entry member
    rcases List.mem_append.mp (List.mem_of_mem_drop member) with old | new
    · obtain ⟨inside, differ⟩ := LruCache.mem_others.mp old
      rw [lastStored_cons_of_ne (isKey ▸ Ne.symm differ)]
      exact caches.values entry inside
    · grind

/-! ## Lookups -/

theorem find_of_kept (isKept : key ∈ kept maxSize history) :
    ∃ value, (entries.find? fun entry => entry.1 == key) = some (key, value) ∧
      lastStored key history = some value := by
  obtain ⟨⟨found, value⟩, member, rfl⟩ := List.mem_map.mp (caches.mem_keys.mpr isKept)
  cases here : entries.find? fun entry => entry.1 == found with
  | none =>
    grind
  | some entry =>
    have same : entry.1 = found := by grind
    refine ⟨entry.2, ?_, ?_⟩
    · rw [← same]
    · rw [← same]
      exact caches.values entry (List.mem_of_find?_eq_some here)

theorem find_of_not_kept (notKept : key ∉ kept maxSize history) :
    (entries.find? fun entry => entry.1 == key) = none := by
  rw [List.find?_eq_none]
  intro entry member same
  have sameKey : entry.1 = key := by simpa using same
  rw [← sameKey, ← caches.mem_keys] at notKept
  grind

theorem lruMap {find : Key → Option Value}
    (finds : ∀ key, find key = (entries.find? fun entry => entry.1 == key).map Prod.snd) :
    IsLruMap maxSize history (entries.map Prod.fst) find where
  distinct := caches.distinct
  size := by
    rw [List.length_map]
    exact caches.length_le
  present key isKept := by
    obtain ⟨value, here, stored⟩ := caches.find_of_kept isKept
    grind
  absent key notKept := by
    rw [finds, caches.find_of_not_kept notKept]
    rfl

/-! ## Operations -/

/-- A use of a key that is kept leaves the others. -/
theorem touch (isKept : key ∈ kept maxSize history) {use : Use Key Value} (isKey : use.key = key)
    (stored : lastStored key (use :: history) = some value) : Caches maxSize (use :: history)
      (entries.eraseP (fun entry => entry.1 == key) ++ [(key, value)]) := by
  have used := caches.use isKey stored
  have shorter : (LruCache.others entries key).length < entries.length := by
    obtain ⟨entry, member, same⟩ := List.mem_map.mp (caches.mem_keys.mpr isKept)
    refine List.length_filter_lt_length_iff_exists.mpr ⟨entry, member, ?_⟩
    simpa using same
  have size := caches.length_le
  rw [Nat.sub_eq_zero_of_le (by omega), List.drop_zero] at used
  rw [eraseP_eq_others caches.distinct]
  exact used

/-- A key that is not kept is added behind the others, and the eldest one may be too many. -/
theorem insert (notKept : key ∉ kept maxSize history) (value : Value) :
    Caches maxSize (.stored key value :: history)
      (if maxSize < (entries ++ [(key, value)]).length then (entries ++ [(key, value)]).drop 1
        else entries ++ [(key, value)]) := by
  have isKey : (Use.stored key value).key = key := rfl
  have used := caches.use isKey (if_pos rfl)
  have absent : LruCache.others entries key = entries := by
    refine List.filter_eq_self.mpr fun entry member => decide_eq_true fun same => ?_
    rw [← same, ← caches.mem_keys] at notKept
    grind
  have size := caches.length_le
  rw [absent] at used
  rw [List.length_append, List.length_singleton]
  split
  next tooMany =>
    grind
  next fits =>
    rw [Nat.sub_eq_zero_of_le (by omega), List.drop_zero] at used
    exact used

/-! ## Additions -/

/-- The keys that an addition leaves. -/
theorem dropsEldest (positive : 0 < maxSize) {after : List (Key × Value)}
    (added : Caches maxSize (.stored key value :: history) after) :
    DropsEldest maxSize history (entries.map Prod.fst) key (after.map Prod.fst) := by
  have length : (entries.map Prod.fst).length = (kept maxSize history).length := by
    rw [← caches.keys, List.length_reverse]
  have more : ∀ other, other ∈ after.map Prod.fst ↔
      other ∈ (key :: (kept maxSize history).filter (· ≠ key)).take maxSize := by
    intro other
    rw [added.mem_keys, kept_cons]
    rfl
  constructor
  · intro absent full
    rw [caches.mem_keys] at absent
    rw [length] at full
    have all : (kept maxSize history).filter (· ≠ key) = kept maxSize history := by
      refine List.filter_eq_self.mpr fun other member => decide_eq_true fun same => absent ?_
      grind
    have distinct := kept_nodup maxSize history
    simp only [more, all, caches.mem_keys]
    rcases List.eq_nil_or_concat' (kept maxSize history) with none | ⟨newer, eldest, keys⟩
    · grind
    · refine ⟨eldest, by grind, fun other => ?_⟩
      rw [keys] at full distinct
      rw [List.length_append, List.length_singleton] at full
      rw [keys, ← full, List.take_succ_cons, List.take_left, List.mem_cons]
      have last : eldest ∉ newer := fun member =>
        (List.nodup_append.mp distinct).2.2 eldest member eldest (List.mem_singleton_self _) rfl
      refine or_congr_right ⟨fun member => ?_, fun ⟨member, differ⟩ => ?_⟩
      · grind
      · exact (List.mem_append.mp member).resolve_right fun same =>
          differ (List.mem_singleton.mp same)
  · intro fits other
    have short : ((kept maxSize history).filter (· ≠ key)).length + 1 ≤ maxSize := by
      rcases fits with present | less
      · rw [caches.mem_keys] at present
        refine Nat.lt_of_lt_of_le ?_ (length_kept_le maxSize history)
        exact List.length_filter_lt_length_iff_exists.mpr ⟨key, present, by simp⟩
      · grind
    rw [more, List.take_of_length_le short, List.mem_cons, List.mem_filter, caches.mem_keys]
    grind

end Caches

end RecentUse

end PcapdroidFormal.Foundation
