import Mathlib.Data.List.Nodup
import Mathlib.Data.List.Pairwise

/-!
# Tables searched in both directions

The key of an entry names two peers, and `swap` exchanges them.  A table is searched for
a key and then for the swapped one, so it has one entry for both directions.
-/

namespace PcapdroidFormal.Foundation

variable {Entry Key Id : Type} {key : Entry → Key} {swap : Key → Key} {entries : List Entry}

/-- No two entries have the same key, in one direction or the other. -/
def UniqueUpTo (key : Entry → Key) (swap : Key → Key) (entries : List Entry) : Prop :=
  entries.Pairwise fun entry other => key entry ≠ key other ∧ key entry ≠ swap (key other)

namespace UniqueUpTo

theorem append {new : Entry} (unique : UniqueUpTo key swap entries)
    (absent : ∀ entry ∈ entries, key entry ≠ key new ∧ key entry ≠ swap (key new)) :
    UniqueUpTo key swap (entries ++ [new]) := by
  refine List.pairwise_append.mpr ⟨unique, List.pairwise_singleton _ _, ?_⟩
  grind

theorem sublist {fewer : List Entry} (unique : UniqueUpTo key swap entries)
    (included : fewer.Sublist entries) : UniqueUpTo key swap fewer :=
  List.Pairwise.sublist included unique

/-- Two entries for the directions of one key are the same. -/
theorem eq_of_mem (involutive : Function.Involutive swap) (unique : UniqueUpTo key swap entries)
    {entry other : Entry} (member : entry ∈ entries) (also : other ∈ entries)
    (related : key entry = key other ∨ key entry = swap (key other)) : entry = other := by
  have symmetric : Std.Symm fun entry other : Entry =>
      key entry ≠ key other ∧ key entry ≠ swap (key other) := by
    refine ⟨fun entry other apart => ⟨apart.1.symm, fun same => apart.2 ?_⟩⟩
    rw [same, involutive]
  by_contra different
  obtain ⟨notSame, notSwapped⟩ := unique.forall member also different
  grind

end UniqueUpTo

/-- An entry and those with other ids. -/
theorem perm_cons_filter [DecidableEq Id] {id : Entry → Id} (distinct : (entries.map id).Nodup)
    {entry : Entry} (member : entry ∈ entries) :
    entries.Perm (entry :: entries.filter fun other => id other != id entry) := by
  induction entries with
  | nil => cases member
  | cons head tail ih =>
    rw [List.map_cons, List.nodup_cons] at distinct
    have others {entry : Entry} (inside : entry ∈ tail) : id head ≠ id entry := fun same =>
      distinct.1 (same ▸ List.mem_map_of_mem inside)
    rcases List.mem_cons.mp member with rfl | inside
    · have kept : tail.filter (fun other => id other != id entry) = tail :=
        List.filter_eq_self.mpr fun other inside => bne_iff_ne.mpr (others inside).symm
      rw [List.filter_cons_of_neg (by simp), kept]
    · have stays : (id head != id entry) = true := bne_iff_ne.mpr (others inside)
      rw [List.filter_cons, if_pos stays]
      exact ((ih distinct.2 inside).cons head).trans (.swap entry head _)

end PcapdroidFormal.Foundation
