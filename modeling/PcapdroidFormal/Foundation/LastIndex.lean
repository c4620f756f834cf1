/-!
# The last occurrence of an item

A list is cut at the last occurrence of an item into what stands before it and
a rest without the item.
-/

namespace PcapdroidFormal.Foundation

variable {Item : Type} [DecidableEq Item] {items : List Item} {item : Item}

/-- The position of the last occurrence of an item. -/
def lastIndexOf (item : Item) : List Item → Option Nat
  | [] => none
  | first :: rest =>
    match lastIndexOf item rest with
    | some index => some (index + 1)
    | none => if first = item then some 0 else none

theorem lastIndexOf_eq_none (absent : item ∉ items) :
    lastIndexOf item items = none := by
  induction items with
  | nil => rfl
  | cons first rest ih =>
    rw [List.mem_cons, not_or] at absent
    rw [lastIndexOf, ih absent.2]
    exact if_neg (Ne.symm absent.1)

theorem lastIndexOf_append (front : List Item) {rest : List Item}
    (absent : item ∉ rest) : lastIndexOf item (front ++ item :: rest) = some front.length := by
  induction front with
  | nil =>
    rw [List.nil_append, lastIndexOf, lastIndexOf_eq_none absent]
    exact if_pos rfl
  | cons first front ih => rw [List.cons_append, lastIndexOf, ih, List.length_cons]

theorem exists_last_split (present : item ∈ items) :
    ∃ front rest, items = front ++ item :: rest ∧ item ∉ rest := by
  induction items with
  | nil => cases present
  | cons first items ih =>
    by_cases later : item ∈ items
    · grind
    · rcases List.mem_cons.mp present with rfl | member
      · exact ⟨[], items, rfl, later⟩
      · exact absurd member later

/-- A list has no occurrence or is cut at the last one. -/
theorem lastIndexOf_cases (item : Item) (items : List Item) :
    (lastIndexOf item items = none ∧ item ∉ items) ∨
      ∃ front rest, items = front ++ item :: rest ∧ item ∉ rest ∧
        lastIndexOf item items = some front.length := by
  by_cases present : item ∈ items
  · obtain ⟨front, rest, rfl, absent⟩ := exists_last_split present
    exact .inr ⟨front, rest, rfl, absent, lastIndexOf_append front absent⟩
  · exact .inl ⟨lastIndexOf_eq_none present, present⟩

end PcapdroidFormal.Foundation
