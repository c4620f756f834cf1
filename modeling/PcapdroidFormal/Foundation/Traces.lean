import Mathlib.Data.List.Induction

/-!
# Rules for traces

A rule says which event may follow a given past.  A trace obeys a rule if each of
its events may follow the events before it.
-/

namespace PcapdroidFormal.Foundation

variable {Event : Type} {rule : List Event → Event → Prop} {trace : List Event} {event : Event}

/-- Each event of the trace may follow its past. -/
def Obeys (rule : List Event → Event → Prop) (trace : List Event) : Prop :=
  ∀ past event future, trace = past ++ event :: future → rule past event

theorem obeys_nil : Obeys rule [] := by
  intro past event future split
  simp at split

variable (obeys : Obeys rule trace)
include obeys

theorem Obeys.snoc {last : Event} (allowed : rule trace last) : Obeys rule (trace ++ [last]) := by
  intro past event future split
  rcases List.eq_nil_or_concat future with rfl | ⟨between, final, rfl⟩
  · obtain ⟨rfl, same⟩ := List.append_inj' split rfl
    grind
  · have longer : trace ++ [last] = (past ++ event :: between) ++ [final] := by
      simpa using split
    exact obeys past event between (List.append_inj' longer rfl).1

/-- A rule for an event that occurs. -/
theorem Obeys.of_mem (member : event ∈ trace) :
    ∃ past future, trace = past ++ event :: future ∧ rule past event := by
  obtain ⟨past, future, split⟩ := List.append_of_mem member
  exact ⟨past, future, split, obeys past event future split⟩

/-- An event that may not follow itself occurs at most once. -/
theorem Obeys.count_eq_one [DecidableEq Event] (once : ∀ past, rule past event → event ∉ past)
    (member : event ∈ trace) : trace.count event = 1 := by
  induction trace using List.reverseRecOn with
  | nil => grind
  | append_singleton trace last ih =>
    have shorter : Obeys rule trace := fun past other future split =>
      obeys past other (future ++ [last]) (by grind)
    rw [List.count_append, List.count_singleton]
    by_cases same : last = event
    · subst same
      have fresh := once trace (obeys trace last [] rfl)
      grind
    · grind

end PcapdroidFormal.Foundation
