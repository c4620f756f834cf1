import Mathlib.Data.List.Nodup
import Mathlib.Data.List.Perm.Basic

/-!
# Resources with two owners

Resources are created, registered in a table, put into a queue of pending work
and released.  A resource that is registered or waiting must not be released,
one that is neither must have been.  During an operation its caller may hold a
resource that has no other owner.
-/

namespace PcapdroidFormal.Foundation

variable {Resource : Type}

/-- The owners of the resources, and what has been released, in order. -/
structure Holdings (Resource : Type) where
  registered : List Resource
  waiting : List Resource
  released : List Resource

/-- Each created resource has an owner or has been released once. -/
structure Custody (created : Resource → Prop) (held : List Resource)
    (holdings : Holdings Resource) : Prop where
  registered_nodup : holdings.registered.Nodup
  waiting_nodup : holdings.waiting.Nodup
  released_nodup : holdings.released.Nodup
  registered_live : ∀ id ∈ holdings.registered, created id ∧ id ∉ holdings.released
  waiting_live : ∀ id ∈ holdings.waiting, created id ∧ id ∉ holdings.released
  held_live : ∀ id ∈ held, created id ∧ id ∉ holdings.released
  released_created : ∀ id ∈ holdings.released, created id
  covered : ∀ id, created id →
    id ∈ holdings.registered ∨ id ∈ holdings.waiting ∨ id ∈ holdings.released ∨ id ∈ held

namespace Custody

variable {created : Resource → Prop} {held : List Resource} {holdings : Holdings Resource}
  {id : Resource}

/-- Nothing has been created. -/
theorem empty (none : ∀ id, ¬created id) : Custody created [] ⟨[], [], []⟩ where
  registered_nodup := List.nodup_nil
  waiting_nodup := List.nodup_nil
  released_nodup := List.nodup_nil
  registered_live := List.forall_mem_nil _
  waiting_live := List.forall_mem_nil _
  held_live := List.forall_mem_nil _
  released_created := List.forall_mem_nil _
  covered id exists_ := absurd exists_ (none id)

/-- The caller takes hold of a live resource. -/
theorem hold (custody : Custody created [] holdings) (known : created id)
    (live : id ∉ holdings.released) : Custody created [id] holdings where
  registered_nodup := custody.registered_nodup
  waiting_nodup := custody.waiting_nodup
  released_nodup := custody.released_nodup
  registered_live := custody.registered_live
  waiting_live := custody.waiting_live
  held_live other member := by
    grind
  released_created := custody.released_created
  covered other known := by
    rcases custody.covered other known with registered | waiting | released | impossible
    · exact .inl registered
    · exact .inr (.inl waiting)
    · exact .inr (.inr (.inl released))
    · cases impossible

/-- The caller lets go of a resource that has another owner. -/
theorem letGo (custody : Custody created [id] holdings)
    (owned : id ∈ holdings.registered ∨ id ∈ holdings.waiting ∨ id ∈ holdings.released) :
    Custody created [] holdings where
  registered_nodup := custody.registered_nodup
  waiting_nodup := custody.waiting_nodup
  released_nodup := custody.released_nodup
  registered_live := custody.registered_live
  waiting_live := custody.waiting_live
  held_live := List.forall_mem_nil _
  released_created := custody.released_created
  covered other known := by
    rcases custody.covered other known with registered | waiting | released | same
    · exact .inl registered
    · exact .inr (.inl waiting)
    · exact .inr (.inr (.inl released))
    · grind

/-- A resource is created and held by its creator. -/
theorem create {more : Resource → Prop} (custody : Custody created [] holdings)
    (grown : ∀ other, more other ↔ created other ∨ other = id) (fresh : ¬created id) :
    Custody more [id] holdings where
  registered_nodup := custody.registered_nodup
  waiting_nodup := custody.waiting_nodup
  released_nodup := custody.released_nodup
  registered_live other member :=
    ⟨(grown other).mpr (.inl (custody.registered_live other member).1),
      (custody.registered_live other member).2⟩
  waiting_live other member :=
    ⟨(grown other).mpr (.inl (custody.waiting_live other member).1),
      (custody.waiting_live other member).2⟩
  held_live other member := by
    rw [List.mem_singleton] at member
    subst member
    exact ⟨(grown other).mpr (.inr rfl), mt (custody.released_created other) fresh⟩
  released_created other member := (grown other).mpr (.inl (custody.released_created other member))
  covered other known := by
    rcases (grown other).mp known with known | rfl
    · rcases custody.covered other known with registered | waiting | released | impossible
      · exact .inl registered
      · exact .inr (.inl waiting)
      · exact .inr (.inr (.inl released))
      · cases impossible
    · grind

/-- A live resource that does not wait yet is queued. -/
theorem enqueue {waiting : List Resource} (custody : Custody created held holdings)
    (queued : waiting.Perm (id :: holdings.waiting)) (known : created id)
    (live : id ∉ holdings.released) (idle : id ∉ holdings.waiting) :
    Custody created held { holdings with waiting := waiting } where
  registered_nodup := custody.registered_nodup
  waiting_nodup := queued.nodup_iff.mpr (List.nodup_cons.mpr ⟨idle, custody.waiting_nodup⟩)
  released_nodup := custody.released_nodup
  registered_live := custody.registered_live
  waiting_live other member := by
    rcases List.mem_cons.mp (queued.mem_iff.mp member) with rfl | before
    · exact ⟨known, live⟩
    · exact custody.waiting_live other before
  held_live := custody.held_live
  released_created := custody.released_created
  covered other known := by
    rcases custody.covered other known with registered | before | rest
    · exact .inl registered
    · grind
    · exact .inr (.inr rest)

section

variable (custody : Custody created [id] holdings)
include custody

/-- A held resource is registered. -/
theorem register (absent : id ∉ holdings.registered) :
    Custody created [id] { holdings with registered := holdings.registered ++ [id] } where
  registered_nodup :=
    List.nodup_append_comm.mp (List.nodup_cons.mpr ⟨absent, custody.registered_nodup⟩)
  waiting_nodup := custody.waiting_nodup
  released_nodup := custody.released_nodup
  registered_live other member := by
    rcases List.mem_append.mp member with before | own
    · exact custody.registered_live other before
    · exact custody.held_live other own
  waiting_live := custody.waiting_live
  held_live := custody.held_live
  released_created := custody.released_created
  covered other known := by
    rcases custody.covered other known with registered | rest
    · grind
    · exact .inr rest

/-- A held resource leaves the table. -/
theorem unregister {registered : List Resource} (shrunk : registered.Sublist holdings.registered)
    (others : ∀ other ∈ holdings.registered, other ≠ id → other ∈ registered) :
    Custody created [id] { holdings with registered := registered } where
  registered_nodup := custody.registered_nodup.sublist shrunk
  waiting_nodup := custody.waiting_nodup
  released_nodup := custody.released_nodup
  registered_live other member := custody.registered_live other (shrunk.subset member)
  waiting_live := custody.waiting_live
  held_live := custody.held_live
  released_created := custody.released_created
  covered other known := by
    rcases custody.covered other known with before | rest
    · grind
    · exact .inr rest

/-- A held resource without another owner is released. -/
theorem release (unregistered : id ∉ holdings.registered) (idle : id ∉ holdings.waiting) :
    Custody created [] { holdings with released := holdings.released ++ [id] } := by
  have live := custody.held_live id (List.mem_singleton_self id)
  refine ⟨custody.registered_nodup, custody.waiting_nodup, ?_, ?_, ?_, List.forall_mem_nil _, ?_, ?_⟩
  · exact List.nodup_append_comm.mp (List.nodup_cons.mpr ⟨live.2, custody.released_nodup⟩)
  · intro other member
    refine ⟨(custody.registered_live other member).1, ?_⟩
    rw [List.mem_append, not_or, List.mem_singleton]
    exact ⟨(custody.registered_live other member).2,
      fun same => unregistered (same ▸ member)⟩
  · intro other member
    refine ⟨(custody.waiting_live other member).1, ?_⟩
    rw [List.mem_append, not_or, List.mem_singleton]
    exact ⟨(custody.waiting_live other member).2, fun same => idle (same ▸ member)⟩
  · intro other member
    rcases List.mem_append.mp member with before | own
    · exact custody.released_created other before
    · exact (custody.held_live other own).1
  · intro other known
    rcases custody.covered other known with registered | waiting | released | own
    · exact .inl registered
    · exact .inr (.inl waiting)
    · grind
    · grind

end

/-- The queue is cleared: what is registered stays, the rest of it is released. -/
theorem clear {purged : Resource → Bool} (custody : Custody created [] holdings)
    (kept : ∀ id ∈ holdings.registered, id ∈ holdings.waiting → purged id = false)
    (lost : ∀ id ∈ holdings.waiting, id ∉ holdings.registered → purged id = true) :
    Custody created []
      ⟨holdings.registered, [], holdings.released ++ holdings.waiting.filter purged⟩ := by
  refine ⟨custody.registered_nodup, List.nodup_nil, ?_, ?_, List.forall_mem_nil _,
    List.forall_mem_nil _, ?_, ?_⟩
  · refine List.nodup_append'.mpr
      ⟨custody.released_nodup, custody.waiting_nodup.filter purged, ?_⟩
    intro id released waiting
    exact (custody.waiting_live id (List.mem_of_mem_filter waiting)).2 released
  · intro id member
    refine ⟨(custody.registered_live id member).1, ?_⟩
    rw [List.mem_append, not_or, List.mem_filter]
    refine ⟨(custody.registered_live id member).2, ?_⟩
    grind
  · intro id member
    rcases List.mem_append.mp member with before | waiting
    · exact custody.released_created id before
    · exact (custody.waiting_live id (List.mem_of_mem_filter waiting)).1
  · intro id known
    rcases custody.covered id known with registered | waiting | released | impossible
    · exact .inl registered
    · grind
    · grind
    · cases impossible

end Custody

end PcapdroidFormal.Foundation
