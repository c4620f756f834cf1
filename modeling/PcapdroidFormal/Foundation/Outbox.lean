import Mathlib.Data.List.Basic

/-!
# Two queues, one of which goes out first

Marks and items are collected in two queues and written in batches.  An item is
stamped with the marks that were accepted before it.  If the items only go out
when the marks they are stamped with are out, every item is written behind its
marks, whatever was accepted in the meantime.
-/

namespace PcapdroidFormal.Foundation

/-- An item, with the marks accepted before it came. -/
structure Stamped (μ ι : Type*) where
  item : ι
  before : List μ
  deriving DecidableEq, Repr

/-- What is written at once; marks that are not kept are given up instead. -/
inductive Batch (μ ι : Type*) where
  | marks (kept : Bool) (group : List μ)
  | items (written : List (Stamped μ ι))
  deriving DecidableEq, Repr

variable {μ ι : Type*}

def Batch.markList : Batch μ ι → List μ
  | .marks _ group => group
  | .items _ => []

def Batch.itemList : Batch μ ι → List (Stamped μ ι)
  | .marks _ _ => []
  | .items written => written

def marksOf (batches : List (Batch μ ι)) : List μ := batches.flatMap Batch.markList

def itemsOf (batches : List (Batch μ ι)) : List (Stamped μ ι) := batches.flatMap Batch.itemList

@[simp] theorem marksOf_append (first second : List (Batch μ ι)) :
    marksOf (first ++ second) = marksOf first ++ marksOf second := List.flatMap_append

@[simp] theorem marksOf_singleton (batch : Batch μ ι) : marksOf [batch] = batch.markList :=
  List.flatMap_singleton _ batch

@[simp] theorem itemsOf_append (first second : List (Batch μ ι)) :
    itemsOf (first ++ second) = itemsOf first ++ itemsOf second := List.flatMap_append

@[simp] theorem itemsOf_singleton (batch : Batch μ ι) : itemsOf [batch] = batch.itemList :=
  List.flatMap_singleton _ batch

/-- Every item is written behind the marks it is stamped with. -/
inductive Ordered : List (Batch μ ι) → Prop
  | nil : Ordered []
  | marks {batches : List (Batch μ ι)} (earlier : Ordered batches) (kept : Bool)
      (marks : List μ) : Ordered (batches ++ [.marks kept marks])
  | items {batches : List (Batch μ ι)} (earlier : Ordered batches)
      {written : List (Stamped μ ι)}
      (behind : ∀ stamped ∈ written, stamped.before <+: marksOf batches) :
      Ordered (batches ++ [.items written])

/-- A batch of items in the middle of `batches ++ [last]` is in `batches`, or it is the last. -/
theorem split_snoc {batches earlier later : List (Batch μ ι)} {batch last : Batch μ ι}
    (split : batches ++ [last] = earlier ++ batch :: later) :
    (∃ middle, later = middle ++ [last] ∧ batches = earlier ++ batch :: middle) ∨
      (later = [] ∧ batch = last ∧ batches = earlier) := by
  rcases List.eq_nil_or_concat later with rfl | ⟨middle, final, rfl⟩
  · obtain ⟨same, only⟩ := List.append_inj' split rfl
    grind
  · rw [List.concat_eq_append, ← List.cons_append, ← List.append_assoc] at split
    obtain ⟨same, only⟩ := List.append_inj' split rfl
    grind

theorem Ordered.behind {batches : List (Batch μ ι)} (ordered : Ordered batches)
    {earlier later : List (Batch μ ι)} {written : List (Stamped μ ι)}
    (split : batches = earlier ++ .items written :: later) {stamped : Stamped μ ι}
    (member : stamped ∈ written) : stamped.before <+: marksOf earlier := by
  induction ordered generalizing later with
  | nil => exact absurd split.symm (List.append_ne_nil_of_right_ne_nil _ (List.cons_ne_nil _ _))
  | marks _ kept marks ih =>
    obtain ⟨middle, _, inside⟩ | ⟨_, other, _⟩ := split_snoc split
    · exact ih inside
    · cases other
  | items _ follow ih =>
    obtain ⟨middle, _, inside⟩ | ⟨_, same, whole⟩ := split_snoc split
    · exact ih inside
    · grind

/-- The batches written so far and the two queues. -/
structure Outbox (μ ι : Type*) where
  written : List (Batch μ ι)
  pending : List μ
  buffered : List (Stamped μ ι)

namespace Outbox

variable (outbox : Outbox μ ι)

def accept (mark : μ) : Outbox μ ι := { outbox with pending := outbox.pending ++ [mark] }

def buffer (stamped : Stamped μ ι) : Outbox μ ι :=
  { outbox with buffered := outbox.buffered ++ [stamped] }

def writeMarks (kept : Bool) : Outbox μ ι :=
  ⟨outbox.written ++ [.marks kept outbox.pending], [], outbox.buffered⟩

def writeItems : Outbox μ ι := ⟨outbox.written ++ [.items outbox.buffered], outbox.pending, []⟩

/-- The marks of the buffered items are out, so the items may follow. -/
def Cleared : Prop := ∀ stamped ∈ outbox.buffered, stamped.before <+: marksOf outbox.written

/-- `accepted` and `stored` are what was put into the queues so far. -/
structure Sound (accepted : List μ) (stored : List (Stamped μ ι)) : Prop where
  ordered : Ordered outbox.written
  marks : marksOf outbox.written ++ outbox.pending = accepted
  items : itemsOf outbox.written ++ outbox.buffered = stored
  due : ∀ stamped ∈ outbox.buffered, stamped.before <+: accepted

variable {outbox} {accepted : List μ} {stored : List (Stamped μ ι)}

theorem Sound.empty : Sound (⟨[], [], []⟩ : Outbox μ ι) [] [] where
  ordered := .nil
  marks := rfl
  items := rfl
  due := List.forall_mem_nil _

variable (sound : outbox.Sound accepted stored)
include sound

/-- Nothing is pending, so all that was accepted is out. -/
theorem Sound.cleared (none : outbox.pending = []) : outbox.Cleared := by
  intro stamped member
  have marks := sound.marks
  rw [none, List.append_nil] at marks
  rw [marks]
  exact sound.due stamped member

theorem Sound.accept (mark : μ) : (outbox.accept mark).Sound (accepted ++ [mark]) stored where
  ordered := sound.ordered
  marks := by
    rw [← sound.marks, List.append_assoc]
    rfl
  items := sound.items
  due stamped member := (sound.due stamped member).trans (List.prefix_append accepted [mark])

theorem Sound.buffer {stamped : Stamped μ ι} (due : stamped.before <+: accepted) :
    (outbox.buffer stamped).Sound accepted (stored ++ [stamped]) where
  ordered := sound.ordered
  marks := sound.marks
  items := by
    rw [← sound.items, List.append_assoc]
    rfl
  due other member := by
    rcases List.mem_append.mp member with old | new
    · exact sound.due other old
    · grind

theorem Sound.writeMarks (kept : Bool) : (outbox.writeMarks kept).Sound accepted stored where
  ordered := sound.ordered.marks kept outbox.pending
  marks := by
    rw [← sound.marks, Outbox.writeMarks, marksOf_append, marksOf_singleton, List.append_nil]
    rfl
  items := by
    rw [← sound.items, Outbox.writeMarks, itemsOf_append, itemsOf_singleton]
    exact congrArg (· ++ outbox.buffered) (List.append_nil _)
  due := sound.due

theorem Sound.writeItems (cleared : outbox.Cleared) : outbox.writeItems.Sound accepted stored where
  ordered := sound.ordered.items cleared
  marks := by
    rw [← sound.marks, Outbox.writeItems, marksOf_append, marksOf_singleton]
    exact congrArg (· ++ outbox.pending) (List.append_nil _)
  items := by
    rw [← sound.items, Outbox.writeItems, itemsOf_append, itemsOf_singleton, List.append_nil]
    rfl
  due := List.forall_mem_nil _

end Outbox

end PcapdroidFormal.Foundation
