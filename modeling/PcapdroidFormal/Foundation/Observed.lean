import Mathlib.Data.List.Chain

/-!
# Observed variables

A variable with ordered values is observed from time to time.  An observation
may itself assign the variable, and then shows both the value it finds and the
value it leaves.  The variable is steady if its value goes down in no other
way, that is, never between two observations and never since the last one.
-/

namespace PcapdroidFormal.Foundation

structure Observation (Value : Type) where
  found : Value
  left : Value
  deriving DecidableEq, Repr

variable {Value : Type} [Preorder Value] {log : List (Observation Value)}

/-- Every value is found at or above where the observation before has left it. -/
def Steady (log : List (Observation Value)) (now : Value) : Prop :=
  List.IsChain (fun earlier later => earlier.left ≤ later.found) (log ++ [⟨now, now⟩])

theorem steady_nil (now : Value) : Steady [] now := List.IsChain.singleton _

theorem Steady.raise {now later : Value} (steady : Steady log now) (up : now ≤ later) :
    Steady log later := by
  obtain ⟨chain, _, last⟩ := List.isChain_append.mp steady
  refine List.isChain_append.mpr ⟨chain, .singleton _, ?_⟩
  intro earlier isLast observed isHead
  obtain rfl : ⟨later, later⟩ = observed := Option.some.inj isHead
  exact le_trans (last earlier isLast ⟨now, now⟩ rfl) up

/-- An observation finds the current value and leaves any other. -/
theorem Steady.assign {now : Value} (steady : Steady log now) (value : Value) :
    Steady (log ++ [⟨now, value⟩]) value := by
  obtain ⟨chain, _, last⟩ := List.isChain_append.mp steady
  unfold Steady
  rw [List.append_assoc]
  refine List.isChain_append_cons_cons.mpr ⟨?_, le_refl value, .singleton _⟩
  refine List.isChain_append.mpr ⟨chain, .singleton _, ?_⟩
  intro earlier isLast observed isHead
  obtain rfl : ⟨now, value⟩ = observed := Option.some.inj isHead
  exact last earlier isLast ⟨now, now⟩ rfl

end PcapdroidFormal.Foundation
