import PcapdroidFormal.Foundation.Runs

/-!
# A mailbox with one slot

A sender leaves values in a slot that a receiver empties from time to time.  A
full slot refuses further values.  Seen from outside, the mailbox has a value
that will be in force once the slot is emptied.
-/

namespace PcapdroidFormal.Foundation

variable {Value : Type}

/-- Whether the slot is full, and the value in force once it is emptied. -/
structure Mailbox (Value : Type) where
  full : Bool
  inForce : Option Value

inductive MailboxEvent (Value : Type) where
  /-- A value that takes the slot, or none, which is in force at once. -/
  | send (value : Option Value)
  | collect
  | wait

namespace Mailbox

def step (mailbox : Mailbox Value) : MailboxEvent Value → Mailbox Value
  | .send value => if mailbox.full then mailbox else ⟨value.isSome, value⟩
  | .collect => ⟨false, mailbox.inForce⟩
  | .wait => mailbox

def Quiet : MailboxEvent Value → Prop
  | .send _ => False
  | .collect => True
  | .wait => True

variable (mailbox : Mailbox Value) (value : Option Value) (events : List (MailboxEvent Value))

theorem step_inForce_of_quiet {event : MailboxEvent Value}
    (quiet : Quiet event) : (mailbox.step event).inForce = mailbox.inForce := by
  cases event with
  | send value => exact quiet.elim
  | collect => rfl
  | wait => rfl

variable (quiet : ∀ event ∈ events, Quiet event)
include quiet

theorem run_inForce_of_quiet : (run step mailbox events).inForce = mailbox.inForce := by
  induction events generalizing mailbox with
  | nil => rfl
  | cons event events ih =>
    obtain ⟨first, rest⟩ := List.forall_mem_cons.mp quiet
    rw [run_cons, ih (mailbox.step event) rest, step_inForce_of_quiet mailbox first]

/-- The last value sent is in force exactly if the slot was empty, or if the value
that it refuses is the one already in force. -/
theorem last_send_inForce_iff : (run step mailbox (.send value :: events)).inForce = value ↔
      mailbox.full = false ∨ mailbox.inForce = value := by
  rw [run_cons, run_inForce_of_quiet _ events quiet]
  cases full : mailbox.full with
  | true => simp [step, full]
  | false => simp [step, full]

end Mailbox

end PcapdroidFormal.Foundation
