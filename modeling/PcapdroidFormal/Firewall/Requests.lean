import PcapdroidFormal.Firewall.Recheck
import PcapdroidFormal.Foundation.Mailbox

/-!
# Requested lists

The user interface requests lists that `pd_housekeeping` installs.  Each kind of
list has a slot of its own, and a request that finds it full is lost: the native
function reports it and its caller ignores the result.
-/

namespace PcapdroidFormal.Firewall

open PcapdroidFormal.Core Foundation

inductive ListKind where
  | blocklist
  | firewallWhitelist
  | malwareWhitelist
  | decryptionList
  deriving DecidableEq, Repr

/-- A request of `CaptureService`; whitelist mode is turned off by requesting no list. -/
inductive ListRequest where
  | blocklist (list : Blacklist)
  | firewallWhitelist (list : Option Blacklist)
  | malwareWhitelist (list : Blacklist)
  | decryptionList (list : Blacklist)

namespace ListRequest

def kind : ListRequest → ListKind
  | blocklist _ => .blocklist
  | firewallWhitelist _ => .firewallWhitelist
  | malwareWhitelist _ => .malwareWhitelist
  | decryptionList _ => .decryptionList

def list : ListRequest → Option Blacklist
  | blocklist list => some list
  | firewallWhitelist list => list
  | malwareWhitelist list => some list
  | decryptionList list => some list

/-- The reload functions of `CaptureService`, which ignore the native result. -/
def send (pd : Pcapdroid) : ListRequest → Pcapdroid
  | blocklist list => (reloadBlocklist pd list).1
  | firewallWhitelist list => (reloadFirewallWhitelist pd list).1
  | malwareWhitelist list => (reloadMalwareWhitelist pd list).1
  | decryptionList list => (reloadDecryptionList pd list).1

end ListRequest

namespace ListKind

/-- The list waiting to be installed. -/
def slot (pd : Pcapdroid) : ListKind → Option Blacklist
  | blocklist => pd.firewall.newBl
  | firewallWhitelist => pd.firewall.newWl
  | malwareWhitelist => pd.malwareDetection.newWl
  | decryptionList => pd.tlsDecryption.newList

def installed (pd : Pcapdroid) : ListKind → Option Blacklist
  | blocklist => pd.firewall.bl
  | firewallWhitelist => if pd.firewall.wlEnabled then pd.firewall.wl else none
  | malwareWhitelist => pd.malwareDetection.whitelist
  | decryptionList => pd.tlsDecryption.list

def enabled (pd : Pcapdroid) : ListKind → Bool
  | blocklist => pd.vpnCapture
  | firewallWhitelist => pd.vpnCapture
  | malwareWhitelist => pd.malwareDetection.enabled
  | decryptionList => pd.tlsDecryption.enabled

/-- The slot and the installed list as a mailbox. -/
def mailbox (kind : ListKind) (pd : Pcapdroid) : Mailbox Blacklist :=
  ⟨(kind.slot pd).isSome, (kind.slot pd).or (kind.installed pd)⟩

end ListKind

inductive ListEvent where
  | request (request : ListRequest)
  | housekeeping (exported : Bool)

def listStep (platform : Platform) (pd : Pcapdroid) : ListEvent → Pcapdroid
  | .request request => request.send pd
  | .housekeeping exported => pdHousekeeping platform exported pd

def mailboxEvent (kind : ListKind) (pd : Pcapdroid) : ListEvent → MailboxEvent Blacklist
  | .request request => if request.kind = kind then .send request.list else .wait
  | .housekeeping _ =>
    if kind = .firewallWhitelist ∧ pd.firewall.newBl.isSome then .wait else .collect

/-- The kind is in use, and whitelist mode is on while a whitelist waits. -/
structure Serving (kind : ListKind) (pd : Pcapdroid) : Prop where
  enabled : kind.enabled pd = true
  mode : pd.firewall.newWl.isSome = true → pd.firewall.wlEnabled = true

/-! ## Requests -/

/-- The state after a request that found its slot empty. -/
def ListRequest.accepted (pd : Pcapdroid) : ListRequest → Pcapdroid
  | blocklist list => pd.setFirewall { pd.firewall with newBl := some list }
  | firewallWhitelist list =>
    pd.setFirewall { pd.firewall with newWl := list, wlEnabled := list.isSome }
  | malwareWhitelist list =>
    pd.setMalwareDetection { pd.malwareDetection with newWl := some list }
  | decryptionList list => pd.setTlsDecryption { pd.tlsDecryption with newList := some list }

variable {kind : ListKind} {pd : Pcapdroid}

section Requests

variable {pd : Pcapdroid} (request : ListRequest)

/-- A request is lost if its kind is not in use or its slot is full. -/
theorem send_of_refused
    (refused : (!request.kind.enabled pd || (request.kind.slot pd).isSome) = true) :
    request.send pd = pd := by
  cases request with
  | blocklist list => exact congrArg Prod.fst (if_pos refused)
  | firewallWhitelist list =>
    have kept : requestFirewallWhitelist pd list = (pd, false) := if_pos refused
    simp [ListRequest.send, reloadFirewallWhitelist, kept]
  | malwareWhitelist list => exact congrArg Prod.fst (if_pos refused)
  | decryptionList list => exact congrArg Prod.fst (if_pos refused)

theorem send_of_free (enabled : request.kind.enabled pd = true)
    (free : request.kind.slot pd = none) : request.send pd = request.accepted pd := by
  have taken : ¬ (!request.kind.enabled pd || (request.kind.slot pd).isSome) = true := by
    grind
  cases request with
  | blocklist list => exact congrArg Prod.fst (if_neg taken)
  | firewallWhitelist list =>
    have requested : requestFirewallWhitelist pd list = _ := if_neg taken
    simp only [ListRequest.send, reloadFirewallWhitelist, requested]
    cases list with
    | none =>
      exact congrArg
        (fun slot => pd.setFirewall { pd.firewall with newWl := slot, wlEnabled := false }) free
    | some wl => rfl
  | malwareWhitelist list => exact congrArg Prod.fst (if_neg taken)
  | decryptionList list => exact congrArg Prod.fst (if_neg taken)

theorem send_cases (pd : Pcapdroid) :
    request.send pd = pd ∨ request.send pd = request.accepted pd := by
  cases enabled : request.kind.enabled pd with
  | false => exact .inl (send_of_refused request (by rw [enabled]; rfl))
  | true =>
    cases slot : request.kind.slot pd with
    | none => exact .inr (send_of_free request enabled slot)
    | some list => exact .inl (send_of_refused request (by grind))

/-- A request leaves the mailboxes of the other kinds alone. -/
theorem accepted_mailbox_other (other : request.kind ≠ kind) :
    kind.mailbox (request.accepted pd) = kind.mailbox pd := by
  cases request <;> cases kind <;> first | rfl | exact absurd rfl other

theorem accepted_mailbox_own :
    request.kind.mailbox (request.accepted pd) = ⟨request.list.isSome, request.list⟩ := by
  cases request with
  | blocklist list => rfl
  | firewallWhitelist list =>
    cases list with
    | none => rfl
    | some wl => rfl
  | malwareWhitelist list => rfl
  | decryptionList list => rfl

theorem accepted_serving (serving : Serving kind pd) : Serving kind (request.accepted pd) := by
  obtain ⟨enabled, mode⟩ := serving
  cases request with
  | blocklist list => exact ⟨by cases kind <;> exact enabled, mode⟩
  | firewallWhitelist list => exact ⟨by cases kind <;> exact enabled, id⟩
  | malwareWhitelist list => exact ⟨by cases kind <;> exact enabled, mode⟩
  | decryptionList list => exact ⟨by cases kind <;> exact enabled, mode⟩

end Requests

/-! ## Housekeeping -/

section Housekeeping

variable {before after : Pcapdroid} {kind : ListKind}

theorem ListsInstalled.serving (lists : ListsInstalled before after)
    (serving : Serving kind before) : Serving kind after := by
  obtain ⟨enabled, mode⟩ := serving
  constructor
  · cases kind with
    | blocklist => exact lists.vpnCapture.trans enabled
    | firewallWhitelist => exact lists.vpnCapture.trans enabled
    | malwareWhitelist => exact lists.malwareEnabled.trans enabled
    | decryptionList => exact lists.tlsEnabled.trans enabled
  · rw [lists.firewall]
    unfold installedFirewall
    split
    · exact mode
    · split
      · intro waiting
        cases waiting
      · exact mode

theorem installedFirewall_newBl (firewall : Firewall) :
    (installedFirewall firewall).newBl = none := by
  unfold installedFirewall
  split
  · rfl
  next free => split <;> exact free

theorem installedFirewall_newWl {firewall : Firewall} (free : firewall.newBl = none) :
    (installedFirewall firewall).newWl = none := by
  unfold installedFirewall
  rw [free]
  dsimp only
  split
  next => rfl
  next empty => exact empty

theorem installedFirewall_bl (firewall : Firewall) :
    (installedFirewall firewall).bl = firewall.newBl.or firewall.bl := by
  unfold installedFirewall
  cases firewall.newBl with
  | some bl => rfl
  | none => cases firewall.newWl <;> rfl

variable (lists : ListsInstalled before after)
include lists

theorem ListsInstalled.firewallWhitelist_mailbox (serving : Serving kind before) (exported : Bool) :
    ListKind.firewallWhitelist.mailbox after =
      (ListKind.firewallWhitelist.mailbox before).step
        (mailboxEvent .firewallWhitelist before (.housekeeping exported)) := by
  have firewall := lists.firewall
  unfold installedFirewall at firewall
  unfold ListKind.mailbox ListKind.slot ListKind.installed mailboxEvent
  cases newBl : before.firewall.newBl with
  | some bl =>
    rw [newBl] at firewall
    rw [firewall]
    rfl
  | none =>
    rw [newBl] at firewall
    cases newWl : before.firewall.newWl with
    | some wl =>
      rw [newWl] at firewall
      have mode : before.firewall.wlEnabled = true := serving.mode (by rw [newWl]; rfl)
      have after_mode : after.firewall.wlEnabled = true :=
        (congrArg Firewall.wlEnabled firewall).trans mode
      rw [if_pos after_mode, firewall]
      rfl
    | none =>
      rw [newWl] at firewall
      rw [firewall, newWl]
      rfl

/-- Housekeeping empties the slot, except that a blocklist makes a whitelist wait. -/
theorem ListsInstalled.mailbox (serving : Serving kind before) (exported : Bool) :
    kind.mailbox after =
      (kind.mailbox before).step (mailboxEvent kind before (.housekeeping exported)) := by
  cases kind with
  | blocklist =>
    have slot : ListKind.slot after .blocklist = none :=
      (congrArg Firewall.newBl lists.firewall).trans (installedFirewall_newBl _)
    have installed : ListKind.installed after .blocklist =
        before.firewall.newBl.or before.firewall.bl :=
      (congrArg Firewall.bl lists.firewall).trans (installedFirewall_bl _)
    rw [ListKind.mailbox, slot, installed]
    rfl
  | firewallWhitelist => exact lists.firewallWhitelist_mailbox serving exported
  | malwareWhitelist =>
    have slot : ListKind.slot after .malwareWhitelist = none := lists.newWl
    have installed : ListKind.installed after .malwareWhitelist =
        before.malwareDetection.newWl.or before.malwareDetection.whitelist := lists.whitelist
    rw [ListKind.mailbox, slot, installed]
    rfl
  | decryptionList =>
    have slot : ListKind.slot after .decryptionList = none := lists.newList
    have installed : ListKind.installed after .decryptionList =
        before.tlsDecryption.newList.or before.tlsDecryption.list := lists.list
    rw [ListKind.mailbox, slot, installed]
    rfl

end Housekeeping

/-! ## Runs -/

theorem listStep_serving (platform : Platform) (pd : Pcapdroid) (event : ListEvent)
    (serving : Serving kind pd) : Serving kind (listStep platform pd event) := by
  cases event with
  | request request =>
    simp only [listStep]
    rcases send_cases request pd with refused | taken
    · grind
    · rw [taken]
      exact accepted_serving request serving
  | housekeeping exported => exact (pdHousekeeping_lists platform exported pd).serving serving

/-- A request of its own kind is a value sent to a mailbox. -/
theorem send_mailbox_own (request : ListRequest) (enabled : request.kind.enabled pd = true) :
    request.kind.mailbox (request.send pd) =
      (request.kind.mailbox pd).step (.send request.list) := by
  cases slot : request.kind.slot pd with
  | none =>
    have free : (request.kind.mailbox pd).full = false := congrArg Option.isSome slot
    rw [send_of_free request enabled slot, accepted_mailbox_own, Mailbox.step, free]
    rfl
  | some list =>
    have full : (request.kind.mailbox pd).full = true := congrArg Option.isSome slot
    rw [send_of_refused request (by grind), Mailbox.step, full]
    rfl

theorem send_mailbox_other (request : ListRequest) (other : request.kind ≠ kind) :
    kind.mailbox (request.send pd) = kind.mailbox pd := by
  rcases send_cases request pd with refused | taken
  · rw [refused]
  · rw [taken, accepted_mailbox_other request other]

/-- Each kind of list behaves as a mailbox. -/
theorem listStep_mailbox (platform : Platform) (pd : Pcapdroid) (event : ListEvent)
    (serving : Serving kind pd) : kind.mailbox (listStep platform pd event) =
      (kind.mailbox pd).step (mailboxEvent kind pd event) := by
  cases event with
  | request request =>
    simp only [listStep, mailboxEvent]
    by_cases own : request.kind = kind
    · subst own
      rw [if_pos rfl]
      exact send_mailbox_own request serving.enabled
    · rw [if_neg own]
      exact send_mailbox_other request own
  | housekeeping exported =>
    exact (pdHousekeeping_lists platform exported pd).mailbox serving exported

/-- Two housekeepings in a row empty every slot. -/
theorem slot_of_two_housekeepings (platform : Platform) (kind : ListKind) (first second : Bool)
    (pd : Pcapdroid) :
    kind.slot (pdHousekeeping platform second (pdHousekeeping platform first pd)) = none := by
  have earlier := pdHousekeeping_lists platform first pd
  have later := pdHousekeeping_lists platform second (pdHousekeeping platform first pd)
  have noBlocklist : (pdHousekeeping platform first pd).firewall.newBl = none := by
    rw [earlier.firewall]
    exact installedFirewall_newBl pd.firewall
  cases kind with
  | blocklist =>
    exact (congrArg Firewall.newBl later.firewall).trans (installedFirewall_newBl _)
  | firewallWhitelist =>
    exact (congrArg Firewall.newWl later.firewall).trans (installedFirewall_newWl noBlocklist)
  | malwareWhitelist => exact later.newWl
  | decryptionList => exact later.newList

/-- No list is waiting, as at the start of a capture. -/
def NoListWaiting (pd : Pcapdroid) : Prop := ∀ kind : ListKind, kind.slot pd = none

theorem NoListWaiting.serving (empty : NoListWaiting pd) (enabled : kind.enabled pd = true) :
    Serving kind pd := by
  refine ⟨enabled, ?_⟩
  have none : pd.firewall.newWl = none := empty .firewallWhitelist
  grind

/-- Only requests of its kind are sent to a mailbox. -/
theorem mailboxEvent_quiet (pd : Pcapdroid) {event : ListEvent}
    (other : ∀ request, event = .request request → request.kind ≠ kind) :
    Mailbox.Quiet (mailboxEvent kind pd event) := by
  cases event with
  | request request =>
    rw [mailboxEvent, if_neg (other request rfl)]
    trivial
  | housekeeping exported =>
    rw [mailboxEvent]
    split <;> trivial

theorem mailbox_condition (kind : ListKind) (pd : Pcapdroid) (list : Option Blacklist) :
    (kind.mailbox pd).full = false ∨ (kind.mailbox pd).inForce = list ↔
      kind.slot pd = none ∨ kind.slot pd = list := by
  unfold ListKind.mailbox
  cases kind.slot pd with
  | none => simp
  | some waiting => simp

/-- Once requests have stopped and housekeeping has run twice, the installed list of a
kind is the last one requested exactly if that request found the slot empty or
holding the same list. -/
theorem last_requested_list_installed_iff (platform : Platform) (start : Pcapdroid)
    (empty : NoListWaiting start) (request : ListRequest)
    (enabled : request.kind.enabled start = true) (before after : List ListEvent)
    (last : ∀ later, .request later ∈ after → later.kind ≠ request.kind) (first second : Bool) :
    let requested := run (listStep platform) start before
    request.kind.installed (run (listStep platform) requested
        (.request request :: (after ++ [.housekeeping first, .housekeeping second]))) =
      request.list ↔
    request.kind.slot requested = none ∨ request.kind.slot requested = request.list := by
  intro requested
  have serving : Serving request.kind requested :=
    run_invariant (listStep platform) (listStep_serving platform) (empty.serving enabled) before
  have quiet : ∀ event ∈ labels (listStep platform) (mailboxEvent request.kind)
      (listStep platform requested (.request request))
      (after ++ [.housekeeping first, .housekeeping second]), Mailbox.Quiet event := by
    refine forall_labels (listStep platform) (mailboxEvent request.kind) ?_
    intro pd event member
    refine mailboxEvent_quiet pd ?_
    rintro later rfl
    exact last later (by simpa using member)
  have simulated := run_simulation (listStep platform) Mailbox.step request.kind.mailbox
    (mailboxEvent request.kind) (listStep_serving platform) (listStep_mailbox platform) serving
    (.request request :: (after ++ [.housekeeping first, .housekeeping second]))
  have sent : mailboxEvent request.kind requested (.request request) = .send request.list :=
    if_pos rfl
  have emptied : request.kind.slot (run (listStep platform) requested
      (.request request :: (after ++ [.housekeeping first, .housekeeping second]))) = none := by
    rw [run_cons, run_append]
    exact slot_of_two_housekeepings platform request.kind first second _
  rw [labels, sent] at simulated
  rw [← mailbox_condition, ← Mailbox.last_send_inForce_iff _ request.list _ quiet, ← simulated,
    ListKind.mailbox, emptied, Option.none_or]

/-- A blocklist with one app. -/
def appRule : Blacklist := { Blacklist.empty with matchUid := (· == 10001) }

theorem initial_noListWaiting : NoListWaiting .initial := by
  intro kind
  cases kind <;> rfl

theorem last_requested_list_installed_collected :
    ListKind.blocklist.installed (run (listStep .inert)
      (run (listStep .inert) .initial [.request (.blocklist appRule), .housekeeping false])
      [.request (.blocklist .empty), .housekeeping false, .housekeeping false]) = some .empty :=
  (last_requested_list_installed_iff .inert .initial initial_noListWaiting (.blocklist .empty) rfl
    [.request (.blocklist appRule), .housekeeping false] [] (fun _ member => by cases member) false
    false).mpr (.inl rfl)

/-- A rule that is added and removed before housekeeping runs stays in force. -/
theorem second_request_lost :
    ListKind.blocklist.installed (run (listStep .inert) .initial
      [.request (.blocklist appRule), .request (.blocklist .empty), .housekeeping false,
        .housekeeping false]) ≠ some .empty := by
  intro installed
  have matched := congrArg (fun list => list.any (·.matchUid 10001)) installed
  exact absurd matched (by decide)

end PcapdroidFormal.Firewall
