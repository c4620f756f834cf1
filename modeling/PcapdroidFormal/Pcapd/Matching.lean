import Mathlib.Logic.Function.Iterate
import PcapdroidFormal.Pcapd.Framing

/-!
# The test of the UID filter

`matches_uid_filter` walks over the array that `parse_uid_filter` returns.  Here is its loop,
iteration by iteration: when it ends, with what result, and that this is what `read_pkt` sees.
-/

namespace PcapdroidFormal.Pcapd

open PcapdroidFormal.Core PcapdroidFormal.Lists

/-! ## The loop -/

/-- A call of `matches_uid_filter`: in its loop, where `filter` points to an element of the
array, or behind its `return`. -/
inductive Scan where
  | looping (filter : Nat)
  | returned (result : Bool)
  deriving DecidableEq, Repr

/-- The call up to the loop. -/
def scanStart (array : List Int) : Scan :=
  if array[0]? = some (-1) then .returned true else .looping 0

/-- One iteration, with the condition before it.  The body has no `filter++`. -/
def scanStep (array : List Int) (uid : Int) : Scan → Scan
  | .returned result => .returned result
  | .looping filter =>
    match array[filter]? with
    | none => .looping filter
    | some element =>
      if element = -1 then .returned false
      else if element = uid then .returned true
      else .looping filter

/-- The call after a number of iterations. -/
def scan (array : List Int) (uid : Int) (iterations : Nat) : Scan :=
  (scanStep array uid)^[iterations] (scanStart array)

/-- The call ends with this result. -/
def Returns (array : List Int) (uid : Int) (result : Bool) : Prop :=
  ∃ iterations, scan array uid iterations = .returned result

theorem scan_succ (array : List Int) (uid : Int) (iterations : Nat) :
    scan array uid (iterations + 1) = scanStep array uid (scan array uid iterations) :=
  Function.iterate_succ_apply' _ _ _

/-- An empty filter. -/
theorem scan_empty (uid : Int) (iterations : Nat) :
    scan [-1] uid iterations = .returned true := by
  induction iterations with
  | zero => rfl
  | succ iterations ih => rw [scan_succ, ih, scanStep]

/-- The first UID decides: the loop ends in its first iteration or never. -/
theorem scan_cons {first : Int} (valid : first ≠ -1) (rest : List Int) (uid : Int)
    (iterations : Nat) :
    scan (first :: rest) uid (iterations + 1) =
      if first = uid then .returned true else .looping 0 := by
  have start : scanStart (first :: rest) = .looping 0 :=
    if_neg fun same => valid (Option.some.inj same)
  have step : scanStep (first :: rest) uid (.looping 0) =
      if first = uid then .returned true else .looping 0 := if_neg valid
  induction iterations with
  | zero => rw [scan_succ, scan, Function.iterate_zero_apply, start, step]
  | succ iterations ih =>
    rw [scan_succ, ih]
    split
    next => rfl
    next => grind

theorem returns_cons {first : Int} (valid : first ≠ -1) (rest : List Int) (uid : Int)
    (result : Bool) : Returns (first :: rest) uid result ↔ first = uid ∧ result = true := by
  constructor
  · rintro ⟨iterations, ended⟩
    have later := scan_succ (first :: rest) uid iterations
    rw [ended, scan_cons valid, scanStep] at later
    grind
  · rintro ⟨same, rfl⟩
    exact ⟨1, by rw [scan_cons valid, if_pos same]⟩

/-- What `read_pkt` sees of the call: the filter without its terminator decides as the loop. -/
theorem returns_iff_matchesUidFilter {uids : List Int} (valid : ∀ uid ∈ uids, 0 ≤ uid)
    (uid : Int) (result : Bool) :
    Returns (uids ++ [-1]) uid result ↔ matchesUidFilter (some uids) uid = some result := by
  cases uids with
  | nil =>
    constructor
    · rintro ⟨iterations, ended⟩
      rw [List.nil_append, scan_empty] at ended
      rw [matchesUidFilter, Scan.returned.inj ended]
    · intro matched
      exact ⟨0, congrArg Scan.returned (Option.some.inj matched)⟩
  | cons first rest =>
    have natural := valid first List.mem_cons_self
    have called : matchesUidFilter (some (first :: rest)) uid =
      if first = uid then some true else none := rfl
    rw [List.cons_append, returns_cons (by omega), called]
    grind

/-! ## The arrays of `parse_uid_filter` -/

theorem parseTokens_shape {numUids : Nat} {tokens : List Host} {stored array : List Int}
    (natural : ∀ uid ∈ stored, 0 ≤ uid) (parsed : parseTokens numUids stored tokens = some array) :
    ∃ uids, array = uids ++ [-1] ∧ ∀ uid ∈ uids, 0 ≤ uid := by
  induction tokens generalizing stored with
  | nil => exact ⟨stored, (Option.some.inj parsed).symm, natural⟩
  | cons token tokens ih =>
    rw [parseTokens] at parsed
    grind

/-- A list of UIDs and the terminator. -/
theorem parseUidFilter_shape {text : Host} {array : List Int}
    (parsed : parseUidFilter text = some array) :
    ∃ uids, array = uids ++ [-1] ∧ ∀ uid ∈ uids, 0 ≤ uid :=
  parseTokens_shape (List.forall_mem_nil _) parsed

/-- For every array that `parse_uid_filter` returns, `matches_uid_filter` ends and says whether
the filter is empty or has the UID, just if the filter is empty or starts with the UID. -/
theorem uid_filter_is_decided {text : Host} {array : List Int}
    (parsed : parseUidFilter text = some array) (uid : Int) :
    ∃ uids, array = uids ++ [-1] ∧ (∀ other ∈ uids, 0 ≤ other) ∧
      (Returns array uid (decide (uids = [] ∨ uid ∈ uids)) ↔
        uids = [] ∨ uids.head? = some uid) := by
  obtain ⟨uids, rfl, natural⟩ := parseUidFilter_shape parsed
  refine ⟨uids, rfl, natural, ?_⟩
  cases uids with
  | nil => exact iff_of_true ⟨0, rfl⟩ (.inl rfl)
  | cons first rest =>
    have valid := natural first List.mem_cons_self
    have filled : first :: rest ≠ [] := List.cons_ne_nil first rest
    rw [List.cons_append, returns_cons (by omega), List.head?_cons, Option.some.injEq,
      decide_eq_true_iff]
    constructor
    · exact fun ended => .inr ended.1
    · rintro (empty | rfl)
      · exact absurd empty filled
      · exact ⟨rfl, .inr List.mem_cons_self⟩

/-- Two UIDs, of which the first is tested. -/
theorem first_uid_is_decided : Returns [10100, 10200, -1] 10100 true := by
  obtain ⟨uids, array, _, decided⟩ := @uid_filter_is_decided "10100,10200".toList
    [10100, 10200, -1] (by decide +kernel) 10100
  have same : uids = [10100, 10200] := List.append_cancel_right array.symm
  rw [same] at decided
  exact decided.mpr (.inr rfl)

/-- The second UID of the filter: the loop goes on for ever. -/
theorem second_uid_is_not_decided :
    parseUidFilter "10100,10200".toList = some [10100, 10200, -1] ∧
      ¬ ∃ result, Returns [10100, 10200, -1] 10200 result := by
  refine ⟨by decide +kernel, ?_⟩
  rintro ⟨result, returns⟩
  exact absurd ((returns_cons (by decide) _ _ _).mp returns).1 (by decide)

end PcapdroidFormal.Pcapd
