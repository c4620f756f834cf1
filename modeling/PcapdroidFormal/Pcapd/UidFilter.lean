import Mathlib.Algebra.Order.BigOperators.Group.List
import PcapdroidFormal.Lists.Loading

/-!
# The UID filter of pcapd

The capture passes its UID filter to pcapd as a word of the command line.
`get_uids_filter` writes the UIDs to a buffer of 128 bytes, and `parse_uid_filter` reads
them back on the other side.
-/

namespace PcapdroidFormal.Pcapd

open PcapdroidFormal.Core PcapdroidFormal.Lists

variable {uids : List Int} {text : Host} {tokens : List Host} {token : Host} {uid : Int}

/-! ## The capture -/

/-- `snprintf`, for a text that has been formatted: what is written before the terminator, and
the length of the whole text. -/
def snprintf (size : Nat) (text : Host) : Host × Nat := (text.take (size - 1), text.length)

/-- The loop of `get_uids_filter`, with the content of the buffer and `off`. -/
def appendUids (bufSize : Nat) : Bool → Host → Nat → List Int → Host × Nat
  | _, buf, off, [] => (buf, off)
  | isFirst, buf, off, uid :: uids =>
    if off < bufSize then
      let fmt := if isFirst then integerToString uid else ',' :: integerToString uid
      let printed := snprintf (bufSize - off) fmt
      appendUids bufSize false (buf ++ printed.1) (off + printed.2) uids
    else (buf, off)

def getUidsFilter (tlsDecryption : Bool) (appFilterUids : List Int) (bufSize : Nat) : Host :=
  if tlsDecryption || appFilterUids.isEmpty then "-1".toList
  else (appendUids bufSize true [] 0 appFilterUids).1

def uidsFilterBufSize : Nat := 128

/-! ## pcapd -/

/-- The tokens that `strtok_r` finds between commas. -/
def strtok (text : Host) : List Host := (text.splitOn ',').filter fun token => !token.isEmpty

/-- The loop of `parse_uid_filter`, with the elements stored so far; pcapd exits at an invalid
UID. -/
def parseTokens (numUids : Nat) : List Int → List Host → Option (List Int)
  | stored, [] => some (stored ++ [-1])
  | stored, token :: tokens =>
    if stored.length < numUids then
      let uid := atoi token
      if uid < -1 then none
      else parseTokens numUids (if uid ≠ -1 then stored ++ [uid] else stored) tokens
    else some (stored ++ [-1])

def parseUidFilter (text : Host) : Option (List Int) :=
  parseTokens (text.count ',' + 1) [] (strtok text)

/-! ## The text of a filter -/

/-- All the UIDs, whatever the size of the buffer. -/
def filterText (uids : List Int) : Host := [','].intercalate (uids.map integerToString)

/-- The text of the UIDs behind the first ones. -/
def moreUids (uids : List Int) : Host := uids.flatMap fun uid => ',' :: integerToString uid

theorem filterText_cons (uid : Int) (uids : List Int) :
    filterText (uid :: uids) = integerToString uid ++ moreUids uids := by
  induction uids generalizing uid with
  | nil => simp [filterText, moreUids]
  | cons next uids ih =>
    have rest := ih next
    simp only [filterText, List.map_cons, moreUids, List.flatMap_cons] at rest ⊢
    rw [List.intercalate_cons_cons, rest]
    simp

/-- The buffer holds what fits of the text printed so far. -/
theorem appendUids_eq (bufSize : Nat) (uids : List Int) (printed : Host) :
    (appendUids bufSize false (printed.take (bufSize - 1)) printed.length uids).1 =
      (printed ++ moreUids uids).take (bufSize - 1) := by
  induction uids generalizing printed with
  | nil => simp [appendUids, moreUids]
  | cons uid uids ih =>
    have text : moreUids (uid :: uids) = (',' :: integerToString uid) ++ moreUids uids := rfl
    rw [appendUids, text, ← List.append_assoc]
    split
    next room =>
      have grown : printed.take (bufSize - 1) ++
          (snprintf (bufSize - printed.length) (',' :: integerToString uid)).1 =
            (printed ++ ',' :: integerToString uid).take (bufSize - 1) := by
        have left : bufSize - printed.length - 1 = bufSize - 1 - printed.length := by omega
        rw [snprintf, left, List.take_append]
      have length : printed.length +
          (snprintf (bufSize - printed.length) (',' :: integerToString uid)).2 =
            (printed ++ ',' :: integerToString uid).length := by
        rw [snprintf, List.length_append]
      grind
    next full =>
      rw [List.append_assoc, List.take_append_of_le_length (by omega)]

/-- `get_uids_filter` cuts the text to the size of its buffer. -/
theorem getUidsFilter_eq {bufSize : Nat} (room : 0 < bufSize) :
    getUidsFilter false (uid :: uids) bufSize = (filterText (uid :: uids)).take (bufSize - 1) := by
  have first := appendUids_eq bufSize uids (integerToString uid)
  rw [filterText_cons, ← first]
  simp [getUidsFilter, appendUids, room, snprintf]

/-! ## The length of a filter -/

/-- The length of tokens with a comma behind each. -/
def weight (tokens : List Host) : Nat := (tokens.map fun token => token.length + 1).sum

theorem length_intercalate (nonempty : tokens ≠ []) :
    ([','].intercalate tokens).length + 1 = weight tokens := by
  induction tokens with
  | nil => exact absurd rfl nonempty
  | cons token tokens ih =>
    cases tokens with
    | nil => simp [weight]
    | cons next tokens =>
      have rest := ih (List.cons_ne_nil next tokens)
      rw [List.intercalate_cons_cons, List.length_append, List.length_append, Nat.add_assoc,
        rest]
      simp only [weight, List.map_cons, List.sum_cons, List.length_singleton]

theorem weight_filter_le (keep : Host → Bool) (tokens : List Host) :
    weight (tokens.filter keep) ≤ weight tokens := by
  induction tokens with
  | nil => exact Nat.le_refl _
  | cons token tokens ih =>
    simp only [weight, List.filter_cons] at ih ⊢
    grind

/-- The tokens and the commas between them fit into the text. -/
theorem weight_strtok_le (text : Host) : weight (strtok text) ≤ text.length + 1 := by
  have all := length_intercalate (List.splitOn_ne_nil ',' text)
  rw [List.intercalate_splitOn] at all
  rw [all]
  exact weight_filter_le _ _

/-! ## Digits -/

def digitsValue (front : Nat) (digits : Host) : Nat :=
  digits.foldl (fun value digit => 10 * value + (digit.toNat - '0'.toNat)) front

theorem isDigit_value {digit : Char} (isDigit : digit.isDigit = true) :
    digit.toNat - '0'.toNat < 10 := by
  simp only [Char.isDigit, ge_iff_le, Bool.and_eq_true, decide_eq_true_eq,
    UInt32.le_iff_toNat_le] at isDigit
  have upper : digit.toNat ≤ '9'.toNat := isDigit.2
  grind

theorem digitsValue_lt {digits : Host} (isDigits : ∀ digit ∈ digits, digit.isDigit = true)
    (front : Nat) : digitsValue front digits < (front + 1) * 10 ^ digits.length := by
  induction digits generalizing front with
  | nil => simp [digitsValue]
  | cons digit digits ih =>
    rw [List.forall_mem_cons] at isDigits
    have small := isDigit_value isDigits.1
    have rest := ih isDigits.2 (10 * front + (digit.toNat - '0'.toNat))
    have bound : (10 * front + (digit.toNat - '0'.toNat) + 1) * 10 ^ digits.length ≤
        (front + 1) * 10 * 10 ^ digits.length := Nat.mul_le_mul_right _ (by omega)
    rw [List.length_cons, Nat.pow_succ', ← Nat.mul_assoc]
    exact Nat.lt_of_lt_of_le rest bound

/-- A number has no more digits than any text that denotes it. -/
theorem length_decimalDigits_le {fuel number width : Nat} (small : number < 10 ^ (width + 1)) :
    (decimalDigits fuel number).length ≤ width + 1 := by
  induction fuel generalizing number width with
  | zero => exact Nat.zero_le _
  | succ fuel ih =>
    rw [decimalDigits]
    split
    next => grind
    next large =>
      cases width with
      | zero => omega
      | succ width =>
        have shorter : number / 10 < 10 ^ (width + 1) := by
          grind
        grind

/-- A natural number that `atoi` reads has no more digits than the text. -/
theorem length_integerToString_atoi_le (nonempty : token ≠ [])
    (isDigits : ∀ digit ∈ token, digit.isDigit = true) (natural : 0 ≤ atoi token) :
    (integerToString (atoi token)).length ≤ token.length := by
  obtain ⟨number, read⟩ := Int.eq_ofNat_of_zero_le natural
  obtain ⟨width, length⟩ := Nat.exists_eq_succ_of_ne_zero (List.length_pos_iff.mpr nonempty).ne'
  have small := digitsValue_lt isDigits 0
  rw [Nat.zero_add, Nat.one_mul, length] at small
  have value : leadingNumber token = (digitsValue 0 token : Nat) := leadingNumber_of_digits isDigits
  rw [read, length]
  refine length_decimalDigits_le ?_
  by_cases inside : digitsValue 0 token < 2 ^ 31
  · have same : (number : Int) = (digitsValue 0 token : Nat) := by
      rw [← read, atoi_eq_leadingNumber (by omega) (by omega), value]
    omega
  · -- a number that is not an `int` has ten digits or more, and none that is one has more
    have ten : 9 < width + 1 := by
      refine (Nat.pow_lt_pow_iff_right (by decide : 1 < 10)).mp ?_
      omega
    have upper : atoi token < ((2 ^ 32 : Nat) + 1) / 2 := Int.bmod_lt (by decide)
    have bound : 10 ^ 10 ≤ 10 ^ (width + 1) := Nat.pow_le_pow_right (by decide) ten
    omega

/-! ## Reading a filter back -/

/-- Digits and commas. -/
def IsFilter (text : Host) : Prop := ∀ char ∈ text, char ≠ ',' → char.isDigit = true

theorem splitOn_digits (isFilter : IsFilter text) :
    ∀ token ∈ text.splitOn ',', ∀ digit ∈ token, digit.isDigit = true := by
  induction text with
  | nil => simp
  | cons char text ih =>
    have rest := ih fun other member => isFilter other (List.mem_cons_of_mem char member)
    rw [List.splitOn_cons_eq_if_modifyHead]
    split
    next => grind
    next other =>
      have digit : char.isDigit = true :=
        isFilter char List.mem_cons_self fun same => other (beq_iff_eq.mpr same)
      cases tokens : text.splitOn ',' with
      | nil => exact List.forall_mem_nil _
      | cons token tokens =>
        rw [tokens, List.forall_mem_cons] at rest
        exact List.forall_mem_cons.mpr
          ⟨List.forall_mem_cons.mpr ⟨digit, rest.1⟩, rest.2⟩

/-- The tokens of a filter are numbers. -/
theorem strtok_digits (isFilter : IsFilter text) :
    ∀ token ∈ strtok text, token ≠ [] ∧ ∀ digit ∈ token, digit.isDigit = true := by
  intro token member
  obtain ⟨inside, nonempty⟩ := List.mem_filter.mp member
  exact ⟨by simpa using nonempty, splitOn_digits isFilter token inside⟩

theorem length_splitOn (text : Host) : (text.splitOn ',').length = text.count ',' + 1 := by
  induction text with
  | nil => simp
  | cons char text ih =>
    rw [List.splitOn_cons_eq_if_modifyHead, List.count_cons]
    grind

theorem parseTokens_eq {numUids : Nat}
    (numbers : ∀ token ∈ tokens, 0 ≤ atoi token) {stored : List Int}
    (room : stored.length + tokens.length ≤ numUids) :
    parseTokens numUids stored tokens = some (stored ++ tokens.map atoi ++ [-1]) := by
  induction tokens generalizing stored with
  | nil => simp [parseTokens]
  | cons token tokens ih =>
    rw [List.forall_mem_cons] at numbers
    rw [List.length_cons] at room
    have valid : ¬ atoi token < -1 := by omega
    have kept : atoi token ≠ -1 := by omega
    have rest := @ih numbers.2 (stored ++ [atoi token])
      (by grind)
    rw [parseTokens, if_pos (by omega)]
    grind

/-- What is stored comes from the tokens. -/
theorem parseTokens_weight {numUids : Nat}
    (numbers : ∀ token ∈ tokens, token ≠ [] ∧ ∀ digit ∈ token, digit.isDigit = true)
    {stored array : List Int} (parsed : parseTokens numUids stored tokens = some array) :
    ∃ uids, array = stored ++ uids ++ [-1] ∧
      weight (uids.map integerToString) ≤ weight tokens := by
  induction tokens generalizing stored with
  | nil =>
    refine ⟨[], ?_, Nat.le_refl 0⟩
    rw [List.append_nil]
    exact (Option.some.inj parsed).symm
  | cons token tokens ih =>
    obtain ⟨⟨nonempty, digits⟩, rest⟩ := List.forall_mem_cons.mp numbers
    have step : weight (token :: tokens) = token.length + 1 + weight tokens := rfl
    rw [parseTokens] at parsed
    dsimp only at parsed
    split at parsed
    · split at parsed
      · cases parsed
      · obtain ⟨uids, same, bound⟩ := ih rest parsed
        by_cases skipped : atoi token = -1
        · rw [if_neg (not_not.mpr skipped)] at same
          exact ⟨uids, same, by omega⟩
        · rw [if_pos skipped] at same
          have shorter := length_integerToString_atoi_le nonempty digits (by omega)
          have own : weight ((atoi token :: uids).map integerToString) =
            (integerToString (atoi token)).length + 1 + weight (uids.map integerToString) := rfl
          refine ⟨atoi token :: uids, ?_, by omega⟩
          rw [same, List.append_assoc stored, List.singleton_append]
    · refine ⟨[], ?_, Nat.zero_le _⟩
      rw [List.append_nil]
      exact (Option.some.inj parsed).symm

theorem integerToString_digits (natural : 0 ≤ uid) :
    integerToString uid ≠ [] ∧ ∀ digit ∈ integerToString uid, digit.isDigit = true := by
  obtain ⟨number, rfl⟩ := Int.eq_ofNat_of_zero_le natural
  have enough : number < number + 1 := Nat.lt_succ_self number
  refine ⟨?_, (decimalDigits_value (number + 1) number enough).1⟩
  obtain ⟨digit, rest, text, _⟩ := decimalDigits_cons enough
  show decimalDigits (number + 1) number ≠ []
  grind

theorem filterText_isFilter (natural : ∀ uid ∈ uids, 0 ≤ uid) :
    IsFilter (filterText uids) := by
  cases uids with
  | nil => exact List.forall_mem_nil _
  | cons uid uids =>
    rw [List.forall_mem_cons] at natural
    intro char member notComma
    rw [filterText_cons, List.mem_append] at member
    rcases member with first | more
    · exact (integerToString_digits natural.1).2 char first
    · obtain ⟨other, inside, printed⟩ := List.mem_flatMap.mp more
      rcases List.mem_cons.mp printed with comma | digit
      · exact absurd comma notComma
      · exact (integerToString_digits (natural.2 other inside)).2 char digit

theorem strtok_filterText (natural : ∀ uid ∈ uids, 0 ≤ uid)
    (nonempty : uids ≠ []) : strtok (filterText uids) = uids.map integerToString := by
  have noComma : ∀ token ∈ uids.map integerToString, ',' ∉ token := by
    intro token member comma
    obtain ⟨uid, inside, rfl⟩ := List.mem_map.mp member
    have digit := (integerToString_digits (natural uid inside)).2 ',' comma
    exact absurd digit (by decide)
  rw [strtok, filterText, List.splitOn_intercalate ',' noComma (by simpa using nonempty)]
  refine List.filter_eq_self.mpr fun token member => ?_
  obtain ⟨uid, inside, rfl⟩ := List.mem_map.mp member
  simpa using (integerToString_digits (natural uid inside)).1

/-- A filter with these UIDs is not shorter than their text. -/
theorem length_filterText_le (isFilter : IsFilter text) (nonempty : uids ≠ [])
    (read : parseUidFilter text = some (uids ++ [-1])) :
    (filterText uids).length ≤ text.length := by
  obtain ⟨stored, same, shorter⟩ := parseTokens_weight (strtok_digits isFilter) read
  obtain rfl : uids = stored := List.append_cancel_right same
  have bound := weight_strtok_le text
  have length : (filterText uids).length + 1 = weight (uids.map integerToString) :=
    length_intercalate (by simpa using nonempty)
  omega

/-- The UIDs, which are an `int` each, survive the command line just if their text fits into the
buffer. -/
theorem uid_filter_round_trip {uids : List Int} (ints : ∀ uid ∈ uids, 0 ≤ uid ∧ uid < 2 ^ 31) :
    parseUidFilter (getUidsFilter false uids uidsFilterBufSize) = some (uids ++ [-1]) ↔
      (filterText uids).length < uidsFilterBufSize := by
  cases uids with
  | nil => exact iff_of_true rfl (by decide)
  | cons uid uids =>
    have natural : ∀ other ∈ uid :: uids, 0 ≤ other := fun other member => (ints other member).1
    have isFilter := filterText_isFilter natural
    have nonempty := List.cons_ne_nil uid uids
    have cutFilter : IsFilter ((filterText (uid :: uids)).take (uidsFilterBufSize - 1)) :=
      fun char member => isFilter char (List.mem_of_mem_take member)
    rw [getUidsFilter_eq (by decide)]
    constructor
    · intro read
      have fits := length_filterText_le cutFilter nonempty read
      rw [List.length_take] at fits
      have size : uidsFilterBufSize - 1 < uidsFilterBufSize := by decide
      omega
    · intro fits
      have back : ((uid :: uids).map integerToString).map atoi = uid :: uids := by
        have each : ∀ other ∈ uid :: uids, (atoi ∘ integerToString) other = id other := by
          intro other member
          obtain ⟨lower, upper⟩ := ints other member
          exact atoi_integerToString (by omega) upper
        rw [List.map_map, List.map_congr_left each, List.map_id]
      have tokens := strtok_filterText natural nonempty
      rw [List.take_of_length_le (by omega), parseUidFilter, parseTokens_eq, tokens, back,
        List.nil_append]
      · intro token member
        have read : atoi token ∈ uid :: uids := by
          rw [← back, ← tokens]
          exact List.mem_map_of_mem member
        exact natural _ read
      · rw [← length_splitOn]
        exact (Nat.zero_add _).trans_le (List.length_filter_le _ _)

theorem uid_filter_of_two_apps :
    (∀ uid ∈ [10123, 10124], (0 : Int) ≤ uid ∧ uid < 2 ^ 31) ∧
      parseUidFilter (getUidsFilter false [10123, 10124] uidsFilterBufSize) =
        some [10123, 10124, -1] :=
  ⟨by decide, (uid_filter_round_trip (by decide)).mpr (by decide)⟩

/-- The text of 22 UIDs of five digits is cut inside the last of them. -/
theorem uid_filter_has_other_uid :
    parseUidFilter (getUidsFilter false (List.replicate 22 10123) uidsFilterBufSize) =
      some (List.replicate 21 10123 ++ [1, -1]) := by
  decide +kernel

end PcapdroidFormal.Pcapd
