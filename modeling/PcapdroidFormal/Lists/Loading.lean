import Mathlib.Data.List.TakeWhile
import PcapdroidFormal.Lists.AddedDomains
import PcapdroidFormal.Lists.MatchLists

/-!
# Loading a rule list

`MatchList` takes any text as the value of a rule, while `blacklist.c` gives up a
list when it cannot add one of its addresses.
-/

namespace PcapdroidFormal.Lists

open PcapdroidFormal.Core

variable {domains : BlacklistDomains} {hosts : List Host} {host : Host} {fuel number : Nat}

/-! ## Lists of one type -/

section Items

variable {Rules : Type} {add : Rules → Host → Rules × Int}

/-- If every item is accepted, the list is loaded item by item. -/
theorem blLoadListOfType_accepted {vals : List Host}
    (accepted : ∀ val ∈ vals, ∀ rules, (add rules val).2 = 0 ∨ (add rules val).2 = -eaddrinuse)
    (rules : Rules) (numLoaded : Nat) :
    (blLoadListOfType add rules numLoaded vals).1 =
        vals.foldl (fun rules val => (add rules val).1) rules ∧
      0 ≤ (blLoadListOfType add rules numLoaded vals).2 := by
  induction vals generalizing rules numLoaded with
  | nil => exact ⟨rfl, Int.natCast_nonneg numLoaded⟩
  | cons val vals ih =>
    have rest := ih fun other member => accepted other (List.mem_cons_of_mem val member)
    simp only [blLoadListOfType, List.foldl_cons]
    grind

/-- An item that is refused makes loading fail. -/
theorem blLoadListOfType_refused {rules : Rules} {vals : List Host} {numLoaded : Nat}
    (loaded : (blLoadListOfType add rules numLoaded vals).2 ≠ -1) :
    ∀ val ∈ vals, ∃ before, (add before val).2 = 0 ∨ (add before val).2 = -eaddrinuse := by
  induction vals generalizing rules numLoaded with
  | nil => exact List.forall_mem_nil _
  | cons val vals ih =>
    simp only [blLoadListOfType] at loaded
    split at loaded
    next new => exact List.forall_mem_cons.mpr ⟨⟨rules, .inl new⟩, ih loaded⟩
    next =>
      split at loaded
      next duplicate => exact List.forall_mem_cons.mpr ⟨⟨rules, .inr duplicate⟩, ih loaded⟩
      next => exact absurd rfl loaded

end Items

/-! ## Apps -/

theorem digitChar_digit {digit : Nat} (small : digit < 10) :
    (digitChar digit).isDigit = true ∧ (digitChar digit).toNat - '0'.toNat = digit := by
  have each : ∀ digit, digit < 10 →
      (digitChar digit).isDigit = true ∧ (digitChar digit).toNat - '0'.toNat = digit := by decide
  exact each digit small

/-- The digits of a number read back as the number. -/
theorem decimalDigits_value (fuel number : Nat) (enough : number < fuel) :
    (∀ digit ∈ decimalDigits fuel number, digit.isDigit = true) ∧
      (decimalDigits fuel number).foldl
        (fun value digit => 10 * value + (digit.toNat - '0'.toNat)) 0 = number := by
  induction fuel generalizing number with
  | zero => grind
  | succ fuel ih =>
    rw [decimalDigits]
    split
    next small =>
      obtain ⟨isDigit, value⟩ := digitChar_digit small
      grind
    next =>
      obtain ⟨isDigit, value⟩ := digitChar_digit (Nat.mod_lt number (by decide : 10 > 0))
      obtain ⟨digits, front⟩ := ih (number / 10) (by omega)
      grind

theorem takeWhile_decimalDigits (enough : number < fuel) :
    (decimalDigits fuel number).takeWhile Char.isDigit = decimalDigits fuel number :=
  List.takeWhile_eq_self_iff.mpr fun digit member =>
    (decimalDigits_value fuel number enough).1 digit member

/-- The digits of a number start with a digit. -/
theorem decimalDigits_cons (enough : number < fuel) :
    ∃ digit rest, decimalDigits fuel number = digit :: rest ∧ digit.isDigit = true := by
  have digits := (decimalDigits_value fuel number enough).1
  cases text : decimalDigits fuel number with
  | nil =>
    cases fuel with
    | zero => grind
    | succ fuel =>
      rw [decimalDigits] at text
      split at text <;> simp at text
  | cons digit rest =>
    grind

theorem isDigit_not_space {digit : Char} (isDigit : digit.isDigit = true) :
    isspace digit = false ∧ digit ≠ '-' ∧ digit ≠ '+' := by
  have different {other : Char} (notDigit : other.isDigit = false) : digit ≠ other := by
    rintro rfl
    rw [isDigit] at notDigit
    cases notDigit
  refine ⟨?_, different (by decide), different (by decide)⟩
  simp [isspace, Char.isWhitespace, different (by decide : ' '.isDigit = false),
    different (by decide : '\t'.isDigit = false), different (by decide : '\r'.isDigit = false),
    different (by decide : '\n'.isDigit = false), different (by decide : '\x0b'.isDigit = false),
    different (by decide : '\x0c'.isDigit = false)]

theorem leadingNumber_of_digits {text : Host} (isDigits : ∀ digit ∈ text, digit.isDigit = true) :
    leadingNumber text =
      (text.foldl (fun value digit => 10 * value + (digit.toNat - '0'.toNat)) 0 : Nat) := by
  cases text with
  | nil => rfl
  | cons digit rest =>
    have whole : (digit :: rest).takeWhile Char.isDigit = digit :: rest :=
      List.takeWhile_eq_self_iff.mpr isDigits
    obtain ⟨noSpace, notMinus, notPlus⟩ := isDigit_not_space (isDigits digit List.mem_cons_self)
    have noTrim : (digit :: rest).dropWhile isspace = digit :: rest :=
      List.dropWhile_cons_of_neg (Bool.eq_false_iff.mp noSpace)
    simp only [leadingNumber, noTrim]
    grind

/-- A number in the range of an `int` is read as it is. -/
theorem atoi_eq_leadingNumber {text : Host} (lower : -2 ^ 31 ≤ leadingNumber text)
    (upper : leadingNumber text < 2 ^ 31) : atoi text = leadingNumber text := by
  have inside : strtol text = leadingNumber text := by
    unfold strtol
    omega
  rw [atoi, inside]
  exact Int.bmod_eq_of_le (by omega) (by omega)

section

variable (vals : List Host) (uids : List Int) (uid : Int) (inetPton : InetPton) (tree : NdpiPtree)

theorem leadingNumber_integerToString : leadingNumber (integerToString uid) = uid := by
  cases uid with
  | ofNat number =>
    obtain ⟨digits, value⟩ := decimalDigits_value (number + 1) number (Nat.lt_succ_self number)
    rw [integerToString, leadingNumber_of_digits digits, value]
    rfl
  | negSucc number =>
    have enough : number + 1 < number + 2 := Nat.lt_succ_self (number + 1)
    have value := (decimalDigits_value (number + 2) (number + 1) enough).2
    have trimmed : ('-' :: decimalDigits (number + 2) (number + 1)).dropWhile isspace =
        '-' :: decimalDigits (number + 2) (number + 1) :=
      List.dropWhile_cons_of_neg (by decide)
    simp only [leadingNumber, integerToString, trimmed, takeWhile_decimalDigits enough, value]
    rfl

/-- `atoi` reads back what `Integer.toString` writes. -/
theorem atoi_integerToString {uid : Int} (lower : -2 ^ 31 ≤ uid) (upper : uid < 2 ^ 31) :
    atoi (integerToString uid) = uid := by
  have value := leadingNumber_integerToString uid
  rw [atoi_eq_leadingNumber (by omega) (by omega), value]

theorem blacklistAddUid_accepted :
    (blacklistAddUid uids uid).2 = 0 ∨ (blacklistAddUid uids uid).2 = -eaddrinuse := by
  unfold blacklistAddUid
  grind

theorem blacklistAddUid_mem (other : Int) :
    other ∈ (blacklistAddUid uids uid).1 ↔ other ∈ uids ∨ other = uid := by
  unfold blacklistAddUid blacklistMatchUid
  grind

theorem addUids_mem :
    uid ∈ vals.foldl (fun uids val => (blacklistAddUid uids (atoi val)).1) uids ↔
      uid ∈ uids ∨ ∃ val ∈ vals, atoi val = uid := by
  induction vals generalizing uids with
  | nil => simp
  | cons val vals ih =>
    rw [List.foldl_cons, ih, blacklistAddUid_mem, or_assoc]
    grind

/-! ## Addresses -/

/-- The text is an address that the native list can hold: an IPv6 address must not be zero
after its first word. -/
def nativeIp (inetPton : InetPton) (ip : Host) : Bool :=
  match ndpiParseIpString inetPton ip with
  | none => false
  | some (.v4 _) => true
  | some (.v6 addr) => ndpiIsIpv6 addr

theorem blacklistAddIp_accepted_iff (addr : NdpiIpAddr) (bits : Nat) :
    ((blacklistAddIp tree addr bits).2 = 0 ∨ (blacklistAddIp tree addr bits).2 = -eaddrinuse) ↔
      bits ≤ maxbits (ndpiIsIpv6 addr) := by
  unfold blacklistAddIp ndpiPtreeInsert
  by_cases long : maxbits (ndpiIsIpv6 addr) < bits
  · simp [long, einval, eaddrinuse]
  · grind

/-- Exactly these addresses are accepted. -/
theorem nativeIp_iff (ip : Host) :
    nativeIp inetPton ip = true ↔ ((blacklistAddIpstr inetPton tree ip).2 = 0 ∨
      (blacklistAddIpstr inetPton tree ip).2 = -eaddrinuse) := by
  unfold nativeIp blacklistAddIpstr
  cases ndpiParseIpString inetPton ip with
  | none => simp [einval, eaddrinuse]
  | some addr =>
    dsimp only
    rw [blacklistAddIp_accepted_iff]
    cases addr with
    | v4 addr =>
      have fits (isV6 : Bool) : 32 ≤ maxbits isV6 := by
        cases isV6 <;> decide
      exact iff_of_true rfl (fits _)
    | v6 addr =>
      have whole (isV6 : Bool) : isV6 = true ↔ 128 ≤ maxbits isV6 := by
        cases isV6 <;> decide
      exact whole (ndpiIsIpv6 addr)

theorem addIpstrs_eq (ips : List Host) (tree : NdpiPtree) :
    ips.foldl (fun tree ip => (blacklistAddIpstr inetPton tree ip).1) tree =
      (addIps inetPton tree (ips.map .addIpstr)).1 := by
  induction ips generalizing tree with
  | nil => rfl
  | cons ip ips ih => exact ih _

end

/-- The loaded addresses are matched. -/
theorem addIpstrs_match {inetPton : InetPton} {ips : List Host}
    (native : ∀ ip ∈ ips, nativeIp inetPton ip = true) {ip : Host} (member : ip ∈ ips) :
    blacklistMatchIpstr inetPton
      (ips.foldl (fun tree ip => (blacklistAddIpstr inetPton tree ip).1) .empty) ip = true := by
  have fits : ∀ addition ∈ ips.map IpAddition.addIpstr, addition.Fits inetPton := by
    intro addition added
    obtain ⟨text, listed, rfl⟩ := List.mem_map.mp added
    exact fun tree => (nativeIp_iff inetPton tree text).mp (native text listed)
  rw [addIpstrs_eq]
  unfold blacklistMatchIpstr
  cases parsed : ndpiParseIpString inetPton ip with
  | none =>
    have isNative := native ip member
    simp [nativeIp, parsed] at isNative
  | some addr =>
    refine (blacklistMatchIp_iff fits addr).mpr ⟨⟨addr, addr.width⟩, ?_, rfl, ?_⟩
    · refine List.mem_filterMap.mpr ⟨.addIpstr ip, List.mem_map_of_mem member, ?_⟩
      simp only [IpAddition.rule, parsed]
      rfl
    · exact (samePrefix_iff _ _ _).mpr fun _ _ => rfl

/-! ## Hosts -/

theorem blacklistAddDomain_accepted (domains : BlacklistDomains) (host : Host) :
    (blacklistAddDomain domains host).2 = 0 ∨
      (blacklistAddDomain domains host).2 = -eaddrinuse := by
  simp only [blacklistAddDomain]
  grind

/-! ## Whole lists -/

structure LoadsNatively (inetPton : InetPton) (list : MatchList) (bl : NativeList × Int) :
    Prop where
  code : bl.2 = 0
  hosts : ∀ host ∈ list.values .host, blacklistMatchDomain bl.1.domains host = true
  ips : ∀ ip ∈ list.values .ip, blacklistMatchIpstr inetPton bl.1.ptree ip = true
  uids : ∀ uid ∈ list.uids, blacklistMatchUid bl.1.uids uid.toInt = true

def loadNatively (inetPton : InetPton) (list : MatchList) : NativeList × Int :=
  blacklistLoadListDescriptor inetPton .init list.toListDescriptor

theorem toListDescriptor_apps (list : MatchList) :
    list.toListDescriptor.apps = list.uids.map fun uid => integerToString uid.toInt := by
  simp [MatchList.toListDescriptor, MatchList.isExemptedApp]

/-- What the parts of a loaded list are made of. -/
theorem loadNatively_parts (inetPton : InetPton) (list : MatchList) :
    (loadNatively inetPton list).1.domains = addDomains (list.values .host) ∧
      (∀ uid ∈ list.uids, blacklistMatchUid (loadNatively inetPton list).1.uids uid.toInt = true) ∧
      ((loadNatively inetPton list).2 = 0 ↔
        (blLoadListOfType (blacklistAddIpstr inetPton) .empty 0 (list.values .ip)).2 ≠ -1) := by
  obtain ⟨domains, domainsLoaded⟩ := blLoadListOfType_accepted
    (fun host _ domains => blacklistAddDomain_accepted domains host : ∀ val ∈ list.values .host,
      ∀ domains, (blacklistAddDomain domains val).2 = 0 ∨
        (blacklistAddDomain domains val).2 = -eaddrinuse) [] 0
  obtain ⟨uids, uidsLoaded⟩ := blLoadListOfType_accepted
    (fun val _ uids => blacklistAddUid_accepted uids (atoi val) :
      ∀ val ∈ list.toListDescriptor.apps, ∀ uids, (blacklistAddUid uids (atoi val)).2 = 0 ∨
        (blacklistAddUid uids (atoi val)).2 = -eaddrinuse) [] 0
  refine ⟨domains, ?_, ?_⟩
  · intro uid member
    have loaded : (loadNatively inetPton list).1.uids = list.toListDescriptor.apps.foldl
      (fun uids val => (blacklistAddUid uids (atoi val)).1) [] := uids
    unfold blacklistMatchUid
    rw [List.contains_iff_mem, loaded, addUids_mem, toListDescriptor_apps]
    exact .inr ⟨integerToString uid.toInt, List.mem_map_of_mem member,
      atoi_integerToString uid.le_toInt uid.toInt_lt⟩
  · have apps : (blLoadListOfType (fun uids val => blacklistAddUid uids (atoi val)) [] 0
        list.toListDescriptor.apps).2 ≠ -1 := by omega
    have hosts : (blLoadListOfType blacklistAddDomain [] 0 (list.values .host)).2 ≠ -1 := by omega
    simp only [loadNatively, blacklistLoadListDescriptor, NativeList.init,
      MatchList.toListDescriptor] at apps ⊢
    simp [apps, hosts]

/-- A list is loaded and all its rules match, if and only if its addresses are native ones and
the loaded list covers every host rule that was dropped. -/
theorem match_list_loads_iff (inetPton : InetPton) (list : MatchList) :
    LoadsNatively inetPton list (loadNatively inetPton list) ↔
      (∀ ip ∈ list.values .ip, nativeIp inetPton ip = true) ∧
        ∀ host ∈ list.values .host,
          DropsCovered ⟨list.values .host, addDomains (list.values .host)⟩ host := by
  obtain ⟨domains, uids, code⟩ := loadNatively_parts inetPton list
  rw [← addDomains_own_iff]
  constructor
  · intro loads
    refine ⟨fun ip member => ?_, fun host member => domains ▸ loads.hosts host member⟩
    obtain ⟨tree, accepted⟩ := blLoadListOfType_refused (code.mp loads.code) ip member
    exact (nativeIp_iff inetPton tree ip).mpr accepted
  · rintro ⟨native, own⟩
    obtain ⟨ptree, ipsLoaded⟩ := blLoadListOfType_accepted
      (fun ip member tree => (nativeIp_iff inetPton tree ip).mp (native ip member)) .empty 0
    refine ⟨code.mpr (by omega), fun host member => domains ▸ own host member, ?_, uids⟩
    intro ip member
    have loaded : (loadNatively inetPton list).1.ptree = _ := ptree
    rw [loaded]
    exact addIpstrs_match native member

def AppsResolver.noApps : AppsResolver := ⟨fun _ => none, fun _ => uidNoFilter, fun _ => none⟩

/-- A list with a host rule and a network instead of an address. -/
def networkList : MatchList :=
  ⟨[⟨.host, "example.org".toList⟩, ⟨.ip, "1.2.3.0/24".toList⟩], []⟩

/-- `fromJson` accepts a network as an IP rule, and the native side then refuses the list. -/
theorem imported_network_refused :
    MatchList.fromJson .noApps .empty (some networkList.toJson) (-1) = (networkList, .ok 2) ∧
      ¬ LoadsNatively .dotted networkList (loadNatively .dotted networkList) := by
  constructor
  · exact MatchList.fromJson_toJson .noApps (by decide) (by decide) .empty
  · intro loads
    exact absurd loads.code (by decide)

end PcapdroidFormal.Lists
