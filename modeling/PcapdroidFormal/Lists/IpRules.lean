import PcapdroidFormal.Lists.HostRules

/-!
# IP rules

`blacklist.c` keeps its IP rules in an `ndpi_ptree_t`, which is a pair of prefix
tables, one for each IP version.  nDPI does not know the version of an address: it
takes an address for an IPv6 one if its words 1 to 3 are not all zero.
-/

namespace PcapdroidFormal.Lists

open PcapdroidFormal.Core

variable {bits : Nat} {tree : NdpiPtree} {rules : List IpRule} {additions : List IpAddition}
  {inetPton : InetPton}

/-! ## Addresses -/

/-- An `ndpi_ip_addr_t`; byte `n` occupies the bits from `8 * n` on. -/
abbrev NdpiIpAddr := BitVec 128

/-- Bit `n` of an address in network order. -/
def networkBit (addr : NdpiIpAddr) (n : Nat) : Bool := addr.getLsbD (8 * (n / 8) + (7 - n % 8))

def samePrefix (bits : Nat) (first second : NdpiIpAddr) : Bool :=
  (List.range bits).all fun n => networkBit first n == networkBit second n

def u6Addr32 (addr : NdpiIpAddr) (n : Nat) : BitVec 32 := addr.extractLsb' (32 * n) 32

def ndpiIsIpv6 (addr : NdpiIpAddr) : Bool :=
  u6Addr32 addr 1 != 0 || u6Addr32 addr 2 != 0 || u6Addr32 addr 3 != 0

/-- An address of a known family. -/
inductive IpAddr where
  | v4 (ip : BitVec 32)
  | v6 (ip : BitVec 128)
  deriving DecidableEq, Repr

namespace IpAddr

def family : IpAddr → UInt8
  | v4 _ => 4
  | v6 _ => 6

/-- The address in a union that was zeroed before. -/
def union : IpAddr → NdpiIpAddr
  | v4 ip => ip.zeroExtend 128
  | v6 ip => ip

/-- The number of bits of an address of the family. -/
def width : IpAddr → Nat
  | v4 _ => 32
  | v6 _ => 128

end IpAddr

/-- `inet_pton` of the C library, for each family. -/
structure InetPton where
  ipv4 : Host → Option (BitVec 32)
  ipv6 : Host → Option (BitVec 128)

def ndpiParseIpString (inetPton : InetPton) (ip : Host) : Option IpAddr :=
  if ip.contains '.' then (inetPton.ipv4 ip).map .v4 else (inetPton.ipv6 ip).map .v6

/-! ## ndpi_ptree_t -/

/-- An entry of a prefix table. -/
structure IpPrefix where
  addr : NdpiIpAddr
  bits : Nat
  deriving DecidableEq, Repr

def IpPrefix.covers (entry : IpPrefix) (addr : NdpiIpAddr) : Bool :=
  samePrefix entry.bits entry.addr addr

/-- `ndpi_ptree_t`, by the entries of its tables. -/
structure NdpiPtree where
  v4 : List IpPrefix
  v6 : List IpPrefix
  deriving DecidableEq, Repr

namespace NdpiPtree

def empty : NdpiPtree := ⟨[], []⟩

def table (tree : NdpiPtree) (isV6 : Bool) : List IpPrefix := if isV6 then tree.v6 else tree.v4

def add (tree : NdpiPtree) (isV6 : Bool) (entry : IpPrefix) : NdpiPtree :=
  if isV6 then { tree with v6 := tree.v6 ++ [entry] } else { tree with v4 := tree.v4 ++ [entry] }

theorem table_add (tree : NdpiPtree) (isV6 other : Bool) (entry : IpPrefix) :
    (tree.add isV6 entry).table other =
      if other = isV6 then tree.table other ++ [entry] else tree.table other := by
  cases isV6 <;> cases other <;> rfl

end NdpiPtree

/-- The longest entry of the table that has each family's addresses. -/
def maxbits (isV6 : Bool) : Nat := if isV6 then 128 else 32

def ndpiPtreeInsert (tree : NdpiPtree) (addr : NdpiIpAddr) (bits : Nat) : NdpiPtree × Int :=
  let isV6 := ndpiIsIpv6 addr
  if maxbits isV6 < bits then (tree, -1)
  else if (tree.table isV6).any fun entry => entry.bits == bits && entry.covers addr then (tree, -2)
  else (tree.add isV6 ⟨addr, bits⟩, 0)

def ndpiPtreeMatchAddr (tree : NdpiPtree) (addr : NdpiIpAddr) : Bool :=
  (tree.table (ndpiIsIpv6 addr)).any fun entry => entry.covers addr

/-! ## blacklist.c -/

def einval : Int := 22

def blacklistAddIp (tree : NdpiPtree) (addr : NdpiIpAddr) (bits : Nat) : NdpiPtree × Int :=
  let inserted := ndpiPtreeInsert tree addr bits
  if inserted.2 = 0 then inserted
  else (inserted.1, if inserted.2 = -2 then -eaddrinuse else -einval)

def blacklistAddIpstr (inetPton : InetPton) (tree : NdpiPtree) (ip : Host) : NdpiPtree × Int :=
  match ndpiParseIpString inetPton ip with
  | none => (tree, -einval)
  | some addr => blacklistAddIp tree addr.union addr.width

def blacklistMatchIp (tree : NdpiPtree) (ip : ZdtunIp) (ipver : UInt8) : Bool :=
  ndpiPtreeMatchAddr tree (if ipver = 4 then ip.ip4.zeroExtend 128 else ip)

def blacklistMatchIpstr (inetPton : InetPton) (tree : NdpiPtree) (ip : Host) : Bool :=
  match ndpiParseIpString inetPton ip with
  | none => false
  | some addr => blacklistMatchIp tree addr.union addr.family

/-- One addition to a blacklist. -/
inductive IpAddition where
  | addIpstr (text : Host)
  | addIp (addr : IpAddr) (bits : Nat)

section Additions

variable (inetPton : InetPton)

def IpAddition.apply (tree : NdpiPtree) : IpAddition → NdpiPtree × Int
  | addIpstr text => blacklistAddIpstr inetPton tree text
  | addIp addr bits => blacklistAddIp tree addr.union bits

/-- The tables and the returned codes after some additions. -/
def addIps : NdpiPtree → List IpAddition → NdpiPtree × List Int
  | tree, [] => (tree, [])
  | tree, addition :: additions =>
    let added := addition.apply inetPton tree
    let rest := addIps added.1 additions
    (rest.1, added.2 :: rest.2)

/-- No addition is refused: each adds a rule or finds it there. -/
def Accepted (codes : List Int) : Prop := ∀ code ∈ codes, code = 0 ∨ code = -eaddrinuse

instance (codes : List Int) : Decidable (Accepted codes) :=
  inferInstanceAs (Decidable (∀ code ∈ codes, code = 0 ∨ code = -eaddrinuse))

/-! ## What the rules cover -/

/-- A rule: the addresses of a family with given first bits. -/
structure IpRule where
  addr : IpAddr
  bits : Nat

namespace IpRule

/-- The first bits of the address are those of the rule. -/
def covers (rule : IpRule) (addr : IpAddr) : Bool := samePrefix rule.bits rule.addr.union addr.union

end IpRule

def IpAddition.rule : IpAddition → Option IpRule
  | addIpstr text => (ndpiParseIpString inetPton text).map fun addr => ⟨addr, addr.width⟩
  | addIp addr bits => some ⟨addr, bits⟩

def ipRules (additions : List IpAddition) : List IpRule :=
  additions.filterMap (IpAddition.rule inetPton)

/-- The list matches an address exactly if a rule of its family covers it. -/
def MatchesExactly (additions : List IpAddition) (addr : IpAddr) : Prop :=
  blacklistMatchIp (addIps inetPton .empty additions).1 addr.union addr.family = true ↔
    ∃ rule ∈ ipRules inetPton additions, rule.addr.family = addr.family ∧ rule.covers addr = true

end Additions

/-! ## The tables -/

theorem samePrefix_iff (bits : Nat) (first second : NdpiIpAddr) :
    samePrefix bits first second = true ↔
      ∀ n, n < bits → networkBit first n = networkBit second n := by
  simp [samePrefix]

/-- Entries with the same first bits cover the same addresses. -/
theorem samePrefix_congr {first second : NdpiIpAddr}
    (same : samePrefix bits first second = true) (addr : NdpiIpAddr) :
    samePrefix bits first addr = samePrefix bits second addr := by
  rw [samePrefix_iff] at same
  rw [Bool.eq_iff_iff, samePrefix_iff, samePrefix_iff]
  grind

/-- The entries of a table cover what some rules cover. -/
def Holds (tree : NdpiPtree) (rules : List IpRule) : Prop :=
  ∀ isV6 addr, (tree.table isV6).any (fun entry => entry.covers addr) = true ↔
    ∃ rule ∈ rules, ndpiIsIpv6 rule.addr.union = isV6 ∧
      samePrefix rule.bits rule.addr.union addr = true

theorem holds_empty : Holds .empty [] := by
  intro isV6 addr
  cases isV6 <;> simp [NdpiPtree.empty, NdpiPtree.table]

section

variable (holds : Holds tree rules)
include holds

/-- An accepted addition makes the tables hold one more rule. -/
theorem blacklistAddIp_holds {addr : IpAddr}
    (accepted : (blacklistAddIp tree addr.union bits).2 = 0 ∨
      (blacklistAddIp tree addr.union bits).2 = -eaddrinuse) :
    Holds (blacklistAddIp tree addr.union bits).1 (rules ++ [⟨addr, bits⟩]) := by
  intro isV6 other
  have more : (∃ rule ∈ rules ++ [⟨addr, bits⟩], ndpiIsIpv6 rule.addr.union = isV6 ∧
      samePrefix rule.bits rule.addr.union other = true) ↔
      (∃ rule ∈ rules, ndpiIsIpv6 rule.addr.union = isV6 ∧
        samePrefix rule.bits rule.addr.union other = true) ∨
      (ndpiIsIpv6 addr.union = isV6 ∧ samePrefix bits addr.union other = true) := by
    simp [or_and_right, exists_or]
  rw [more, ← holds isV6 other]
  unfold blacklistAddIp ndpiPtreeInsert at accepted ⊢
  by_cases long : maxbits (ndpiIsIpv6 addr.union) < bits
  · simp [long, einval, eaddrinuse] at accepted
  · simp only [if_neg long]
    by_cases known : (tree.table (ndpiIsIpv6 addr.union)).any
        (fun entry => entry.bits == bits && entry.covers addr.union) = true
    · -- the known entry covers whatever the rule covers
      simp only [if_pos known]
      obtain ⟨entry, member, same⟩ := List.any_eq_true.mp known
      obtain ⟨sameBits, covers⟩ := (Bool.and_eq_true _ _).mp same
      obtain rfl := eq_of_beq sameBits
      refine ⟨Or.inl, ?_⟩
      rintro (found | ⟨rfl, covered⟩)
      · exact found
      · refine List.any_eq_true.mpr ⟨entry, member, ?_⟩
        rw [← samePrefix_congr covers] at covered
        exact covered
    · simp only [if_neg known, if_true]
      rw [NdpiPtree.table_add]
      by_cases own : isV6 = ndpiIsIpv6 addr.union
      · rw [if_pos own, List.any_append]
        simp [own, IpPrefix.covers]
      · grind

theorem addition_holds {addition : IpAddition} (accepted : (addition.apply inetPton tree).2 = 0 ∨
      (addition.apply inetPton tree).2 = -eaddrinuse) : ∃ rule, addition.rule inetPton = some rule ∧
      Holds (addition.apply inetPton tree).1 (rules ++ [rule]) := by
  cases addition with
  | addIpstr text =>
    simp only [IpAddition.apply, IpAddition.rule, blacklistAddIpstr] at accepted ⊢
    cases parsed : ndpiParseIpString inetPton text with
    | none => simp [parsed, einval, eaddrinuse] at accepted
    | some addr =>
      rw [parsed] at accepted
      exact ⟨_, rfl, blacklistAddIp_holds holds accepted⟩
  | addIp addr bits => exact ⟨_, rfl, blacklistAddIp_holds holds accepted⟩

theorem addIps_holds (accepted : Accepted (addIps inetPton tree additions).2) :
    Holds (addIps inetPton tree additions).1 (rules ++ ipRules inetPton additions) := by
  induction additions generalizing tree rules with
  | nil => simpa [addIps, ipRules] using holds
  | cons addition additions ih =>
    obtain ⟨rule, parsed, added⟩ := addition_holds holds (accepted _ List.mem_cons_self)
    have rest := ih added fun code member => accepted code (List.mem_cons_of_mem _ member)
    rw [List.append_assoc] at rest
    rw [ipRules, List.filterMap_cons_some parsed]
    exact rest

end

/-! ## Exact matching -/

/-- The addition is accepted whatever was added before. -/
def IpAddition.Fits (inetPton : InetPton) (addition : IpAddition) : Prop :=
  ∀ tree, (addition.apply inetPton tree).2 = 0 ∨ (addition.apply inetPton tree).2 = -eaddrinuse

theorem blacklistAddIp_fits {addr : NdpiIpAddr} (accepted : (blacklistAddIp tree addr bits).2 = 0 ∨
      (blacklistAddIp tree addr bits).2 = -eaddrinuse) (other : NdpiPtree) :
    (blacklistAddIp other addr bits).2 = 0 ∨ (blacklistAddIp other addr bits).2 = -eaddrinuse := by
  unfold blacklistAddIp ndpiPtreeInsert at accepted ⊢
  grind

/-- Whether an addition is accepted does not depend on the tables. -/
theorem fits_of_accepted {addition : IpAddition} (accepted : (addition.apply inetPton tree).2 = 0 ∨
      (addition.apply inetPton tree).2 = -eaddrinuse) : addition.Fits inetPton := by
  intro other
  cases addition with
  | addIpstr text =>
    simp only [IpAddition.apply, blacklistAddIpstr] at accepted ⊢
    cases parsed : ndpiParseIpString inetPton text with
    | none => simp [parsed, einval, eaddrinuse] at accepted
    | some addr =>
      rw [parsed] at accepted
      exact blacklistAddIp_fits accepted other
  | addIp addr bits => exact blacklistAddIp_fits accepted other

theorem fits_of_addIps (accepted : Accepted (addIps inetPton tree additions).2) :
    ∀ addition ∈ additions, addition.Fits inetPton := by
  induction additions generalizing tree with
  | nil => exact List.forall_mem_nil _
  | cons addition additions ih =>
    refine List.forall_mem_cons.mpr ⟨fits_of_accepted (accepted _ List.mem_cons_self), ?_⟩
    exact ih fun code member => accepted code (List.mem_cons_of_mem _ member)

theorem addIps_accepted (fits : ∀ addition ∈ additions, addition.Fits inetPton) (tree : NdpiPtree) :
    Accepted (addIps inetPton tree additions).2 := by
  induction additions generalizing tree with
  | nil => exact List.forall_mem_nil _
  | cons addition additions ih =>
    refine List.forall_mem_cons.mpr ⟨fits addition List.mem_cons_self tree, ?_⟩
    exact ih (fun other member => fits other (List.mem_cons_of_mem addition member)) _

theorem blacklistMatchIp_union (tree : NdpiPtree) (addr : IpAddr) :
    blacklistMatchIp tree addr.union addr.family = ndpiPtreeMatchAddr tree addr.union := by
  cases addr with
  | v4 ip =>
    have same : (ZdtunIp.ip4 (IpAddr.v4 ip).union).zeroExtend 128 = (IpAddr.v4 ip).union := by
      simp [ZdtunIp.ip4, IpAddr.union]
    exact congrArg (ndpiPtreeMatchAddr tree) same
  | v6 ip => rfl

/-- An address is matched by the covering rules that nDPI keeps with such addresses. -/
theorem blacklistMatchIp_iff (fits : ∀ addition ∈ additions, addition.Fits inetPton) (addr : IpAddr)
    : blacklistMatchIp (addIps inetPton .empty additions).1 addr.union addr.family = true ↔
      ∃ rule ∈ ipRules inetPton additions,
        ndpiIsIpv6 rule.addr.union = ndpiIsIpv6 addr.union ∧ rule.covers addr = true := by
  have holds := addIps_holds holds_empty (addIps_accepted fits .empty)
  rw [List.nil_append] at holds
  rw [blacklistMatchIp_union]
  exact holds (ndpiIsIpv6 addr.union) addr.union

/-- nDPI keeps the rule where it looks the address up exactly if both are of one family. -/
def FiledByFamily (rule : IpRule) (addr : IpAddr) : Prop :=
  ndpiIsIpv6 rule.addr.union = ndpiIsIpv6 addr.union ↔ rule.addr.family = addr.family

instance (rule : IpRule) (addr : IpAddr) : Decidable (FiledByFamily rule addr) :=
  inferInstanceAs (Decidable (_ ↔ _))

/-- An address is matched as its family demands, whichever of the rules are in the list,
if and only if the rules that cover it are filed by their family. -/
theorem ip_rules_match_exactly_iff (inetPton : InetPton) (additions : List IpAddition)
    (accepted : Accepted (addIps inetPton .empty additions).2) (addr : IpAddr) :
    (∀ chosen, chosen.Sublist additions → MatchesExactly inetPton chosen addr) ↔
      ∀ rule ∈ ipRules inetPton additions, rule.covers addr = true → FiledByFamily rule addr := by
  have fits := fits_of_addIps accepted
  constructor
  · intro exactly rule member covers
    obtain ⟨addition, added, parsed⟩ := List.mem_filterMap.mp member
    have alone : ipRules inetPton [addition] = [rule] := by
      rw [ipRules, List.filterMap_cons_some parsed, List.filterMap_nil]
    -- the list that has this rule only
    have single := exactly [addition] (List.singleton_sublist.mpr added)
    unfold MatchesExactly at single
    have fitsAlone : ∀ other ∈ [addition], other.Fits inetPton := by
      intro other isIt
      rw [List.mem_singleton.mp isIt]
      exact fits addition added
    rw [blacklistMatchIp_iff fitsAlone, alone] at single
    simpa [FiledByFamily, covers] using single
  · intro filed chosen sublist
    have fitsChosen : ∀ addition ∈ chosen, addition.Fits inetPton := fun addition member =>
      fits addition (sublist.subset member)
    have rules : ∀ rule ∈ ipRules inetPton chosen, rule ∈ ipRules inetPton additions :=
      fun rule member => (sublist.filterMap _).subset member
    unfold MatchesExactly
    rw [blacklistMatchIp_iff fitsChosen]
    constructor
    · rintro ⟨rule, member, table, covers⟩
      exact ⟨rule, member, (filed rule (rules rule member) covers).mp table, covers⟩
    · rintro ⟨rule, member, family, covers⟩
      exact ⟨rule, member, (filed rule (rules rule member) covers).mpr family, covers⟩

/-- One octet of a dotted address. -/
def octet (text : Host) : Option Nat :=
  if text.isEmpty || !text.all Char.isDigit || (text.head? == some '0' && 1 < text.length) then none
  else
    let value := text.foldl (fun value digit => 10 * value + (digit.toNat - '0'.toNat)) 0
    if value ≤ 255 then some value else none

/-- `inet_pton` of a C library that reads IPv4 addresses only. -/
def InetPton.dotted : InetPton where
  ipv4 text :=
    match (text.splitOn '.').map octet with
    | [some first, some second, some third, some fourth] =>
      some (BitVec.ofNat 32 (first + 2 ^ 8 * second + 2 ^ 16 * third + 2 ^ 24 * fourth))
    | _ => none
  ipv6 _ := none

/-- An IPv4 host and an IPv6 network, `2001:db8::1/32`. -/
def hostAndNetwork : List IpAddition :=
  [.addIpstr "1.2.3.4".toList, .addIp (.v6 0x010000000000000000000000b80d0120) 32]

theorem ip_rules_match_exactly_network :
    Accepted (addIps .dotted .empty hostAndNetwork).2 ∧
      MatchesExactly .dotted hostAndNetwork (.v6 0x020000000000000000000000b80d0120) := by
  have accepted : Accepted (addIps .dotted .empty hostAndNetwork).2 := by decide
  refine ⟨accepted, (ip_rules_match_exactly_iff .dotted hostAndNetwork accepted _).mpr ?_ _
    (List.Sublist.refl _)⟩
  decide

/-- The network `2001:db8::/32` is kept as an IPv4 rule: it does not match `2001:db8::1`. -/
theorem ipv6_network_misses_its_hosts :
    Accepted (addIps .dotted .empty [.addIp (.v6 0xb80d0120) 32]).2 ∧
      ¬ MatchesExactly .dotted [.addIp (.v6 0xb80d0120) 32]
        (.v6 0x010000000000000000000000b80d0120) := by
  refine ⟨by decide, ?_⟩
  intro exactly
  have found := exactly.mpr ⟨⟨.v6 0xb80d0120, 32⟩, List.mem_singleton_self _, rfl, by decide⟩
  exact absurd found (by decide)

end PcapdroidFormal.Lists
