import PcapdroidFormal.Lists.FileLoading
import PcapdroidFormal.Lists.Loading

/-!
# IP blacklist files

A line of an IP blacklist is an address, with the length of a prefix behind a slash or
without it.  `blacklist_load_file` reads the length with `atoi`, which takes any text,
and hands it over as a `uint8_t`, so that a line which is not of this form may add a rule
for another network.
-/

namespace PcapdroidFormal.Lists

open PcapdroidFormal.Core Foundation

variable {text : Host} {rule : IpRule}

/-! ## Networks -/

/-- The number that decimal digits write. -/
def decimalNumber (text : Host) : Option Nat :=
  if text ≠ [] ∧ text.all Char.isDigit = true then
    some (text.foldl (fun value digit => 10 * value + (digit.toNat - '0'.toNat)) 0)
  else none

/-- The network that a text of the form `ADDR` or `ADDR/N` writes. -/
def networkOf (inetPton : InetPton) (text : Host) : Option IpRule :=
  match ndpiParseIpString inetPton (beforeSlash text), behindSlash text with
  | none, _ => none
  | some addr, none => some ⟨addr, addr.width⟩
  | some addr, some subnet =>
    match decimalNumber subnet with
    | none => none
    | some bits => if bits ≤ addr.width then some ⟨addr, bits⟩ else none

/-- An address in network order. -/
def ipv4 (first second third fourth : UInt8) : IpAddr :=
  .v4 (BitVec.ofNat 32
    (first.toNat + 2 ^ 8 * second.toNat + 2 ^ 16 * third.toNat + 2 ^ 24 * fourth.toNat))

/-- The hosts that are not meant to be blocked. -/
def ignoredHosts : List IpAddr :=
  [ipv4 0 0 0 0, ipv4 255 255 255 255, ipv4 127 0 0 1]

/-- A rule for one of these hosts. -/
def IpRule.ignored (rule : IpRule) : Bool := rule.bits == 32 && ignoredHosts.contains rule.addr

section Lines

variable (inetPton : InetPton)

def ipCall (line : FileLine) : Option IpAddition :=
  if line.isRule then
    ((networkOf inetPton line.text).filter fun rule => !rule.ignored).map
      fun rule => .addIp rule.addr rule.bits
  else none

/-- The line has neither a network nor a comment. -/
def malformed (line : FileLine) : Bool := line.isRule && (networkOf inetPton line.text).isNone

/-- A line whose length of the prefix cannot be mistaken: what `atoi` and `uint8_t` make of
a wrong one is too long for any network.  The host is not `127.0.0.1`, or what the machine
has in its place, `1.0.0.127`. -/
structure FileLine.NetworkLine (line : FileLine) : Prop where
  plain : '\r' ∉ line.text ∧ nul ∉ line.text
  host : ∀ rule ∈ networkOf inetPton line.text, rule.bits = 32 →
    rule.addr ≠ ipv4 127 0 0 1 ∧ rule.addr ≠ ipv4 1 0 0 127
  subnet : networkOf inetPton line.text = none →
    ∀ addr ∈ ndpiParseIpString inetPton (beforeSlash line.text),
      ∀ subnet ∈ behindSlash line.text,
        maxbits (ndpiIsIpv6 addr.union) < (atoi subnet % 256).toNat

instance (line : FileLine) : Decidable (line.NetworkLine inetPton) :=
  decidable_of_iff
    (('\r' ∉ line.text ∧ nul ∉ line.text) ∧
      (∀ rule ∈ networkOf inetPton line.text, rule.bits = 32 →
        rule.addr ≠ ipv4 127 0 0 1 ∧ rule.addr ≠ ipv4 1 0 0 127) ∧
      (networkOf inetPton line.text = none →
        ∀ addr ∈ ndpiParseIpString inetPton (beforeSlash line.text),
          ∀ subnet ∈ behindSlash line.text,
            maxbits (ndpiIsIpv6 addr.union) < (atoi subnet % 256).toNat))
    ⟨fun ⟨plain, host, subnet⟩ => ⟨plain, host, subnet⟩,
      fun line => ⟨line.plain, line.host, line.subnet⟩⟩

/-! ## One line -/

variable {inetPton}

theorem atoi_decimalNumber {number : Nat} (small : number < 2 ^ 31)
    (written : decimalNumber text = some number) : atoi text = number := by
  unfold decimalNumber at written
  split at written
  next digits =>
    have value := leadingNumber_of_digits (List.all_eq_true.mp digits.2)
    rw [Option.some.inj written] at value
    rw [atoi_eq_leadingNumber (by omega) (by omega), value]
  next => cases written

theorem IpAddr.width_le (addr : IpAddr) : addr.width ≤ 128 := by
  cases addr with
  | v4 ip => exact (by decide : 32 ≤ 128)
  | v6 ip => exact Nat.le_refl 128

/-- What the loop reads from a network. -/
theorem networkOf_eq_some (network : networkOf inetPton text = some rule) :
    ndpiParseIpString inetPton (beforeSlash text) = some rule.addr ∧
      subnetBits rule.addr text = rule.bits ∧ rule.bits ≤ rule.addr.width := by
  unfold networkOf at network
  unfold subnetBits
  split at network
  next => cases network
  next addr parsed alone =>
    cases network
    grind
  next addr subnet parsed behind =>
    split at network
    next => cases network
    next bits written =>
      split at network
      next fits =>
        cases network
        have width := addr.width_le
        have small : bits < 2 ^ 31 := by omega
        exact ⟨parsed, by rw [behind]; exact atoi_decimalNumber small written, fits⟩
      next => cases network

/-- A text without a network has no address, or something else behind a slash. -/
theorem networkOf_eq_none (noNetwork : networkOf inetPton text = none) {addr : IpAddr}
    (parsed : ndpiParseIpString inetPton (beforeSlash text) = some addr) :
    ∃ subnet, behindSlash text = some subnet := by
  cases behind : behindSlash text with
  | none =>
    rw [networkOf, parsed, behind] at noNetwork
    cases noNetwork
  | some subnet => exact ⟨subnet, rfl⟩

theorem ndpiIsIpv6_v4 (ip : BitVec 32) : ndpiIsIpv6 (IpAddr.v4 ip).union = false := by
  have word : ∀ n, 1 ≤ n → u6Addr32 (IpAddr.v4 ip).union n = 0 := by
    intro n behind
    change (ip.zeroExtend 128).extractLsb' (32 * n) 32 = 0
    grind
  simp [ndpiIsIpv6, word]

/-- Away from `127.0.0.1` and `1.0.0.127` the loop ignores the hosts that it should. -/
theorem invalidIpv4_eq_ignored
    (host : rule.bits = 32 → rule.addr ≠ ipv4 127 0 0 1 ∧ rule.addr ≠ ipv4 1 0 0 127) :
    invalidIpv4 rule.addr rule.bits = rule.ignored := by
  have none4 : ipv4 0 0 0 0 = .v4 0 := by decide
  have all4 : ipv4 255 255 255 255 = .v4 0xFFFFFFFF := by decide
  have loopback : ipv4 127 0 0 1 = .v4 0x0100007F#32 := by decide
  have swapped : ipv4 1 0 0 127 = .v4 0x7F000001#32 := by decide
  obtain ⟨addr, bits⟩ := rule
  unfold IpRule.ignored ignoredHosts
  by_cases single : bits = 32
  · obtain ⟨notLoopback, notSwapped⟩ := host single
    subst single
    rw [none4, all4]
    rw [swapped] at notSwapped
    cases addr with
    | v6 ip => simp [invalidIpv4, ipv4]
    | v4 ip =>
      rw [loopback] at notLoopback ⊢
      simp only [ne_eq, IpAddr.v4.injEq] at notLoopback notSwapped
      rw [Bool.eq_iff_iff]
      simp [invalidIpv4, notLoopback, notSwapped]
  · have notSingle : ((bits : Int) == 32) = false := by
      grind
    cases addr with
    | v4 ip => simp [invalidIpv4, notSingle, single]
    | v6 ip => simp [invalidIpv4, single]

/-- A code that counts as a failure. -/
def refused (code : Int) : Bool := code != 0 && code != -eaddrinuse

/-- What some calls of `blacklist_add_ip` and some malformed lines do to the list and to
the counters. -/
structure LoadedIps (inetPton : InetPton) (before after : FileLoad) (calls : List IpAddition)
    (malformed : Nat) : Prop where
  ptree : after.bl.ptree = (addIps inetPton before.bl.ptree calls).1
  numOk : after.numOk = before.numOk + (addIps inetPton before.bl.ptree calls).2.count 0
  numFail : after.numFail =
    before.numFail + malformed + (addIps inetPton before.bl.ptree calls).2.countP refused

theorem addIps_append (tree : NdpiPtree) (first second : List IpAddition) :
    addIps inetPton tree (first ++ second) =
      ((addIps inetPton (addIps inetPton tree first).1 second).1,
        (addIps inetPton tree first).2 ++
          (addIps inetPton (addIps inetPton tree first).1 second).2) := by
  induction first generalizing tree with
  | nil => rfl
  | cons addition first ih =>
    rw [List.cons_append, addIps, ih]
    rfl

namespace LoadedIps

variable {before middle after : FileLoad} {calls more : List IpAddition} {some others : Nat}

theorem refl (load : FileLoad) : LoadedIps inetPton load load [] 0 := ⟨rfl, rfl, rfl⟩

theorem fail (load : FileLoad) : LoadedIps inetPton load load.fail [] 1 := ⟨rfl, rfl, rfl⟩

theorem trans (first : LoadedIps inetPton before middle calls some)
    (second : LoadedIps inetPton middle after more others) :
    LoadedIps inetPton before after (calls ++ more) (some + others) := by
  have tree := second.ptree
  have ok := second.numOk
  have failed := second.numFail
  rw [first.ptree] at tree ok failed
  constructor
  · rw [addIps_append]
    exact tree
  · rw [addIps_append, List.count_append, ok, first.numOk]
    omega
  · rw [addIps_append, List.countP_append, failed, first.numFail]
    omega

/-- One call. -/
theorem call (load : FileLoad) (addr : IpAddr) (bits : Nat) :
    LoadedIps inetPton load
      ((load.setPtree (blacklistAddIp load.bl.ptree addr.union bits).1).count
        (blacklistAddIp load.bl.ptree addr.union bits).2) [.addIp addr bits] 0 := by
  have added : addIps inetPton load.bl.ptree [.addIp addr bits] =
      ((blacklistAddIp load.bl.ptree addr.union bits).1,
        [(blacklistAddIp load.bl.ptree addr.union bits).2]) := rfl
  generalize blacklistAddIp load.bl.ptree addr.union bits = result at added ⊢
  obtain ⟨tree, code⟩ := result
  unfold FileLoad.count
  by_cases zero : code = 0
  · subst zero
    rw [if_pos rfl]
    exact ⟨by rw [added]; rfl, by rw [added]; rfl, by rw [added]; rfl⟩
  · rw [if_neg zero]
    by_cases present : code = -eaddrinuse
    · subst present
      rw [if_pos rfl]
      exact ⟨by rw [added]; rfl, by rw [added]; rfl, by rw [added]; rfl⟩
    · have isRefused : refused code = true := by simp [refused, zero, present]
      rw [if_neg present]
      refine ⟨by rw [added]; rfl, ?_, ?_⟩
      · rw [added, List.count_singleton, if_neg (by simpa using zero)]
        rfl
      · rw [added, List.countP_singleton, if_pos isRefused]
        rfl

end LoadedIps

/-- What the loop does with a line that has a network. -/
theorem loadIp_network {load : FileLoad} (network : networkOf inetPton text = some rule)
    (host : rule.bits = 32 → rule.addr ≠ ipv4 127 0 0 1 ∧ rule.addr ≠ ipv4 1 0 0 127) :
    loadIp inetPton load text =
      if rule.ignored then load
      else (load.setPtree (blacklistAddIp load.bl.ptree rule.addr.union rule.bits).1).count
          (blacklistAddIp load.bl.ptree rule.addr.union rule.bits).2 := by
  obtain ⟨parsed, read, fits⟩ := networkOf_eq_some network
  have byte : ((rule.bits : Int) % 256).toNat = rule.bits := by
    have width := rule.addr.width_le
    omega
  unfold loadIp
  simp only [parsed, read, byte, invalidIpv4_eq_ignored host]

/-- A length that is too long for the table is refused. -/
theorem blacklistAddIp_long (tree : NdpiPtree) {addr : NdpiIpAddr} {bits : Nat}
    (long : maxbits (ndpiIsIpv6 addr) < bits) : blacklistAddIp tree addr bits = (tree, -einval) := by
  simp [blacklistAddIp, ndpiPtreeInsert, long]

/-- What the loop does with a line that has no network. -/
theorem loadIp_malformed {load : FileLoad} (noNetwork : networkOf inetPton text = none)
    (long : ∀ addr ∈ ndpiParseIpString inetPton (beforeSlash text), ∀ subnet ∈ behindSlash text,
      maxbits (ndpiIsIpv6 addr.union) < (atoi subnet % 256).toNat) :
    loadIp inetPton load text = load.fail := by
  cases parsed : ndpiParseIpString inetPton (beforeSlash text) with
  | none => simp only [loadIp, parsed]
  | some addr =>
    obtain ⟨subnet, behind⟩ := networkOf_eq_none noNetwork parsed
    have tooLong := long addr parsed subnet behind
    have read : subnetBits addr text = atoi subnet := by
      rw [subnetBits, behind]
    have valid : invalidIpv4 addr (atoi subnet) = false := by
      cases addr with
      | v6 ip => rfl
      | v4 ip =>
        rw [ndpiIsIpv6_v4] at tooLong
        have notSingle : (atoi subnet == 32) = false := by
          rw [beq_eq_false_iff_ne]
          intro single
          rw [single] at tooLong
          exact absurd tooLong (by decide)
        simp [invalidIpv4, notSingle]
    unfold loadIp
    simp only [parsed, read, valid, blacklistAddIp_long _ tooLong]
    rfl

namespace LoadedIps

/-- One line. -/
theorem line {load : FileLoad} {line : FileLine}
    (sound : line.text.head? = some '#' ∨ line.NetworkLine inetPton) (inside : '\n' ∉ line.raw)
    (few : load.numOk < maxFileRules) :
    LoadedIps inetPton load (loadItem inetPton .ipBlacklist load line.raw)
      (ipCall inetPton line).toList (if malformed inetPton line then 1 else 0) := by
  by_cases isRule : line.isRule = true
  · have notComment : line.text.head? ≠ some '#' := by
      rw [FileLine.isRule, Bool.and_eq_true, bne_iff_ne, bne_iff_ne] at isRule
      exact isRule.2
    have network := sound.resolve_left notComment
    have noNul : nul ∉ line.raw := by
      unfold FileLine.raw
      split
      next =>
        rw [List.mem_append, not_or]
        exact ⟨network.plain.2, by decide⟩
      next => exact network.plain.2
    rw [loadItem_rule _ _ isRule noNul inside few]
    simp only [cutLine_raw network.plain.1 (notMem_text inside), ipCall, malformed, isRule,
      if_true, Bool.true_and]
    cases written : networkOf inetPton line.text with
    | none =>
      rw [loadIp_malformed written (network.subnet written)]
      exact fail load
    | some rule =>
      rw [loadIp_network written (network.host rule written)]
      cases ignored : rule.ignored with
      | true => simpa [Option.filter, ignored] using refl load
      | false => simpa [Option.filter, ignored] using call load rule.addr rule.bits
  · rw [Bool.not_eq_true] at isRule
    rw [loadItem_skipped _ _ _ isRule, ipCall, malformed, isRule]
    exact refl load

/-- All lines. -/
theorem lines {lines : List FileLine} {load : FileLoad}
    (sound : ∀ line ∈ lines, line.text.head? = some '#' ∨ line.NetworkLine inetPton)
    (inside : ∀ line ∈ lines, '\n' ∉ line.raw)
    (few : load.numOk +
      (addIps inetPton load.bl.ptree (lines.filterMap (ipCall inetPton))).2.count 0 <
        maxFileRules) :
    LoadedIps inetPton load
      (lines.foldl (fun load line => loadItem inetPton .ipBlacklist load line.raw) load)
      (lines.filterMap (ipCall inetPton)) (lines.countP (malformed inetPton)) := by
  induction lines generalizing load with
  | nil => exact refl load
  | cons first lines ih =>
    rw [List.forall_mem_cons] at sound inside
    have calls : (first :: lines).filterMap (ipCall inetPton) =
        (ipCall inetPton first).toList ++ lines.filterMap (ipCall inetPton) := by
      grind
    rw [calls, addIps_append, List.count_append] at few
    have loaded := line sound.1 inside.1 (Nat.lt_of_le_of_lt (Nat.le_add_right _ _) few)
    rw [← Nat.add_assoc, ← loaded.numOk, ← loaded.ptree] at few
    have both := loaded.trans (ih sound.2 inside.2 few)
    grind

end LoadedIps

end Lines

/-- An IP blacklist of lines that cannot be mistaken is loaded as the networks in it. -/
theorem ip_file_is_loaded (inetPton : InetPton) (bl : NativeList) (content : Host)
    (short : ∀ line ∈ fileLines content, line.text.length < 255)
    (few : (addIps inetPton bl.ptree ((fileLines content).filterMap (ipCall inetPton))).2.count 0 <
      maxFileRules)
    (sound : ∀ line ∈ fileLines content,
      line.text.head? = some '#' ∨ line.NetworkLine inetPton) :
    let load := blacklistLoadFile inetPton bl content .ipBlacklist
    let added := addIps inetPton bl.ptree ((fileLines content).filterMap (ipCall inetPton))
    load.bl.ptree = added.1 ∧ load.numOk = added.2.count 0 ∧
      load.numFail = (fileLines content).countP (malformed inetPton) + added.2.countP refused := by
  have fits : ∀ line ∈ fileLines content, line.raw.length ≤ 255 := by
    intro line found
    have less := short line found
    unfold FileLine.raw
    split
    next =>
      rw [List.length_append]
      exact less
    next => exact Nat.le_of_lt less
  have inside : ∀ line ∈ fileLines content, '\n' ∉ line.raw := fun line found =>
    (LineReader.of_mem_splitOn (mem_of_mem_fileLines found)).1
  have start : (FileLoad.mk bl 0 0 0).numOk = 0 := rfl
  have loaded := @LoadedIps.lines inetPton _ ⟨bl, 0, 0, 0⟩ sound inside
    (by rw [start, Nat.zero_add]; exact few)
  rw [blacklistLoadFile_lines inetPton .ipBlacklist fits]
  refine ⟨loaded.ptree, loaded.numOk.trans (Nat.zero_add _), ?_⟩
  have failed := loaded.numFail
  rw [show (FileLoad.mk bl 0 0 0).numFail = 0 from rfl, Nat.zero_add] at failed
  exact failed

/-- A comment, a network and a host that are added, a host that is not, a length that is too
long, and no network. -/
def exampleIpFile : Host :=
  "# hosts\n10.0.0.0/8\r\n1.2.3.4\n0.0.0.0\n10.0.0.1/33\nx.org\n".toList

theorem example_ip_file_is_loaded :
    (blacklistLoadFile .dotted .init exampleIpFile .ipBlacklist).bl.ptree =
        ⟨[⟨0x0000000A, 8⟩, ⟨0x04030201, 32⟩], []⟩ ∧
      (blacklistLoadFile .dotted .init exampleIpFile .ipBlacklist).numOk = 2 ∧
      (blacklistLoadFile .dotted .init exampleIpFile .ipBlacklist).numFail = 2 := by
  obtain ⟨ptree, numOk, numFail⟩ := ip_file_is_loaded .dotted .init exampleIpFile
    (by decide +kernel) (by decide +kernel) (by decide +kernel)
  exact ⟨ptree.trans (by decide +kernel), numOk.trans (by decide +kernel),
    numFail.trans (by decide +kernel)⟩

/-- A line with something else behind its slash blocks every IPv4 address, so does a length of
256, `127.0.0.1` is taken as a rule and `1.0.0.127` is not. -/
theorem wrong_networks_are_loaded :
    (fileLines "1.2.3.4/x".toList = [⟨"1.2.3.4/x".toList, false⟩] ∧
        (networkOf .dotted "1.2.3.4/x".toList).isNone = true ∧
        ∀ ip, blacklistMatchIp
          (blacklistLoadFile .dotted .init "1.2.3.4/x".toList .ipBlacklist).bl.ptree ip 4 = true) ∧
      (blacklistLoadFile .dotted .init "1.2.3.4/256".toList .ipBlacklist).bl.ptree =
        ⟨[⟨0x04030201, 0⟩], []⟩ ∧
      (blacklistLoadFile .dotted .init "127.0.0.1".toList .ipBlacklist).bl.ptree =
        ⟨[⟨0x0100007F, 32⟩], []⟩ ∧
      (blacklistLoadFile .dotted .init "1.0.0.127".toList .ipBlacklist).bl.ptree = .empty := by
  have everything :
      (blacklistLoadFile .dotted .init "1.2.3.4/x".toList .ipBlacklist).bl.ptree =
        ⟨[⟨0x04030201, 0⟩], []⟩ := by
    decide +kernel
  refine ⟨⟨by decide +kernel, by decide +kernel, ?_⟩, by decide +kernel, by decide +kernel,
    by decide +kernel⟩
  intro ip
  have table := ndpiIsIpv6_v4 ip.ip4
  rw [everything, blacklistMatchIp, if_pos rfl, ndpiPtreeMatchAddr]
  rw [IpAddr.union] at table
  rw [table]
  rfl

end PcapdroidFormal.Lists
