import Mathlib.Data.List.Basic
import PcapdroidFormal.Lists.HostRules

/-!
# Java and native host matching

`matchesHost` and `blacklist_match_domain` look up different keys for some
hosts, and the native list drops rules that others already cover.  The two
agree on a host unless a rule that only one of them finds stands alone.
-/

namespace PcapdroidFormal.Lists

open PcapdroidFormal.Core Foundation

variable {domains : BlacklistDomains} {domain : Host}

/-! ## Second-level domains -/

/-- Both functions look for the last dot and, before it, for the last but one. -/
theorem secondLevel_of_last_dot (outer : Host) (nonempty : outer ≠ []) {tld : Host}
    (noDot : '.' ∉ tld) :
    getSecondLevelDomainNative (outer ++ '.' :: tld) = (match lastIndexOf '.' outer with
        | none => outer ++ '.' :: tld
        | some dot => (outer ++ '.' :: tld).drop (dot + 1)) ∧
      getSecondLevelDomain (outer ++ '.' :: tld) = (match lastIndexOf '.' outer with
        | none => outer ++ '.' :: tld
        | some rootPos =>
          if rootPos = 0 then outer ++ '.' :: tld
          else (outer ++ '.' :: tld).drop (rootPos + 1)) := by
  have last := lastIndexOf_append outer noDot
  have cut : (outer ++ '.' :: tld).take outer.length = outer := List.take_left
  have inner : outer.length ≠ 0 := mt List.length_eq_zero_iff.mp nonempty
  unfold getSecondLevelDomainNative getSecondLevelDomain
  grind

/-- A name without two dots, the first of them not at its start, is its own
second-level domain; other names are cut at their last but one dot, which the Java
function does not do at the start of a name. -/
theorem secondLevel_cases (domain : Host) :
    (getSecondLevelDomainNative domain = domain ∧ getSecondLevelDomain domain = domain) ∨
      ∃ front label tld, domain = front ++ '.' :: (label ++ '.' :: tld) ∧
        '.' ∉ label ∧ '.' ∉ tld ∧
        getSecondLevelDomainNative domain = label ++ '.' :: tld ∧
        getSecondLevelDomain domain = if front = [] then domain else label ++ '.' :: tld := by
  rcases lastIndexOf_cases '.' domain with ⟨none, _⟩ | ⟨outer, tld, rfl, noDot, last⟩
  · unfold getSecondLevelDomainNative getSecondLevelDomain
    grind
  · by_cases empty : outer = []
    · subst empty
      unfold getSecondLevelDomainNative getSecondLevelDomain
      grind
    · obtain ⟨native, java⟩ := secondLevel_of_last_dot outer empty noDot
      rcases lastIndexOf_cases '.' outer with ⟨none, _⟩ | ⟨front, label, rfl, noInner, inner⟩
      · grind
      · have shape : (front ++ '.' :: label) ++ '.' :: tld =
            front ++ '.' :: (label ++ '.' :: tld) := by simp
        have cut : (front ++ '.' :: (label ++ '.' :: tld)).drop (front.length + 1) =
            label ++ '.' :: tld := by simp
        refine .inr ⟨front, label, tld, shape, noInner, noDot, ?_, ?_⟩
        · grind
        · grind

theorem secondLevelNative_idem (domain : Host) :
    getSecondLevelDomainNative (getSecondLevelDomainNative domain) =
      getSecondLevelDomainNative domain := by
  rcases secondLevel_cases domain with ⟨own, _⟩ | ⟨front, label, tld, _, noLabel, noTld, cut, _⟩
  · rw [own]
    exact own
  · rw [cut]
    by_cases empty : label = []
    · subst empty
      unfold getSecondLevelDomainNative
      rw [lastIndexOf_append [] noTld]
      rfl
    · rw [(secondLevel_of_last_dot label empty noTld).1, lastIndexOf_eq_none noLabel]

/-- The Java function only differs for a leading dot. -/
theorem secondLevel_java (domain : Host) :
    getSecondLevelDomain domain = getSecondLevelDomainNative domain ∨
      (getSecondLevelDomain domain = domain ∧
        domain = '.' :: getSecondLevelDomainNative domain) := by
  rcases secondLevel_cases domain with ⟨own, java⟩ | ⟨front, label, tld, shape, _, _, cut, java⟩
  · exact .inl (java.trans own.symm)
  · grind

/-! ## Keys -/

/-- The rules that `matchesHost` looks up. -/
def javaKeys (host : Host) : List Host :=
  let host := cleanDomain host
  cleanDomain host ::
    if getSecondLevelDomain host = host then [] else [getSecondLevelDomain host]

/-- The domains that `blacklist_match_domain` looks up. -/
def nativeKeys (host : Host) : List Host :=
  let host := cleanDomain host
  [host, getSecondLevelDomainNative host]

theorem matchesHost_iff (rules : HostRules) (host : Host) :
    matchesHost rules host = true ↔ ∃ key ∈ javaKeys host, key ∈ rules := by
  simp only [matchesHost, matchesExactHost, javaKeys]
  grind

theorem blacklistMatchDomain_iff (domains : BlacklistDomains) (host : Host) :
    blacklistMatchDomain domains host = true ↔ ∃ key ∈ nativeKeys host, key ∈ domains := by
  simp only [blacklistMatchDomain, nativeKeys]
  grind

/-! ## Loading -/

/-- The domain or its second-level domain is in the list. -/
def Covered (domains : BlacklistDomains) (domain : Host) : Prop :=
  domain ∈ domains ∨ getSecondLevelDomainNative domain ∈ domains

theorem Covered.mono {fewer more : BlacklistDomains} (included : fewer ⊆ more)
    (covered : Covered fewer domain) : Covered more domain :=
  covered.imp (fun member => included member) fun member => included member

/-- What loading host rules adds to a native list. -/
structure Loaded (before after : BlacklistDomains) (hosts : List Host) : Prop where
  kept : before ⊆ after
  source : ∀ domain ∈ after, domain ∈ before ∨ ∃ host ∈ hosts, cleanDomain host = domain
  covered : ∀ host ∈ hosts, cleanDomain (cleanDomain host) = cleanDomain host →
    Covered after (cleanDomain host)

theorem blacklistAddDomain_loaded (domains : BlacklistDomains) (host : Host) :
    Loaded domains (blacklistAddDomain domains host).1 [host] := by
  simp only [blacklistAddDomain]
  split
  next duplicate =>
    refine ⟨List.Subset.refl domains, fun domain member => .inl member, ?_⟩
    intro other only plain
    rw [List.mem_singleton.mp only] at plain ⊢
    obtain ⟨key, looked, member⟩ := (blacklistMatchDomain_iff _ _).mp duplicate
    simp only [nativeKeys, plain, List.mem_cons, List.not_mem_nil, or_false] at looked
    rcases looked with rfl | rfl
    · exact .inl member
    · exact .inr member
  next =>
    refine ⟨List.subset_append_left domains _, ?_, ?_⟩
    · grind
    · intro other only _
      rw [List.mem_singleton.mp only]
      exact .inl (List.mem_append_right domains (List.mem_singleton_self _))

theorem Loaded.cons {first second third : BlacklistDomains} {host : Host} {hosts : List Host}
    (earlier : Loaded first second [host]) (later : Loaded second third hosts) :
    Loaded first third (host :: hosts) := by
  refine ⟨List.Subset.trans earlier.kept later.kept, ?_, ?_⟩
  · intro domain member
    rcases later.source domain member with old | ⟨source, listed, same⟩
    · rcases earlier.source domain old with older | ⟨source, listed, same⟩
      · exact .inl older
      · grind
    · grind
  · intro other member plain
    rcases List.mem_cons.mp member with rfl | listed
    · exact (earlier.covered other (List.mem_singleton_self other) plain).mono later.kept
    · exact later.covered other listed plain

/-- Loading succeeds, and leaves every rule covered that does not start with a second
prefix. -/
theorem blLoadDomains_loaded (domains : BlacklistDomains) (hosts : List Host) :
    ∃ after, blLoadDomains domains hosts = some after ∧ Loaded domains after hosts := by
  induction hosts generalizing domains with
  | nil =>
    refine ⟨domains, rfl, List.Subset.refl domains, fun domain member => .inl member, ?_⟩
    grind
  | cons host hosts ih =>
    obtain ⟨after, loading, loaded⟩ := ih (blacklistAddDomain domains host).1
    refine ⟨after, ?_, (blacklistAddDomain_loaded domains host).cons loaded⟩
    have accepted : (blacklistAddDomain domains host).2 = 0 ∨
        (blacklistAddDomain domains host).2 = -eaddrinuse := by
      simp only [blacklistAddDomain]
      grind
    rw [blLoadDomains]
    exact (if_pos accepted).trans loading

/-! ## Agreement -/

theorem cleanDomain_of_plain (plain : www.isPrefixOf domain = false) :
    cleanDomain domain = domain := by
  unfold cleanDomain
  rw [plain]
  rfl

/-- Without its `www.` the rule is the host or its second-level domain, and the native list has
it.  A rule that has no other `www.` behind the first is never missing there. -/
structure FoundNatively (domains : BlacklistDomains) (host rule : Host) : Prop where
  named : cleanDomain rule ∈ nativeKeys host
  stored : www.isPrefixOf (cleanDomain rule) = true → cleanDomain rule ∈ domains

/-- The rules that only `matchesHost` looks up for a host. -/
inductive JavaOnly (host rule : Host) : Prop
  /-- `matchesHost` removes `www.` twice. -/
  | cleanedTwice (starts : www.isPrefixOf (cleanDomain host) = true)
      (same : rule = cleanDomain (cleanDomain host))
  /-- The native list removes the `www.` of a second-level domain. -/
  | keptPrefix (starts : www.isPrefixOf rule = true)
      (same : rule = getSecondLevelDomain (cleanDomain host))
      (different : rule ≠ cleanDomain host)

/-- The rules that only the native list finds for a host. -/
inductive NativeOnly (domains : BlacklistDomains) (host rule : Host) : Prop
  /-- The native list removes the `www.` of a rule that `MatchList` keeps. -/
  | strippedPrefix (starts : www.isPrefixOf rule = true) (found : FoundNatively domains host rule)
  /-- A leading dot counts as a label for the native code only. -/
  | leadingDot (plain : www.isPrefixOf rule = false) (shape : cleanDomain host = '.' :: rule)
      (same : rule = getSecondLevelDomainNative (cleanDomain host))

/-- A rule that only one side finds comes with one that the other side finds. -/
structure Balanced (rules : HostRules) (domains : BlacklistDomains) (host : Host) : Prop where
  java : ∀ rule ∈ rules, JavaOnly host rule → ∃ other ∈ rules, FoundNatively domains host other
  native : ∀ rule ∈ rules, NativeOnly domains host rule → ∃ other ∈ rules, other ∈ javaKeys host

section Agreement

variable {rules : HostRules} {host rule : Host}

theorem mem_javaKeys : rule ∈ javaKeys host ↔ rule = cleanDomain (cleanDomain host) ∨
    rule = getSecondLevelDomain (cleanDomain host) ∧ rule ≠ cleanDomain host := by
  unfold javaKeys
  dsimp only
  rw [List.mem_cons]
  refine or_congr Iff.rfl ?_
  split
  next own =>
    refine iff_of_false List.not_mem_nil fun second => second.2 ?_
    rw [second.1, own]
  next different =>
    rw [List.mem_singleton, iff_self_and]
    rintro rfl
    exact different

/-- The loaded list matches the hosts for which it has a rule. -/
theorem Loaded.match_iff (loaded : Loaded [] domains rules) :
    blacklistMatchDomain domains host = true ↔ ∃ rule ∈ rules, FoundNatively domains host rule := by
  rw [blacklistMatchDomain_iff]
  constructor
  · rintro ⟨key, looked, member⟩
    rcases loaded.source key member with none | ⟨rule, listed, rfl⟩
    · cases none
    · exact ⟨rule, listed, looked, fun _ => member⟩
  · rintro ⟨rule, listed, looked, stored⟩
    cases starts : www.isPrefixOf (cleanDomain rule) with
    | true => exact ⟨cleanDomain rule, looked, stored starts⟩
    | false =>
      rcases loaded.covered rule listed (cleanDomain_of_plain starts) with member | member
      · exact ⟨cleanDomain rule, looked, member⟩
      · refine ⟨getSecondLevelDomainNative (cleanDomain rule), ?_, member⟩
        simp only [nativeKeys, List.mem_cons, List.not_mem_nil, or_false] at looked ⊢
        rcases looked with same | same
        · exact .inr (congrArg getSecondLevelDomainNative same)
        · rw [same]
          exact .inr (secondLevelNative_idem (cleanDomain host))

theorem JavaOnly.mem_javaKeys (javaOnly : JavaOnly host rule) : rule ∈ javaKeys host := by
  cases javaOnly with
  | cleanedTwice starts same => exact Lists.mem_javaKeys.mpr (.inl same)
  | keptPrefix starts same different => exact Lists.mem_javaKeys.mpr (.inr ⟨same, different⟩)

theorem FoundNatively.of_plain (plain : www.isPrefixOf rule = false)
    (named : rule ∈ nativeKeys host) : FoundNatively domains host rule := by
  have clean := cleanDomain_of_plain plain
  refine ⟨by rwa [clean], fun starts => ?_⟩
  rw [clean, plain] at starts
  cases starts

theorem NativeOnly.found (nativeOnly : NativeOnly domains host rule) :
    FoundNatively domains host rule := by
  cases nativeOnly with
  | strippedPrefix starts found => exact found
  | leadingDot plain shape same =>
    refine .of_plain plain ?_
    rw [same]
    exact List.mem_cons_of_mem _ (List.mem_singleton_self _)

/-- What `matchesHost` looks up is found by the native list, or it is one of the exceptions. -/
theorem found_or_javaOnly (looked : rule ∈ javaKeys host) :
    FoundNatively domains host rule ∨ JavaOnly host rule := by
  rcases mem_javaKeys.mp looked with same | ⟨same, different⟩
  · cases starts : www.isPrefixOf (cleanDomain host) with
    | true => exact .inr (.cleanedTwice starts same)
    | false =>
      rw [cleanDomain_of_plain starts] at same
      subst same
      exact .inl (.of_plain starts List.mem_cons_self)
  · cases starts : www.isPrefixOf rule with
    | true => exact .inr (.keptPrefix starts same different)
    | false =>
      refine .inl (.of_plain starts ?_)
      rcases secondLevel_java (cleanDomain host) with both | ⟨own, _⟩
      · rw [same, both]
        exact List.mem_cons_of_mem _ (List.mem_singleton_self _)
      · exact absurd (same.trans own) different

/-- What the native list finds is looked up by `matchesHost`, or it is one of the exceptions. -/
theorem looked_or_nativeOnly (found : FoundNatively domains host rule) :
    rule ∈ javaKeys host ∨ NativeOnly domains host rule := by
  cases starts : www.isPrefixOf rule with
  | true => exact .inr (.strippedPrefix starts found)
  | false =>
    have named := found.named
    rw [cleanDomain_of_plain starts] at named
    simp only [nativeKeys, List.mem_cons, List.not_mem_nil, or_false] at named
    rcases named with rfl | same
    · exact .inl (mem_javaKeys.mpr (.inl (cleanDomain_of_plain starts).symm))
    · by_cases own : rule = cleanDomain host
      · refine .inl (mem_javaKeys.mpr (.inl ?_))
        rw [← own, cleanDomain_of_plain starts]
      · rcases secondLevel_java (cleanDomain host) with both | ⟨_, shape⟩
        · exact .inl (mem_javaKeys.mpr (.inr ⟨same.trans both.symm, own⟩))
        · rw [← same] at shape
          exact .inr (.leadingDot starts shape same)

/-- The two implementations agree on a host just if the rules are balanced for it. -/
theorem match_eq_iff (loaded : Loaded [] domains rules) :
    matchesHost rules host = blacklistMatchDomain domains host ↔ Balanced rules domains host := by
  rw [Bool.eq_iff_iff, matchesHost_iff, loaded.match_iff]
  constructor
  · intro agree
    constructor
    · intro rule listed javaOnly
      exact agree.mp ⟨rule, javaOnly.mem_javaKeys, listed⟩
    · intro rule listed nativeOnly
      obtain ⟨key, looked, member⟩ := agree.mpr ⟨rule, listed, nativeOnly.found⟩
      exact ⟨key, member, looked⟩
  · intro balanced
    constructor
    · rintro ⟨key, looked, listed⟩
      rcases found_or_javaOnly looked with found | javaOnly
      · exact ⟨key, listed, found⟩
      · exact balanced.java key listed javaOnly
    · rintro ⟨rule, listed, found⟩
      rcases looked_or_nativeOnly found with looked | nativeOnly
      · exact ⟨rule, looked, listed⟩
      · obtain ⟨other, member, looked⟩ := balanced.native rule listed nativeOnly
        exact ⟨other, looked, member⟩

end Agreement

/-- Java and native host matching agree on a host just if no rule that one side alone finds is
without a counterpart, for every list of host rules. -/
theorem hosts_agree_iff (changes : List RuleChange) (host : Host) :
    ∃ domains, blLoadDomains [] (toListDescriptor (hostRules changes)) = some domains ∧
      (matchesHost (hostRules changes) host = blacklistMatchDomain domains host ↔
        Balanced (hostRules changes) domains host) := by
  obtain ⟨domains, loading, loaded⟩ := blLoadDomains_loaded [] (hostRules changes)
  exact ⟨domains, loading, match_eq_iff loaded⟩

/-- A rule with `www.` twice, which the native list drops, beside one that covers the host for
both. -/
def doubledRules : HostRules := ["a.b".toList, "www.www.c.a.b".toList]

theorem hosts_agree_doubled_prefix :
    Balanced doubledRules ["a.b".toList] "www.www.c.a.b".toList ∧
      matchesHost doubledRules "www.www.c.a.b".toList =
        blacklistMatchDomain ["a.b".toList] "www.www.c.a.b".toList := by
  have balanced : Balanced doubledRules ["a.b".toList] "www.www.c.a.b".toList := by
    constructor
    · exact fun _ _ _ => ⟨"a.b".toList, by decide, by decide, by decide⟩
    · exact fun _ _ _ => ⟨"a.b".toList, by decide, by decide⟩
  obtain ⟨domains, loading, agree⟩ :=
    hosts_agree_iff [.fromJson doubledRules (-1)] "www.www.c.a.b".toList
  cases loading.symm.trans
    (by decide : blLoadDomains [] (hostRules [.fromJson doubledRules (-1)]) = some ["a.b".toList])
  exact ⟨balanced, agree.mpr balanced⟩

/-- A rule imported as `www.a.b` matches the host `www.a.b` in the capture but not in the
user interface. -/
theorem imported_www_rule_disagrees :
    matchesHost (hostRules [.fromJson [['w', 'w', 'w', '.', 'a', '.', 'b']] (-1)])
        ['w', 'w', 'w', '.', 'a', '.', 'b'] = false ∧
      (blLoadDomains [] (toListDescriptor
        (hostRules [.fromJson [['w', 'w', 'w', '.', 'a', '.', 'b']] (-1)]))).map
        (blacklistMatchDomain · ['w', 'w', 'w', '.', 'a', '.', 'b']) = some true := by
  decide

end PcapdroidFormal.Lists
