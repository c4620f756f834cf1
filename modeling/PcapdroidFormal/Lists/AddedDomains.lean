import PcapdroidFormal.Foundation.Runs
import PcapdroidFormal.Lists.HostAgreement

/-!
# Domains that have been added

`blacklist_add_domain` drops a domain that the list already matches.  The list still stands
for all the domains that were added, in any order, unless a domain was dropped that nothing in
the list covers: `blacklist_match_domain` removes another `www.` from a domain from which
`blacklist_add_domain` has removed one.
-/

namespace PcapdroidFormal.Lists

open PcapdroidFormal.Core Foundation

/-! ## The rules and the list -/

structure AddedDomains where
  rules : List Host
  domains : BlacklistDomains

namespace AddedDomains

/-- An empty list. -/
def empty : AddedDomains := ⟨[], []⟩

/-- `blacklist_add_domain` is called. -/
def add (state : AddedDomains) (rule : Host) : AddedDomains :=
  ⟨state.rules ++ [rule], (blacklistAddDomain state.domains rule).1⟩

end AddedDomains

/-- A rule names the host or its second-level domain. -/
def Named (rules : List Host) (host : Host) : Prop :=
  ∃ rule ∈ rules, cleanDomain host = cleanDomain rule ∨
    getSecondLevelDomainNative (cleanDomain host) = cleanDomain rule

structure MatchesRules (rules : List Host) (domains : BlacklistDomains) : Prop where
  own : ∀ rule ∈ rules, blacklistMatchDomain domains rule = true
  exactly : ∀ host, blacklistMatchDomain domains host = true ↔ Named rules host

/-- What is dropped is covered: where the list has what `blacklist_match_domain` looks up for
the rule without its `www.`, it also has this rule or its second-level domain. -/
def DropsCovered (state : AddedDomains) (rule : Host) : Prop :=
  (∃ key ∈ nativeKeys (cleanDomain rule), key ∈ state.domains) →
    Covered state.domains (cleanDomain rule)

/-! ## One addition -/

theorem mem_nativeKeys {host key : Host} :
    key ∈ nativeKeys host ↔
      cleanDomain host = key ∨ getSecondLevelDomainNative (cleanDomain host) = key := by
  simp only [nativeKeys, List.mem_cons, List.not_mem_nil, or_false]
  exact or_congr eq_comm eq_comm

theorem match_iff_covered (domains : BlacklistDomains) (host : Host) :
    blacklistMatchDomain domains host = true ↔ Covered domains (cleanDomain host) := by
  rw [blacklistMatchDomain_iff]
  constructor
  · rintro ⟨key, looked, member⟩
    rcases mem_nativeKeys.mp looked with rfl | rfl
    · exact .inl member
    · exact .inr member
  · rintro (member | member)
    · exact ⟨_, mem_nativeKeys.mpr (.inl rfl), member⟩
    · exact ⟨_, mem_nativeKeys.mpr (.inr rfl), member⟩

/-- The list has nothing but rules. -/
def Sourced (state : AddedDomains) : Prop :=
  ∀ domain ∈ state.domains, ∃ rule ∈ state.rules, cleanDomain rule = domain

variable {state : AddedDomains}

theorem Sourced.add (sourced : Sourced state) (rule : Host) : Sourced (state.add rule) := by
  intro domain member
  rcases (blacklistAddDomain_loaded state.domains rule).source domain member with old | new
  · obtain ⟨other, listed, same⟩ := sourced domain old
    exact ⟨other, List.mem_append_left _ listed, same⟩
  · obtain ⟨other, only, same⟩ := new
    exact ⟨other, List.mem_append_right _ only, same⟩

/-- A list stands for its rules just if it covers them. -/
theorem matchesRules_iff (sourced : Sourced state) : MatchesRules state.rules state.domains ↔
      ∀ rule ∈ state.rules, Covered state.domains (cleanDomain rule) := by
  constructor
  · exact fun faithful rule listed => (match_iff_covered _ _).mp (faithful.own rule listed)
  · intro covers
    refine ⟨fun rule listed => (match_iff_covered _ _).mpr (covers rule listed), fun host => ?_⟩
    rw [match_iff_covered]
    constructor
    · rintro (member | member)
      · obtain ⟨rule, listed, same⟩ := sourced _ member
        exact ⟨rule, listed, .inl same.symm⟩
      · obtain ⟨rule, listed, same⟩ := sourced _ member
        exact ⟨rule, listed, .inr same.symm⟩
    · rintro ⟨rule, listed, same | same⟩
      · grind
      · -- a second-level domain is its own, so that it covers in one way only
        have idem := secondLevelNative_idem (cleanDomain host)
        rw [same] at idem
        refine .inr ?_
        rw [same]
        rcases covers rule listed with member | member
        · exact member
        · rwa [idem] at member

/-- The list stands for its rules after an addition just if what was dropped is covered. -/
theorem matchesRules_add_iff (sourced : Sourced state)
    (faithful : MatchesRules state.rules state.domains) (rule : Host) :
    MatchesRules (state.add rule).rules (state.add rule).domains ↔ DropsCovered state rule := by
  rw [matchesRules_iff sourced] at faithful
  rw [matchesRules_iff (sourced.add rule)]
  have looked := blacklistMatchDomain_iff state.domains (cleanDomain rule)
  simp only [AddedDomains.add, blacklistAddDomain, DropsCovered, ← looked]
  split
  next duplicate =>
    grind
  next new =>
    refine iff_of_true ?_ (fun duplicate => absurd duplicate new)
    refine List.forall_mem_append.mpr ⟨fun other listed => ?_, List.forall_mem_singleton.mpr ?_⟩
    · exact (faithful other listed).mono (List.subset_append_left _ _)
    · exact .inl (List.mem_append_right _ (List.mem_singleton_self _))

/-- A rule that does not start with a second `www.` is dropped by what covers it. -/
theorem dropsCovered_of_plain (state : AddedDomains) {rule : Host}
    (plain : www.isPrefixOf (cleanDomain rule) = false) : DropsCovered state rule := by
  rintro ⟨key, looked, member⟩
  rw [mem_nativeKeys, cleanDomain_of_plain plain] at looked
  rcases looked with rfl | rfl
  · exact .inl member
  · exact .inr member

/-! ## All additions -/

/-- The list after these additions. -/
def addDomains (rules : List Host) : BlacklistDomains :=
  rules.foldl (fun domains rule => (blacklistAddDomain domains rule).1) []

theorem subset_addDomains (rules : List Host) (domains : BlacklistDomains) :
    domains ⊆ rules.foldl (fun domains rule => (blacklistAddDomain domains rule).1) domains := by
  induction rules generalizing domains with
  | nil => exact List.Subset.refl domains
  | cons rule rules ih =>
    exact List.Subset.trans (blacklistAddDomain_loaded domains rule).kept (ih _)

/-- A rule is in the list, or the list has what made it count as a duplicate. -/
theorem stored_or_duplicate {rules : List Host} {rule : Host} (listed : rule ∈ rules)
    (domains : BlacklistDomains) :
    let after := rules.foldl (fun domains rule => (blacklistAddDomain domains rule).1) domains
    cleanDomain rule ∈ after ∨ ∃ key ∈ nativeKeys (cleanDomain rule), key ∈ after := by
  induction rules generalizing domains with
  | nil => cases listed
  | cons first rules ih =>
    rcases List.mem_cons.mp listed with rfl | later
    · have kept := subset_addDomains rules (blacklistAddDomain domains rule).1
      rw [List.foldl_cons]
      by_cases duplicate : blacklistMatchDomain domains (cleanDomain rule) = true
      · obtain ⟨key, looked, member⟩ := (blacklistMatchDomain_iff _ _).mp duplicate
        have before := (blacklistAddDomain_loaded domains rule).kept
        exact .inr ⟨key, looked, kept (before member)⟩
      · refine .inl (kept ?_)
        simp only [blacklistAddDomain, if_neg duplicate]
        exact List.mem_append_right domains (List.mem_singleton_self _)
    · exact ih later _

/-- The list matches its rules just if it covers what was dropped, whenever that was added. -/
theorem addDomains_own_iff (rules : List Host) :
    (∀ rule ∈ rules, blacklistMatchDomain (addDomains rules) rule = true) ↔
      ∀ rule ∈ rules, DropsCovered ⟨rules, addDomains rules⟩ rule := by
  constructor
  · exact fun own rule listed _ => (match_iff_covered _ _).mp (own rule listed)
  · intro covers rule listed
    refine (match_iff_covered _ _).mpr ?_
    rcases stored_or_duplicate listed [] with stored | duplicate
    · exact .inl stored
    · exact covers rule listed duplicate

theorem run_add (state : AddedDomains) (rules : List Host) :
    run AddedDomains.add state rules = ⟨state.rules ++ rules,
      rules.foldl (fun domains rule => (blacklistAddDomain domains rule).1) state.domains⟩ := by
  induction rules generalizing state with
  | nil => simp
  | cons rule rules ih =>
    rw [run_cons, ih, AddedDomains.add, List.append_assoc, List.singleton_append,
      List.foldl_cons]

/-- The domains of a list match, with no others than they name, after every addition, just if
every domain that was dropped is covered; the order of the additions is then of no account. -/
theorem added_domains_match (rules : List Host) :
    ((∀ first second, rules = first ++ second → MatchesRules first (addDomains first)) ↔
        Guarded AddedDomains.add DropsCovered .empty rules) ∧
      ∀ other, (∀ rule, rule ∈ other ↔ rule ∈ rules) →
        Guarded AddedDomains.add DropsCovered .empty rules →
        Guarded AddedDomains.add DropsCovered .empty other →
        ∀ host, blacklistMatchDomain (addDomains other) host =
          blacklistMatchDomain (addDomains rules) host := by
  have sound (rules : List Host) :
      (∀ first second, rules = first ++ second → MatchesRules first (addDomains first)) ↔
        Guarded AddedDomains.add DropsCovered .empty rules := by
    have start : MatchesRules [] [] :=
      (@matchesRules_iff .empty (List.forall_mem_nil _)).mpr (List.forall_mem_nil _)
    have steps := @guarded_iff _ _ AddedDomains.add DropsCovered Sourced
      (fun state => MatchesRules state.rules state.domains)
      (fun state rule sourced _ => sourced.add rule)
      (fun state rule sourced faithful => matchesRules_add_iff sourced faithful rule)
      .empty (List.forall_mem_nil _) start rules
    rw [← steps]
    simp only [run_add, AddedDomains.empty, List.nil_append]
    exact Iff.rfl
  refine ⟨sound rules, fun other same guarded guardedOther host => ?_⟩
  have first := ((sound rules).mpr guarded rules [] (List.append_nil rules).symm).exactly host
  have second := ((sound other).mpr guardedOther other [] (List.append_nil other).symm).exactly host
  rw [Bool.eq_iff_iff, first, second]
  simp only [Named, same]

theorem guarded_of_plain (state : AddedDomains) {rules : List Host}
    (plain : ∀ rule ∈ rules, www.isPrefixOf (cleanDomain rule) = false) :
    Guarded AddedDomains.add DropsCovered state rules := by
  induction rules generalizing state with
  | nil => trivial
  | cons rule rules ih =>
    obtain ⟨first, rest⟩ := List.forall_mem_cons.mp plain
    exact ⟨dropsCovered_of_plain state first, ih _ rest⟩

/-- A domain and a subdomain of it. -/
def exampleRules : List Host := ["www.example.org".toList, "a.example.org".toList]

theorem subdomain_in_any_order :
    MatchesRules exampleRules (addDomains exampleRules) ∧
      blacklistMatchDomain (addDomains exampleRules.reverse) "b.example.org".toList =
        blacklistMatchDomain (addDomains exampleRules) "b.example.org".toList := by
  have guarded : Guarded AddedDomains.add DropsCovered .empty exampleRules :=
    guarded_of_plain _ (by decide +kernel)
  have reversed : Guarded AddedDomains.add DropsCovered .empty exampleRules.reverse :=
    guarded_of_plain _ (by decide +kernel)
  obtain ⟨sound, anyOrder⟩ := added_domains_match exampleRules
  refine ⟨sound.mpr guarded exampleRules [] (List.append_nil _).symm, ?_⟩
  exact anyOrder exampleRules.reverse (fun _ => List.mem_reverse) guarded reversed _

/-- A domain with `www.` twice is dropped by what is behind it, and no longer matches. -/
theorem dropped_domain_does_not_match :
    blacklistMatchDomain (addDomains ["com".toList, "www.www.com".toList])
        "www.www.com".toList = false ∧
      blacklistMatchDomain (addDomains ["www.www.com".toList, "com".toList])
        "www.www.com".toList = true := by
  decide +kernel

end PcapdroidFormal.Lists
