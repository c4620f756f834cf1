import PcapdroidFormal.Foundation.Runs
import PcapdroidFormal.Foundation.ValueIndex
import PcapdroidFormal.Lists.MatchLists

/-!
# The apps of a rule list

A `MatchList` matches apps by uid.  It keeps the uid of the package of each rule of
type `APP` in `mPackageToUid`, and all these uids in `mUids`.  Packages get new uids
when they are installed again, and several packages may have one uid, so each call
comes with the resolver of its time.
-/

namespace PcapdroidFormal.Lists

open PcapdroidFormal.Core Foundation

variable {packageName : Host}

structure Installed extends AppsResolver where
  descriptorUid : Int32 → Int32

def Installed.getAppUid (resolver : Installed) (packageName : Host) : Option Int32 :=
  (resolver.getAppByPackage packageName).map fun _ =>
    resolver.descriptorUid (resolver.getUid packageName)

def matchKey (type : RuleType) (value : Host) : Host := type.name ++ '@' :: value

/-- The name of a type ends at the first `@` of the key. -/
theorem matchKey_takeWhile (type : RuleType) (value : Host) :
    (matchKey type value).takeWhile (· ≠ '@') = type.name := by
  cases type <;> rfl

theorem matchKey_inj {rule other : Rule}
    (same : matchKey rule.type rule.value = matchKey other.type other.value) : rule = other := by
  obtain ⟨type, value⟩ := rule
  obtain ⟨otherType, otherValue⟩ := other
  have names : type.name = otherType.name := by
    rw [← matchKey_takeWhile type value, ← matchKey_takeWhile otherType otherValue]
    exact congrArg _ same
  have types : type = otherType := by
    revert names
    cases type <;> cases otherType <;> decide
  subst types
  have values : value = otherValue := by simpa [matchKey] using same
  rw [values]

structure AppMatchList where
  rules : List Rule
  matchKeys : List Host
  packageToUid : AList fun _ : Host => Int32
  uids : List Int32

namespace AppMatchList

def empty : AppMatchList := ⟨[], [], ∅, []⟩

/-- The rules and the uids, without the collections that index them. -/
def toMatchList (list : AppMatchList) : MatchList := ⟨list.rules, list.uids⟩

def matchesApp (list : AppMatchList) (uid : Int32) : Bool := list.uids.contains uid

def addUid (list : AppMatchList) (packageName : Host) (uid : Int32) : AppMatchList :=
  { list with
    packageToUid := list.packageToUid.insert packageName uid
    uids := list.uids.insert uid }

def removeUid (list : AppMatchList) (packageName : Host) (uid : Int32) : AppMatchList :=
  { list with
    packageToUid := list.packageToUid.erase packageName
    uids := list.uids.filter (· ≠ uid) }

/-- `mRules.add` and `mMatches.put`. -/
def putRule (list : AppMatchList) (rule : Rule) : AppMatchList :=
  { list with
    rules := list.rules ++ [rule]
    matchKeys := list.matchKeys.insert (matchKey rule.type rule.value) }

/-- `mRules.remove` and `mMatches.remove`. -/
def dropRule (list : AppMatchList) (rule : Rule) : AppMatchList :=
  { list with
    rules := list.rules.erase rule
    matchKeys := list.matchKeys.filter (· ≠ matchKey rule.type rule.value) }

section Calls

variable (resolver : Installed)

/-- `addRule`; the result says whether the rule is a new one. -/
def addRule (list : AppMatchList) (rule : Rule) : AppMatchList × Bool :=
  if list.matchKeys.contains (matchKey rule.type rule.value) then (list, false)
  else if rule.type = .app then
    let uid := resolver.getUid rule.value
    if uid = uidNoFilter then (list, false)
    else ((list.addUid rule.value uid).putRule rule, true)
  else (list.putRule rule, true)

def addApp (list : AppMatchList) (packageName : Host) : AppMatchList × Bool :=
  addRule resolver list ⟨.app, packageName⟩

def addRules (list : AppMatchList) (toAdd : AppMatchList) : AppMatchList × Nat :=
  addAll (addRule resolver) list toAdd.rules

def removeRule (list : AppMatchList) (rule : Rule) : AppMatchList :=
  let list := list.dropRule rule
  if rule.type = .app then
    let uid := resolver.getUid rule.value
    if uid ≠ uidNoFilter then list.removeUid rule.value uid else list
  else list

def removeApp (list : AppMatchList) (packageName : Host) : AppMatchList :=
  removeRule resolver list ⟨.app, packageName⟩

def clear (_ : AppMatchList) : AppMatchList := empty

def deserialize (list : AppMatchList) (members : List (Host × Json)) (maxRules : Int) :
    AppMatchList × Except JavaException Int :=
  importMembers resolver.toAppsResolver (addRule resolver) list.clear list members maxRules

def fromJson (list : AppMatchList) (document : Option Json) (maxRules : Int) :
    AppMatchList × Except JavaException Int :=
  importDocument resolver.toAppsResolver (addRule resolver) list.clear list document maxRules

def uidMappingChanged (list : AppMatchList) (packageName : Host) : AppMatchList × Bool :=
  if list.matchKeys.contains (matchKey .app packageName) then
    match list.packageToUid.lookup packageName, resolver.getAppUid packageName with
    | some oldUid, some newUid =>
      if newUid ≠ oldUid then
        ((list.removeUid packageName oldUid).addUid packageName newUid, true)
      else (list, false)
    | some oldUid, none => (list.removeUid packageName oldUid, true)
    | none, some newUid => (list.addUid packageName newUid, true)
    | none, none => (list, false)
  else (list, false)

end Calls

/-! ## The keys of the rules -/

structure Keyed (list : AppMatchList) : Prop where
  distinct : list.rules.Nodup
  keys : ∀ rule : Rule, matchKey rule.type rule.value ∈ list.matchKeys ↔ rule ∈ list.rules

namespace Keyed

variable {list : AppMatchList} {resolver : Installed} {rule : Rule}

theorem empty : Keyed empty := ⟨List.nodup_nil, fun _ => by simp [AppMatchList.empty]⟩

variable (keyed : Keyed list)
include keyed

theorem contains_eq (rule : Rule) :
    list.matchKeys.contains (matchKey rule.type rule.value) = list.rules.contains rule := by
  rw [Bool.eq_iff_iff, List.contains_iff_mem, List.contains_iff_mem]
  exact keyed.keys rule

theorem putRule (new : rule ∉ list.rules) : Keyed (list.putRule rule) := by
  refine ⟨?_, fun other => ?_⟩
  · exact List.nodup_append.mpr ⟨keyed.distinct, List.nodup_singleton rule,
      fun member inside same only equal =>
        new (List.mem_singleton.mp only ▸ equal ▸ inside)⟩
  · have keys : matchKey other.type other.value = matchKey rule.type rule.value ↔ other = rule :=
      ⟨matchKey_inj, fun same => by rw [same]⟩
    simp only [AppMatchList.putRule, List.mem_insert_iff, List.mem_append, List.mem_singleton,
      keyed.keys, keys]
    exact or_comm

theorem dropRule (rule : Rule) : Keyed (list.dropRule rule) := by
  refine ⟨keyed.distinct.erase rule, fun other => ?_⟩
  have keys : matchKey other.type other.value = matchKey rule.type rule.value ↔ other = rule :=
    ⟨matchKey_inj, fun same => by rw [same]⟩
  simp only [AppMatchList.dropRule, keyed.distinct.mem_erase_iff, List.mem_filter, keyed.keys,
    ne_eq, decide_not, Bool.not_eq_true', decide_eq_false_iff_not, keys]
  exact and_comm

theorem addRule (resolver : Installed) (rule : Rule) : Keyed (addRule resolver list rule).1 := by
  unfold AppMatchList.addRule
  rw [keyed.contains_eq]
  split
  next => exact keyed
  next absent =>
    have new : rule ∉ list.rules := fun member => absent (List.contains_iff_mem.mpr member)
    split
    next =>
      dsimp only
      split
      next => exact keyed
      next => exact Keyed.putRule ⟨keyed.distinct, keyed.keys⟩ new
    next => exact keyed.putRule new

theorem removeRule (resolver : Installed) (rule : Rule) :
    Keyed (removeRule resolver list rule) := by
  have dropped := keyed.dropRule rule
  unfold AppMatchList.removeRule
  dsimp only
  split
  next =>
    split
    next => exact ⟨dropped.distinct, dropped.keys⟩
    next => exact dropped
  next => exact dropped

theorem uidMappingChanged (resolver : Installed) (packageName : Host) :
    Keyed (uidMappingChanged resolver list packageName).1 := by
  unfold AppMatchList.uidMappingChanged
  repeat' split
  all_goals exact ⟨keyed.distinct, keyed.keys⟩

end Keyed

/-! ## Without the indexes -/

section Forgetting

variable {list : AppMatchList} (resolver : Installed)

/-- A rule is added as it is added to the list without its indexes. -/
theorem addRule_toMatchList (keyed : Keyed list) (rule : Rule) :
    list.toMatchList.addRule resolver.toAppsResolver rule =
      ((addRule resolver list rule).1.toMatchList, (addRule resolver list rule).2) := by
  unfold MatchList.addRule addRule
  rw [keyed.contains_eq]
  show (if list.rules.contains rule then _ else _) = _
  split
  next => rfl
  next =>
    split
    next =>
      dsimp only
      split <;> rfl
    next => rfl

/-- `fromJson` gives the rules and the uids of the list without its indexes, also at an
exception. -/
theorem fromJson_toMatchList (document : Option Json) (maxRules : Int) :
    list.toMatchList.fromJson resolver.toAppsResolver document maxRules =
      ((fromJson resolver list document maxRules).1.toMatchList,
        (fromJson resolver list document maxRules).2) := by
  have kept (list : AppMatchList) (rule : Rule) (keyed : Keyed list) :
      Keyed (addRule resolver list rule).1 := keyed.addRule resolver rule
  exact importDocument_view resolver.toAppsResolver kept
    (fun _ rule keyed => addRule_toMatchList resolver keyed rule) .empty list document maxRules

end Forgetting

end AppMatchList

/-! ## Calls -/

/-- The public calls that change a list. -/
inductive ListCall where
  | addApp (packageName : Host)
  | removeApp (packageName : Host)
  | addRule (rule : Rule)
  | removeRule (rule : Rule)
  | addRules (toAdd : AppMatchList)
  | fromJson (document : Option Json) (maxRules : Int)
  | clear
  | uidMappingChanged (packageName : Host)

namespace AppMatchList

/-- A call with the resolver of its time. -/
def perform (list : AppMatchList) (call : Installed × ListCall) : AppMatchList :=
  match call with
  | (resolver, .addApp packageName) => (list.addApp resolver packageName).1
  | (resolver, .removeApp packageName) => list.removeApp resolver packageName
  | (resolver, .addRule rule) => (list.addRule resolver rule).1
  | (resolver, .removeRule rule) => list.removeRule resolver rule
  | (resolver, .addRules toAdd) => (list.addRules resolver toAdd).1
  | (resolver, .fromJson document maxRules) => (list.fromJson resolver document maxRules).1
  | (_, .clear) => list.clear
  | (resolver, .uidMappingChanged packageName) => (list.uidMappingChanged resolver packageName).1

theorem Keyed.perform {list : AppMatchList} (keyed : Keyed list) (call : Installed × ListCall) :
    Keyed (list.perform call) := by
  obtain ⟨resolver, call⟩ := call
  have added (list : AppMatchList) (rule : Rule) (keyed : Keyed list) :
      Keyed (list.addRule resolver rule).1 := keyed.addRule resolver rule
  cases call with
  | addApp packageName => exact added list _ keyed
  | removeApp packageName => exact keyed.removeRule resolver ⟨.app, packageName⟩
  | addRule rule => exact added list rule keyed
  | removeRule rule => exact keyed.removeRule resolver rule
  | addRules toAdd => exact addAll_invariant added keyed toAdd.rules
  | fromJson document maxRules =>
    exact importDocument_invariant resolver.toAppsResolver added .empty keyed document maxRules
  | clear => exact .empty
  | uidMappingChanged packageName => exact keyed.uidMappingChanged resolver packageName

/-- The uids are those of the packages, the packages are those of rules of the list, and so an
app is matched if a rule is mapped to its uid. -/
structure InStep (list : AppMatchList) : Prop where
  uids : ∀ uid, uid ∈ list.uids ↔ ∃ packageName, list.packageToUid.lookup packageName = some uid
  packages : ∀ packageName ∈ list.packageToUid, ⟨.app, packageName⟩ ∈ list.rules
  matched : ∀ uid, list.matchesApp uid ↔
    ∃ rule ∈ list.rules, rule.type = .app ∧ list.packageToUid.lookup rule.value = some uid

/-- When the package of a rule may be removed: no other package has the uid that it has now,
and no uid of it stays behind. -/
def Removable (resolver : Installed) (list : AppMatchList) (packageName : Host) : Prop :=
  let uid := resolver.getUid packageName
  if uid = uidNoFilter then packageName ∉ list.packageToUid
  else Unshared list.packageToUid packageName uid ∧
    ∀ old ∈ list.packageToUid.lookup packageName,
      old ≠ uid → ¬ Unshared list.packageToUid packageName old

/-- When the uid of a package may change: no other package has the old one. -/
def Changeable (resolver : Installed) (list : AppMatchList) (packageName : Host) : Prop :=
  ⟨.app, packageName⟩ ∈ list.rules →
    ∀ old ∈ list.packageToUid.lookup packageName, resolver.getAppUid packageName ≠ some old →
      Unshared list.packageToUid packageName old

/-- The condition for each call. -/
def Careful (list : AppMatchList) (call : Installed × ListCall) : Prop :=
  match call with
  | (resolver, .removeApp packageName) => Removable resolver list packageName
  | (resolver, .removeRule rule) => rule.type = .app → Removable resolver list rule.value
  | (resolver, .uidMappingChanged packageName) => Changeable resolver list packageName
  | _ => True

/-- A condition on the uid of a package is not tried for all uids. -/
instance (found : Option Int32) (condition : Int32 → Prop) [DecidablePred condition] :
    Decidable (∀ uid ∈ found, condition uid) :=
  Option.decidableForallMem found

instance (resolver : Installed) (list : AppMatchList) (packageName : Host) :
    Decidable (Removable resolver list packageName) :=
  inferInstanceAs (Decidable (if resolver.getUid packageName = uidNoFilter then
    packageName ∉ list.packageToUid else _ ∧ ∀ old ∈ list.packageToUid.lookup packageName, _))

instance (resolver : Installed) (list : AppMatchList) (packageName : Host) :
    Decidable (Changeable resolver list packageName) :=
  inferInstanceAs (Decidable (_ → ∀ old ∈ list.packageToUid.lookup packageName, _ → _))

namespace InStep

variable {list : AppMatchList} {resolver : Installed}

/-- The last part follows from the others. -/
theorem of_indexes (indexes : Indexes list.packageToUid list.uids)
    (packages : ∀ packageName ∈ list.packageToUid, (⟨.app, packageName⟩ : Rule) ∈ list.rules) :
    InStep list := by
  refine ⟨indexes, packages, fun uid => ?_⟩
  rw [matchesApp, List.contains_iff_mem, indexes uid]
  constructor
  · rintro ⟨packageName, found⟩
    have mapped := AList.lookup_isSome.mp (Option.isSome_of_eq_some found)
    exact ⟨⟨.app, packageName⟩, packages packageName mapped, rfl, found⟩
  · grind

theorem empty : InStep empty :=
  of_indexes indexes_empty fun packageName mapped => absurd mapped (AList.notMem_empty packageName)

section

variable (keyed : Keyed list)
include keyed

variable (inStep : InStep list)
include inStep

theorem addRule (rule : Rule) : InStep (addRule resolver list rule).1 := by
  unfold AppMatchList.addRule
  rw [keyed.contains_eq]
  split
  next => exact inStep
  next absent =>
    have new : rule ∉ list.rules := fun member => absent (List.contains_iff_mem.mpr member)
    have kept (packageName : Host) (mapped : packageName ∈ list.packageToUid) :
        (⟨.app, packageName⟩ : Rule) ∈ list.rules ++ [rule] :=
      List.mem_append_left _ (inStep.packages packageName mapped)
    split
    next app =>
      dsimp only
      split
      next => exact inStep
      next =>
        have same : rule = ⟨.app, rule.value⟩ := by rw [← app]
        have fresh : rule.value ∉ list.packageToUid := fun mapped =>
          new (same ▸ inStep.packages rule.value mapped)
        refine of_indexes (Indexes.insert inStep.uids fresh _) fun packageName mapped => ?_
        rcases (AList.mem_insert _).mp mapped with rfl | mapped
        · exact List.mem_append_right _ (List.mem_singleton.mpr same.symm)
        · exact kept packageName mapped
    next => exact of_indexes inStep.uids kept

/-- The rule of a package that has a uid in the list is not removed alone. -/
theorem dropRule_packages {rule : Rule} (mapped : packageName ∈ list.packageToUid)
    (other : (⟨.app, packageName⟩ : Rule) ≠ rule) :
    (⟨.app, packageName⟩ : Rule) ∈ (list.dropRule rule).rules :=
  keyed.distinct.mem_erase_iff.mpr ⟨other, inStep.packages packageName mapped⟩

theorem removeApp_iff (packageName : Host) :
    InStep (removeApp resolver list packageName) ↔ Removable resolver list packageName := by
  simp only [AppMatchList.removeApp, AppMatchList.removeRule, if_true, Removable, ite_not]
  have other_rule {other : Host} (distinct : other ≠ packageName) :
      (⟨.app, other⟩ : Rule) ≠ ⟨.app, packageName⟩ := fun same =>
    distinct (Rule.mk.inj same).2
  split
  next =>
    constructor
    · intro after mapped
      exact (keyed.distinct.mem_erase_iff.mp (after.packages packageName mapped)).1 rfl
    · intro absent
      refine of_indexes inStep.uids fun other mapped => ?_
      have distinct : other ≠ packageName := by
        rintro rfl
        exact absent mapped
      exact dropRule_packages keyed inStep mapped (other_rule distinct)
  next =>
    have removed : Indexes (list.packageToUid.erase packageName)
        (list.uids.filter (· ≠ resolver.getUid packageName)) ↔ _ := Indexes.erase_iff inStep.uids
    refine ⟨fun after => removed.mp after.uids, fun removable => ?_⟩
    refine of_indexes (removed.mpr removable) fun other mapped => ?_
    obtain ⟨distinct, mapped⟩ := AList.mem_erase.mp mapped
    exact dropRule_packages keyed inStep mapped (other_rule distinct)

theorem removeRule_iff (rule : Rule) : InStep (removeRule resolver list rule) ↔
      (rule.type = .app → Removable resolver list rule.value) := by
  by_cases app : rule.type = .app
  · have same : rule = ⟨.app, rule.value⟩ := by rw [← app]
    rw [same]
    exact (removeApp_iff keyed inStep rule.value).trans ⟨fun removable _ => removable, (· rfl)⟩
  · refine iff_of_true ?_ (absurd · app)
    rw [AppMatchList.removeRule]
    dsimp only
    rw [if_neg app]
    refine of_indexes inStep.uids fun packageName mapped => ?_
    refine dropRule_packages keyed inStep mapped ?_
    rintro rfl
    exact app rfl

end

theorem changeable_iff (rule : (⟨.app, packageName⟩ : Rule) ∈ list.rules)
    {oldUid : Int32} (own : list.packageToUid.lookup packageName = some oldUid) :
    Changeable resolver list packageName ↔ (resolver.getAppUid packageName ≠ some oldUid →
        Unshared list.packageToUid packageName oldUid) := by
  constructor
  · intro changeable
    exact changeable rule oldUid own
  · intro unshared _ old known different
    grind

variable (keyed : Keyed list)
include keyed

variable (inStep : InStep list)
include inStep

/-- A package without a rule, and one without a uid in the list, may always change. -/
theorem uidMappingChanged_unmapped (unmapped : list.packageToUid.lookup packageName = none ∨
      (⟨.app, packageName⟩ : Rule) ∉ list.rules) :
    InStep (uidMappingChanged resolver list packageName).1 := by
  unfold AppMatchList.uidMappingChanged
  have contains := keyed.contains_eq ⟨.app, packageName⟩
  rw [contains]
  split
  next rule =>
    have rule := List.contains_iff_mem.mp rule
    have own := unmapped.resolve_right (absurd rule)
    rw [own]
    cases resolver.getAppUid packageName with
    | none => exact inStep
    | some newUid =>
      have fresh := AList.lookup_eq_none.mp own
      refine of_indexes (Indexes.insert inStep.uids fresh newUid) fun other mapped => ?_
      rcases (AList.mem_insert _).mp mapped with rfl | mapped
      · exact rule
      · exact inStep.packages other mapped
  next => exact inStep

theorem uidMappingChanged_mapped (rule : (⟨.app, packageName⟩ : Rule) ∈ list.rules) {oldUid : Int32}
    (own : list.packageToUid.lookup packageName = some oldUid) :
    InStep (uidMappingChanged resolver list packageName).1 ↔
      (resolver.getAppUid packageName ≠ some oldUid →
        Unshared list.packageToUid packageName oldUid) := by
  have contains : list.matchKeys.contains (matchKey .app packageName) = true :=
    (keyed.contains_eq ⟨.app, packageName⟩).trans (List.contains_iff_mem.mpr rule)
  have erased (other : Host) (mapped : other ∈ list.packageToUid.erase packageName) :
      (⟨.app, other⟩ : Rule) ∈ list.rules :=
    inStep.packages other (AList.mem_erase.mp mapped).2
  simp only [AppMatchList.uidMappingChanged, contains, if_true, own]
  cases resolver.getAppUid packageName with
  | none =>
    have removed := Indexes.erase_own_iff inStep.uids own
    constructor
    · intro after _
      exact removed.mp after.uids
    · intro unshared
      exact of_indexes (removed.mpr (unshared (Option.some_ne_none _).symm)) erased
  | some newUid =>
    by_cases same : newUid = oldUid
    · simp [same, inStep]
    · have moved := Indexes.move_iff inStep.uids own same
      simp only [ne_eq, same, not_false_eq_true, if_true]
      constructor
      · intro after _
        exact moved.mp after.uids
      · intro unshared
        refine of_indexes (moved.mpr (unshared fun known => same (Option.some.inj known))) ?_
        intro other mapped
        rcases (AList.mem_insert _).mp mapped with rfl | mapped
        · exact rule
        · exact erased other mapped

theorem uidMappingChanged_iff (packageName : Host) :
    InStep (uidMappingChanged resolver list packageName).1 ↔
      Changeable resolver list packageName := by
  by_cases rule : (⟨.app, packageName⟩ : Rule) ∈ list.rules
  · cases own : list.packageToUid.lookup packageName with
    | none =>
      refine iff_of_true (uidMappingChanged_unmapped keyed inStep (.inl own)) fun _ old known => ?_
      grind
    | some oldUid =>
      rw [changeable_iff rule own]
      exact uidMappingChanged_mapped keyed inStep rule own
  · exact iff_of_true (uidMappingChanged_unmapped keyed inStep (.inr rule)) (absurd · rule)

/-- A call keeps the list in step just if it is careful. -/
theorem perform_iff (call : Installed × ListCall) :
    InStep (list.perform call) ↔ list.Careful call := by
  obtain ⟨resolver, call⟩ := call
  have added (list : AppMatchList) (rule : Rule) (both : Keyed list ∧ InStep list) :
      Keyed (list.addRule resolver rule).1 ∧ InStep (list.addRule resolver rule).1 :=
    ⟨both.1.addRule resolver rule, both.2.addRule both.1 rule⟩
  cases call with
  | addApp packageName => exact iff_of_true (added list _ ⟨keyed, inStep⟩).2 trivial
  | removeApp packageName => exact removeApp_iff keyed inStep packageName
  | addRule rule => exact iff_of_true (added list rule ⟨keyed, inStep⟩).2 trivial
  | removeRule rule => exact removeRule_iff keyed inStep rule
  | addRules toAdd =>
    exact iff_of_true (addAll_invariant added ⟨keyed, inStep⟩ toAdd.rules).2 trivial
  | fromJson document maxRules =>
    have loaded := importDocument_invariant resolver.toAppsResolver added ⟨.empty, .empty⟩
      ⟨keyed, inStep⟩ document maxRules
    exact iff_of_true loaded.2 trivial
  | clear => exact iff_of_true .empty trivial
  | uidMappingChanged packageName => exact uidMappingChanged_iff keyed inStep packageName

end InStep

/-- The uids of a list follow its rules over a whole run just if every call is careful. -/
theorem app_uids_follow_rules (calls : List (Installed × ListCall)) :
    (∀ done rest, calls = done ++ rest → InStep (run perform empty done)) ↔
      Guarded perform Careful empty calls :=
  have exact_step (list : AppMatchList) (call : Installed × ListCall) (keyed : Keyed list)
      (inStep : InStep list) : InStep (list.perform call) ↔ list.Careful call :=
    InStep.perform_iff keyed inStep call
  guarded_iff perform (fun _ call keyed _ => keyed.perform call) exact_step .empty .empty calls

/-! ### Two packages with one uid -/

/-- Every package has the same uid. -/
def sharedUid (uid : Int32) : Installed where
  parseInt _ := none
  getUid _ := uid
  getAppByUid _ := some "com.a".toList
  descriptorUid uid := uid

/-- An app is installed again with another uid, and the list is told before its rule goes. -/
theorem app_uids_follow_reinstallation :
    let calls := [(sharedUid 10, .addApp "com.a".toList),
      (sharedUid 11, .uidMappingChanged "com.a".toList), (sharedUid 11, .removeApp "com.a".toList)]
    Guarded perform Careful empty calls ∧
      ∀ done rest, calls = done ++ rest → InStep (run perform empty done) := by
  intro calls
  have guarded : Guarded perform Careful empty calls := by
    have changeable : Changeable (sharedUid 11) (run perform empty (calls.take 1))
      "com.a".toList := by decide +kernel
    have removable : Removable (sharedUid 11) (run perform empty (calls.take 2))
      "com.a".toList := by decide +kernel
    exact ⟨trivial, changeable, removable, trivial⟩
  exact ⟨guarded, (app_uids_follow_rules calls).mpr guarded⟩

/-- Of two packages with one uid one is removed: the uid of the other is lost. -/
theorem shared_uid_is_lost :
    let list := run perform empty
      [(sharedUid 10, .addApp "com.a".toList), (sharedUid 10, .addApp "com.b".toList),
        (sharedUid 10, .removeApp "com.a".toList)]
    ⟨.app, "com.b".toList⟩ ∈ list.rules ∧
      list.packageToUid.lookup "com.b".toList = some 10 ∧ list.matchesApp 10 = false ∧
      ¬ InStep list := by
  intro list
  have rule : (⟨.app, "com.b".toList⟩ : Rule) ∈ list.rules := by decide +kernel
  have mapped : list.packageToUid.lookup "com.b".toList = some 10 := by decide +kernel
  have unmatched : list.matchesApp 10 = false := by decide +kernel
  refine ⟨rule, mapped, unmatched, fun inStep => ?_⟩
  have found := (inStep.matched 10).mpr ⟨_, rule, rfl, mapped⟩
  rw [unmatched] at found
  cases found

end AppMatchList

end PcapdroidFormal.Lists
