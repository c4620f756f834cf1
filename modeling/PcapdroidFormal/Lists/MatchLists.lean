import PcapdroidFormal.Lists.IpRules

/-!
# Rule lists

The rules of a `MatchList` of any type, their import from JSON, and the list
descriptor that `blacklist.c` loads.  The JSON parser of the platform is not part of
the model, nor is the flag that tells that a list was migrated.
-/

namespace PcapdroidFormal.Lists

open PcapdroidFormal.Core

/-! ## JSON -/

inductive Json where
  | null
  | bool (value : Bool)
  | number (text : Host)
  | string (text : Host)
  | array (items : List Json)
  | object (members : List (Host × Json))

/-- The exceptions that leave `fromJson`. -/
inductive JavaException where
  | illegalState
  | unsupportedOperation
  | nullPointer
  deriving DecidableEq, Repr

def Json.getAsString : Json → Except JavaException Host
  | .string text | .number text => .ok text
  | .bool value => .ok (if value then "true".toList else "false".toList)
  | .array [item] => item.getAsString
  | .array _ => .error .illegalState
  | .null | .object _ => .error .unsupportedOperation

def Json.getAsJsonObject : Json → Except JavaException (List (Host × Json))
  | .object members => .ok members
  | _ => .error .illegalState

def getMember (members : List (Host × Json)) (name : String) : Except JavaException Host :=
  match members.lookup name.toList with
  | none => .error .nullPointer
  | some member => member.getAsString

/-! ## Rules -/

inductive RuleType where
  | app
  | ip
  | host
  | protocol
  | country
  deriving DecidableEq, Repr

/-- The name of the enum constant. -/
def RuleType.name : RuleType → Host
  | app => "APP".toList
  | ip => "IP".toList
  | host => "HOST".toList
  | protocol => "PROTOCOL".toList
  | country => "COUNTRY".toList

def RuleType.valueOf (name : Host) : Option RuleType :=
  [app, ip, host, protocol, country].find? fun type => type.name == name

structure Rule where
  type : RuleType
  value : Host
  deriving DecidableEq, Repr

def uidNoFilter : Int32 := -2

/-- `Integer.parseInt` and the functions of `AppsResolver`; an `AppDescriptor` is given by
its package name. -/
structure AppsResolver where
  parseInt : Host → Option Int32
  getUid : Host → Int32
  getAppByUid : Int32 → Option Host

def AppsResolver.getAppByPackage (resolver : AppsResolver) (packageName : Host) : Option Host :=
  let uid := resolver.getUid packageName
  if uid = uidNoFilter then none else resolver.getAppByUid uid

/-! ## Import -/

section Import

variable (resolver : AppsResolver)

/-- The type of a rule by its name, with the migration of an old one. -/
def ruleType (typeStr : Host) : Option RuleType :=
  match RuleType.valueOf typeStr with
  | some type => some type
  | none => if typeStr = "ROOT_DOMAIN".toList then some .host else none

/-- The package of a rule of type `APP`; a uid of the old format may be unknown. -/
def appValue (val : Host) : Option Host :=
  let named : Option Host :=
    match resolver.parseInt val with
    | some uid => resolver.getAppByUid uid
    | none => some val
  named.map fun val => (resolver.getAppByPackage val).getD val

/-- The rule of an item of `rules`, if it is not to be skipped. -/
def parseRule (item : Json) : Except JavaException (Option Rule) := do
  let members ← item.getAsJsonObject
  let typeStr ← getMember members "type"
  let val ← getMember members "value"
  match ruleType typeStr with
  | none => return none
  | some .app => return (appValue resolver val).map fun val => ⟨.app, val⟩
  | some type => return some ⟨type, val⟩

variable {RuleList : Type} (addRule : RuleList → Rule → RuleList × Bool)

/-- `addRules` on a list to which rules are added in this way. -/
def addAll (list : RuleList) (toAdd : List Rule) : RuleList × Nat :=
  toAdd.foldl (fun state rule =>
    let added := addRule state.1 rule
    (added.1, if added.2 then state.2 + 1 else state.2)) (list, 0)

/-- The loop of `deserialize`; the rules before an exception stay in the list. -/
def importItems (maxRules : Int) : RuleList → Nat → List Json →
    RuleList × Except JavaException Int
  | list, numRules, [] => (list, .ok numRules)
  | list, numRules, item :: items =>
    match parseRule resolver item with
    | .error exception => (list, .error exception)
    | .ok none => importItems maxRules list numRules items
    | .ok (some rule) =>
      let added := addRule list rule
      if added.2 then
        if 0 < maxRules ∧ maxRules ≤ (numRules + 1 : Nat) then
          (added.1, .ok (numRules + 1 : Nat))
        else importItems maxRules added.1 (numRules + 1) items
      else importItems maxRules added.1 numRules items

/-- `deserialize`; the `ClassCastException` of other values of `rules` is caught. -/
def importMembers (cleared list : RuleList) (members : List (Host × Json)) (maxRules : Int) :
    RuleList × Except JavaException Int :=
  match members.lookup "rules".toList with
  | some (.array items) => importItems resolver addRule maxRules cleared 0 items
  | _ => (list, .ok (-1))

/-- `fromJson` on a parsed document, if its text is valid JSON. -/
def importDocument (cleared list : RuleList) (document : Option Json) (maxRules : Int) :
    RuleList × Except JavaException Int :=
  match document with
  | some (.object members) => importMembers resolver addRule cleared list members maxRules
  | _ => (list, .ok (-1))

section Invariants

variable {addRule} {Invariant : RuleList → Prop}
  (added : ∀ list rule, Invariant list → Invariant (addRule list rule).1)
include added

theorem addAll_invariant {list : RuleList} (holds : Invariant list) (toAdd : List Rule) :
    Invariant (addAll addRule list toAdd).1 := by
  unfold addAll
  generalize (0 : Nat) = numAdded
  induction toAdd generalizing list numAdded with
  | nil => exact holds
  | cons rule rules ih => exact ih (added list rule holds) _

/-- What every new rule preserves is preserved by the loop of `deserialize`. -/
theorem importItems_invariant {list : RuleList} (maxRules : Int) (holds : Invariant list)
    (numRules : Nat) (items : List Json) :
    Invariant (importItems resolver addRule maxRules list numRules items).1 := by
  induction items generalizing list numRules with
  | nil => exact holds
  | cons item items ih =>
    rw [importItems]
    cases parseRule resolver item with
    | error exception => exact holds
    | ok parsed =>
      cases parsed with
      | none => exact ih holds numRules
      | some rule =>
        have after := added list rule holds
        dsimp only
        split
        · split
          · exact after
          · exact ih after (numRules + 1)
        · exact ih after numRules

theorem importDocument_invariant {cleared list : RuleList} (empty : Invariant cleared)
    (holds : Invariant list) (document : Option Json) (maxRules : Int) :
    Invariant (importDocument resolver addRule cleared list document maxRules).1 := by
  unfold importDocument
  split
  next members =>
    unfold importMembers
    split
    next items _ => exact importItems_invariant resolver added maxRules empty 0 items
    next => exact holds
  next => exact holds

/-! A view of the list that follows it rule by rule follows the import. -/

variable {View : Type} {view : RuleList → View} {addToView : View → Rule → View × Bool}
  (follows : ∀ list rule, Invariant list →
    addToView (view list) rule = (view (addRule list rule).1, (addRule list rule).2))
include follows

theorem importItems_view {list : RuleList} (maxRules : Int) (holds : Invariant list)
    (numRules : Nat) (items : List Json) :
    importItems resolver addToView maxRules (view list) numRules items =
      (view (importItems resolver addRule maxRules list numRules items).1,
        (importItems resolver addRule maxRules list numRules items).2) := by
  induction items generalizing list numRules with
  | nil => rfl
  | cons item items ih =>
    rw [importItems, importItems]
    cases parseRule resolver item with
    | error exception => rfl
    | ok parsed =>
      cases parsed with
      | none => exact ih holds numRules
      | some rule =>
        have after := added list rule holds
        simp only [follows list rule holds]
        split
        · split
          · rfl
          · exact ih after (numRules + 1)
        · exact ih after numRules

theorem importDocument_view {cleared : RuleList} (empty : Invariant cleared) (list : RuleList)
    (document : Option Json) (maxRules : Int) :
    importDocument resolver addToView (view cleared) (view list) document maxRules =
      (view (importDocument resolver addRule cleared list document maxRules).1,
        (importDocument resolver addRule cleared list document maxRules).2) := by
  unfold importDocument
  cases document with
  | none => rfl
  | some document =>
    cases document with
    | object members =>
      simp only [importMembers]
      cases members.lookup "rules".toList with
      | none => rfl
      | some rules =>
        cases rules with
        | array items => exact importItems_view resolver added follows maxRules empty 0 items
        | _ => rfl
    | _ => rfl

end Invariants

end Import

/-! ## MatchList -/

/-- `MatchList`: `mRules`, whose types and values are the keys of `mMatches`, and `mUids`. -/
structure MatchList where
  rules : List Rule
  uids : List Int32
  deriving DecidableEq, Repr

structure ListDescriptor where
  apps : List Host
  hosts : List Host
  ips : List Host
  deriving DecidableEq, Repr

def digitChar (digit : Nat) : Char := Char.ofNat ('0'.toNat + digit)

def decimalDigits : Nat → Nat → Host
  | 0, _ => []
  | fuel + 1, number =>
    if number < 10 then [digitChar number]
    else decimalDigits fuel (number / 10) ++ [digitChar (number % 10)]

def integerToString : Int → Host
  | .ofNat number => decimalDigits (number + 1) number
  | .negSucc number => '-' :: decimalDigits (number + 2) (number + 1)

namespace MatchList

def empty : MatchList := ⟨[], []⟩

/-- `isExemptedApp`, which subclasses override. -/
def isExemptedApp (_ : Int32) : Bool := false

def values (list : MatchList) (type : RuleType) : List Host :=
  list.rules.filterMap fun rule => if rule.type = type then some rule.value else none

def toListDescriptor (list : MatchList) : ListDescriptor where
  apps := (list.uids.filter fun uid => !isExemptedApp uid).map fun uid => integerToString uid.toInt
  hosts := list.values .host
  ips := list.values .ip

/-- The item that `serialize` writes for a rule. -/
def ruleObject (rule : Rule) : Json :=
  .object [("type".toList, .string rule.type.name), ("value".toList, .string rule.value)]

def toJson (list : MatchList) : Json :=
  .object [("rules".toList, .array (list.rules.map ruleObject))]

section Rules

variable (resolver : AppsResolver)

/-- `addRule`; the result says whether the rule is a new one. -/
def addRule (list : MatchList) (rule : Rule) : MatchList × Bool :=
  if list.rules.contains rule then (list, false)
  else if rule.type = .app then
    let uid := resolver.getUid rule.value
    if uid = uidNoFilter then (list, false)
    else (⟨list.rules ++ [rule], list.uids.insert uid⟩, true)
  else (⟨list.rules ++ [rule], list.uids⟩, true)

def addRules (list : MatchList) (toAdd : MatchList) : MatchList × Nat :=
  addAll (addRule resolver) list toAdd.rules

def deserialize (list : MatchList) (members : List (Host × Json)) (maxRules : Int) :
    MatchList × Except JavaException Int :=
  importMembers resolver (addRule resolver) .empty list members maxRules

def fromJson (list : MatchList) (document : Option Json) (maxRules : Int) :
    MatchList × Except JavaException Int :=
  importDocument resolver (addRule resolver) .empty list document maxRules

theorem ruleType_name (type : RuleType) : ruleType type.name = some type := by
  cases type <;> rfl

/-- Any text is accepted as the value of a rule. -/
theorem parseRule_ruleObject {rule : Rule} (notApp : rule.type ≠ .app) :
    parseRule resolver (ruleObject rule) = .ok (some rule) := by
  obtain ⟨type, value⟩ := rule
  have typeStr : getMember [("type".toList, .string type.name), ("value".toList, .string value)]
      "type" = .ok type.name := rfl
  have val : getMember [("type".toList, .string type.name), ("value".toList, .string value)]
      "value" = .ok value := rfl
  simp only [parseRule, ruleObject, Json.getAsJsonObject, typeStr, val, ruleType_name, bind,
    Except.bind]
  cases type with
  | app => exact absurd rfl notApp
  | _ => rfl

theorem importItems_ruleObject {rules : List Rule} (notApps : ∀ rule ∈ rules, rule.type ≠ .app)
    {before : List Rule} (distinct : (before ++ rules).Nodup) (uids : List Int32) (numRules : Nat) :
    importItems resolver (addRule resolver) (-1) ⟨before, uids⟩ numRules (rules.map ruleObject) =
      (⟨before ++ rules, uids⟩, .ok (numRules + rules.length : Nat)) := by
  induction rules generalizing before numRules with
  | nil => simp [importItems]
  | cons rule rules ih =>
    have notApp := notApps rule List.mem_cons_self
    have new : rule ∉ before := fun member =>
      (List.nodup_append.mp distinct).2.2 rule member rule List.mem_cons_self rfl
    have added : addRule resolver ⟨before, uids⟩ rule = (⟨before ++ [rule], uids⟩, true) := by
      simp [addRule, new, notApp]
    have rest := ih (fun other member => notApps other (List.mem_cons_of_mem rule member))
      (by rwa [← List.append_cons]) (numRules + 1)
    rw [List.map_cons, importItems, parseRule_ruleObject resolver notApp]
    simp only [added, if_true]
    rw [if_neg (by omega), rest]
    simp [Nat.add_right_comm, Nat.add_assoc]

/-- What `toJson` writes is read back, whatever the values of the rules are; apps depend on
what is installed. -/
theorem fromJson_toJson {list : MatchList} (notApps : ∀ rule ∈ list.rules, rule.type ≠ .app)
    (distinct : list.rules.Nodup) (before : MatchList) :
    fromJson resolver before (some list.toJson) (-1) =
      (⟨list.rules, []⟩, .ok (list.rules.length : Nat)) := by
  have read := importItems_ruleObject resolver notApps
    (by simpa using distinct : ([] ++ list.rules).Nodup) [] 0
  rw [List.nil_append, Nat.zero_add] at read
  exact read

end Rules

end MatchList

/-! ## blacklist.c -/

structure NativeList where
  domains : BlacklistDomains
  uids : List Int
  ptree : NdpiPtree

/-- `blacklist_init`. -/
def NativeList.init : NativeList := ⟨[], [], .empty⟩

def isspace (char : Char) : Bool := char.isWhitespace || char == '\x0b' || char == '\x0c'

/-- The number at the start of a text. -/
def leadingNumber (text : Host) : Int :=
  let value (text : Host) : Int :=
    ((text.takeWhile Char.isDigit).foldl (fun value digit => 10 * value + (digit.toNat - '0'.toNat))
      0 : Nat)
  match text.dropWhile isspace with
  | '-' :: digits => -value digits
  | '+' :: digits => value digits
  | digits => value digits

/-- `strtol` in base 10, which stops at the ends of a `long` of 64 bits. -/
def strtol (text : Host) : Int := max (-2 ^ 63) (min (leadingNumber text) (2 ^ 63 - 1))

/-- `atoi`, the result of `strtol` as an `int`. -/
def atoi (text : Host) : Int := (strtol text).bmod (2 ^ 32)

def blacklistMatchUid (uids : List Int) (uid : Int) : Bool := uids.contains uid

def blacklistAddUid (uids : List Int) (uid : Int) : List Int × Int :=
  if blacklistMatchUid uids uid then (uids, -eaddrinuse) else (uids ++ [uid], 0)

/-- `bl_load_list_of_type`: the number of items that `add` takes, or -1 once it refuses one;
duplicates are skipped. -/
def blLoadListOfType {Rules : Type} (add : Rules → Host → Rules × Int) :
    Rules → Nat → List Host → Rules × Int
  | rules, numLoaded, [] => (rules, numLoaded)
  | rules, numLoaded, val :: vals =>
    let added := add rules val
    if added.2 = 0 then blLoadListOfType add added.1 (numLoaded + 1) vals
    else if added.2 = -eaddrinuse then blLoadListOfType add added.1 numLoaded vals
    else (added.1, -1)

def blacklistLoadListDescriptor (inetPton : InetPton) (bl : NativeList) (ld : ListDescriptor) :
    NativeList × Int :=
  let apps := blLoadListOfType (fun uids val => blacklistAddUid uids (atoi val)) bl.uids 0 ld.apps
  let domains := blLoadListOfType blacklistAddDomain bl.domains 0 ld.hosts
  let ips := blLoadListOfType (blacklistAddIpstr inetPton) bl.ptree 0 ld.ips
  (⟨domains.1, apps.1, ips.1⟩,
    if apps.2 = -1 ∨ ips.2 = -1 ∨ domains.2 = -1 then -1 else 0)

end PcapdroidFormal.Lists
