import PcapdroidFormal.Core.State
import PcapdroidFormal.Foundation.LastIndex

/-!
# Host rules

Hosts are matched twice: by `MatchList` for the user interface and, once the
rules have been loaded, by `blacklist.c` for the capture.  Both models take a
host as a list of characters.  A lookup in a hash table is exact.
-/

namespace PcapdroidFormal.Lists

open PcapdroidFormal.Core Foundation

def www : Host := ['w', 'w', 'w', '.']

/-- `cleanDomain`, and the same test in `blacklist.c`: `www.example.org` becomes
`example.org`. -/
def cleanDomain (domain : Host) : Host :=
  if www.isPrefixOf domain then domain.drop 4 else domain

/-! ## MatchList -/

def getSecondLevelDomain (domain : Host) : Host :=
  match lastIndexOf '.' domain with
  | none => domain
  | some tldPos =>
    if tldPos = 0 then domain
    else
      match lastIndexOf '.' (domain.take tldPos) with
      | none => domain
      | some rootPos => if rootPos = 0 then domain else domain.drop (rootPos + 1)

/-- The host rules of a `MatchList`, in `mRules` and as the keys of `mMatches`. -/
abbrev HostRules := List Host

/-- `addRule` for a host; the result says whether the rule is a new one. -/
def addRule (rules : HostRules) (host : Host) : HostRules × Bool :=
  if rules.contains host then (rules, false) else (rules ++ [host], true)

def addHost (rules : HostRules) (info : Host) : HostRules := (addRule rules (cleanDomain info)).1

/-- The loop of `deserialize` over rules of type `HOST`. -/
def deserializeRules (maxRules : Int) : HostRules → Nat → List Host → HostRules
  | rules, _, [] => rules
  | rules, numRules, value :: values =>
    let added := addRule rules value
    if added.2 then
      if 0 < maxRules ∧ maxRules ≤ (numRules + 1 : Nat) then added.1
      else deserializeRules maxRules added.1 (numRules + 1) values
    else deserializeRules maxRules added.1 numRules values

def fromJson (values : List Host) (maxRules : Int) : HostRules :=
  deserializeRules maxRules [] 0 values

def matchesExactHost (rules : HostRules) (host : Host) : Bool := rules.contains (cleanDomain host)

def matchesHost (rules : HostRules) (host : Host) : Bool :=
  let host := cleanDomain host
  if matchesExactHost rules host then true
  else
    let domain := getSecondLevelDomain host
    domain != host && rules.contains domain

inductive RuleChange where
  | addHost (info : Host)
  | fromJson (values : List Host) (maxRules : Int)

def RuleChange.apply (rules : HostRules) : RuleChange → HostRules
  | addHost info => Lists.addHost rules info
  | fromJson values maxRules => Lists.fromJson values maxRules

/-- The rules of a `MatchList` after a sequence of changes. -/
def hostRules (changes : List RuleChange) : HostRules := changes.foldl RuleChange.apply []

def toListDescriptor (rules : HostRules) : List Host := rules

/-! ## blacklist.c -/

abbrev BlacklistDomains := List Host

def eaddrinuse : Int := 98

def getSecondLevelDomainNative (domain : Host) : Host :=
  match lastIndexOf '.' domain with
  | none => domain
  | some dot =>
    if dot = 0 then domain
    else
      match lastIndexOf '.' (domain.take dot) with
      | none => domain
      | some dot => domain.drop (dot + 1)

def blacklistMatchDomain (domains : BlacklistDomains) (domain : Host) : Bool :=
  let domain := cleanDomain domain
  if domains.contains domain then true
  else
    let domain2 := getSecondLevelDomainNative domain
    domain2 != domain && domains.contains domain2

def blacklistAddDomain (domains : BlacklistDomains) (domain : Host) : BlacklistDomains × Int :=
  let domain := cleanDomain domain
  if blacklistMatchDomain domains domain then (domains, -eaddrinuse)
  else (domains ++ [domain], 0)

/-- `bl_load_list_of_type` for domains; duplicates are skipped. -/
def blLoadDomains : BlacklistDomains → List Host → Option BlacklistDomains
  | domains, [] => some domains
  | domains, host :: hosts =>
    let added := blacklistAddDomain domains host
    if added.2 = 0 ∨ added.2 = -eaddrinuse then blLoadDomains added.1 hosts else none

end PcapdroidFormal.Lists
