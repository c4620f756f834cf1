import Mathlib.Data.List.TakeWhile
import PcapdroidFormal.Foundation.LineReader
import PcapdroidFormal.Lists.MatchLists

/-!
# Blacklist files

`blacklist_load_file` reads a file with `fgets` into a buffer of 256 bytes and takes
what it got for a line.  It looks for comments and empty lines before it removes the
end of the line, so an empty line that ends with CRLF is not empty to it, and the
pieces of a long line are lines of their own.
-/

namespace PcapdroidFormal.Lists

open PcapdroidFormal.Core Foundation

/-! ## blacklist_load_file -/

inductive BlacklistType where
  | ipBlacklist
  | domainBlacklist
  deriving DecidableEq, Repr

def nul : Char := Char.ofNat 0

def cString (buffer : Host) : Host := buffer.takeWhile (· != nul)

/-- The text that `item[strcspn(buffer, "\r\n")] = 0` leaves. -/
def cutLine (item : Host) : Host := item.takeWhile fun char => char != '\r' && char != '\n'

def beforeSlash (text : Host) : Host := text.takeWhile (· != '/')

def behindSlash (text : Host) : Option Host :=
  match text.dropWhile (· != '/') with
  | [] => none
  | _ :: subnet => some subnet

def maxFileRules : Nat := 500000

structure FileLoad where
  bl : NativeList
  numOk : Nat
  numFail : Nat
  numDup : Nat

namespace FileLoad

def fail (load : FileLoad) : FileLoad := { load with numFail := load.numFail + 1 }

/-- Count what a function that adds a rule returned. -/
def count (load : FileLoad) (rv : Int) : FileLoad :=
  if rv = 0 then { load with numOk := load.numOk + 1 }
  else if rv = -eaddrinuse then { load with numDup := load.numDup + 1 }
  else load.fail

def setDomains (load : FileLoad) (domains : BlacklistDomains) : FileLoad :=
  { load with bl := { load.bl with domains := domains } }

def setPtree (load : FileLoad) (ptree : NdpiPtree) : FileLoad :=
  { load with bl := { load.bl with ptree := ptree } }

end FileLoad

/-- The addresses that are not taken as host rules, compared in the order that the machine,
which is little-endian, has them in. -/
def invalidIpv4 (addr : IpAddr) (bits : Int) : Bool :=
  match addr with
  | .v4 ipv4 => bits == 32 && (ipv4 == 0 || ipv4 == 0xFFFFFFFF || ipv4 == 0x7F000001)
  | .v6 _ => false

/-- The length of the prefix in a line of an IP blacklist. -/
def subnetBits (addr : IpAddr) (text : Host) : Int :=
  match behindSlash text with
  | some subnet => atoi subnet
  | none => addr.width

section Loading

variable (inetPton : InetPton)

/-- A line of an `IP_BLACKLIST`; `blacklist_add_ip` takes a `uint8_t`. -/
def loadIp (load : FileLoad) (text : Host) : FileLoad :=
  match ndpiParseIpString inetPton (beforeSlash text) with
  | none => load.fail
  | some addr =>
    let bits := subnetBits addr text
    if invalidIpv4 addr bits then load
    else
      let added := blacklistAddIp load.bl.ptree addr.union (bits % 256).toNat
      (load.setPtree added.1).count added.2

/-- A line of a `DOMAIN_BLACKLIST`. -/
def loadDomain (load : FileLoad) (text : Host) : FileLoad :=
  match ndpiParseIpString inetPton (beforeSlash text) with
  | some _ => load.fail
  | none =>
    let added := blacklistAddDomain load.bl.domains (beforeSlash text)
    (load.setDomains added.1).count added.2

/-- One round of the loop, with what `fgets` returned. -/
def loadItem (btype : BlacklistType) (load : FileLoad) (buffer : Host) : FileLoad :=
  let item := cString buffer
  match item.head? with
  | none => load
  | some first =>
    if first = '#' ∨ first = '\n' then load
    else if maxFileRules ≤ load.numOk then load.fail
    else
      match btype with
      | .ipBlacklist => loadIp inetPton load (cutLine item)
      | .domainBlacklist => loadDomain inetPton load (cutLine item)

def blacklistLoadFile (bl : NativeList) (content : Host) (btype : BlacklistType) : FileLoad :=
  (LineReader.pieces '\n' 255 content).foldl (loadItem inetPton btype) ⟨bl, 0, 0, 0⟩

end Loading

/-! ## Lines -/

/-- A line of a file: its text, and whether a carriage return belongs to its end. -/
structure FileLine where
  text : Host
  crlf : Bool
  deriving DecidableEq, Repr

namespace FileLine

/-- The line in front of its line feed. -/
def raw (line : FileLine) : Host := if line.crlf then line.text ++ ['\r'] else line.text

/-- The line in front of a line feed. -/
def ended (raw : Host) : FileLine :=
  if raw.getLast? = some '\r' then ⟨raw.dropLast, true⟩ else ⟨raw, false⟩

/-- A line that is neither empty nor a comment; a carriage return alone counts as text. -/
def isRule (line : FileLine) : Bool := line.raw != [] && line.text.head? != some '#'

theorem raw_eq_nil_iff {line : FileLine} : line.raw = [] ↔ line.text = [] ∧ line.crlf = false := by
  unfold raw
  cases line.crlf <;> simp

/-- The loop finds the comments. -/
theorem comment_iff {line : FileLine} :
    line.raw.head? = some '#' ↔ line.text.head? = some '#' := by
  obtain ⟨text, crlf⟩ := line
  cases text with
  | nil => cases crlf <;> simp [raw]
  | cons first text => cases crlf <;> rfl

theorem raw_ended (text : Host) : (ended text).raw = text := by
  unfold ended
  split
  next carriage => exact List.dropLast_append_getLast? '\r' carriage
  next => rfl

end FileLine

/-- The lines of a file.  What is behind the last line feed is a line without an end. -/
def fileLines (content : Host) : List FileLine :=
  let lines := content.splitOn '\n'
  lines.dropLast.map FileLine.ended ++ lines.getLast?.toList.map (⟨·, false⟩)

theorem map_raw_fileLines (content : Host) :
    (fileLines content).map FileLine.raw = content.splitOn '\n' := by
  obtain ⟨last, isLast⟩ := Option.ne_none_iff_exists'.mp
    (mt List.getLast?_eq_none_iff.mp (List.splitOn_ne_nil '\n' content))
  have ended : FileLine.raw ∘ FileLine.ended = id := funext FileLine.raw_ended
  rw [fileLines, List.map_append, List.map_map, ended, List.map_id, isLast]
  exact List.dropLast_append_getLast? last isLast

theorem mem_of_mem_fileLines {content : Host} {line : FileLine} (member : line ∈ fileLines content) :
    line.raw ∈ content.splitOn '\n' := by
  rw [← map_raw_fileLines]
  grind

/-! ## The pieces of a line -/

variable {load : FileLoad}

section Items

variable (inetPton : InetPton) (btype : BlacklistType)

theorem cutLine_append_newline {line : Host} (nonempty : line ≠ []) (inside : '\n' ∉ line) :
    (line ++ ['\n']).head? = line.head? ∧ cutLine (line ++ ['\n']) = cutLine line := by
  constructor
  · cases line with
    | nil => exact absurd rfl nonempty
    | cons first line => rfl
  · unfold cutLine
    rw [List.takeWhile_append]
    split
    next whole =>
      have same := List.takeWhile_prefix (fun char => char != '\r' && char != '\n')
        |>.eq_of_length whole
      rw [same]
      exact List.append_nil line
    next => rfl

/-- The loop takes nothing from an empty piece, and ignores the end of a line. -/
theorem loadItem_byLine : LineReader.ByLine '\n' (loadItem inetPton btype) where
  empty _ := rfl
  ended load line inside := by
    unfold loadItem cString
    rw [List.takeWhile_append]
    split
    next whole =>
      have same : line.takeWhile (· != nul) = line :=
        (List.takeWhile_prefix _).eq_of_length whole
      rw [same]
      cases line with
      | nil => rfl
      | cons first line =>
        have read := cutLine_append_newline (List.cons_ne_nil first line) inside
        have noNul : ['\n'].takeWhile (· != nul) = ['\n'] := rfl
        simp only [noNul, read.1, read.2]
    next => rfl

/-- A file with lines that fit in the buffer is read line by line. -/
theorem blacklistLoadFile_lines {content : Host}
    (fits : ∀ line ∈ fileLines content, line.raw.length ≤ 255) (bl : NativeList) :
    blacklistLoadFile inetPton bl content btype =
      (fileLines content).foldl (fun load line => loadItem inetPton btype load line.raw)
        ⟨bl, 0, 0, 0⟩ := by
  have short : ∀ raw ∈ content.splitOn '\n', raw.length ≤ 255 := by
    intro raw found
    rw [← map_raw_fileLines] at found
    grind
  rw [blacklistLoadFile, (loadItem_byLine inetPton btype).foldl_pieces (by decide) short,
    ← map_raw_fileLines, List.foldl_map]

/-- Empty lines and comments are skipped. -/
theorem loadItem_skipped (load : FileLoad) {line : FileLine} (skipped : line.isRule = false) :
    loadItem inetPton btype load line.raw = load := by
  rw [FileLine.isRule, Bool.and_eq_false_iff, bne_eq_false_iff_eq, bne_eq_false_iff_eq] at skipped
  rcases skipped with empty | comment
  · rw [empty]
    rfl
  · have first : (cString line.raw).head? = some '#' := by
      rw [cString, List.head?_takeWhile, FileLine.comment_iff.mpr comment]
      rfl
    simp [loadItem, first]

/-- Every other line that is a string is a rule. -/
theorem loadItem_rule {line : FileLine} (isRule : line.isRule = true) (noNul : nul ∉ line.raw)
    (inside : '\n' ∉ line.raw) (few : load.numOk < maxFileRules) :
    loadItem inetPton btype load line.raw =
      match btype with
      | .ipBlacklist => loadIp inetPton load (cutLine line.raw)
      | .domainBlacklist => loadDomain inetPton load (cutLine line.raw) := by
  have whole : cString line.raw = line.raw := by
    refine List.takeWhile_eq_self_iff.mpr fun char member => bne_iff_ne.mpr ?_
    grind
  rw [FileLine.isRule, Bool.and_eq_true, bne_iff_ne, bne_iff_ne, ne_eq, ne_eq,
    ← FileLine.comment_iff] at isRule
  unfold loadItem
  rw [whole]
  generalize line.raw = raw at inside isRule ⊢
  cases raw with
  | nil => exact absurd rfl isRule.1
  | cons first raw =>
    grind

end Items

/-! ## Domain files -/

def domainRule (inetPton : InetPton) (line : FileLine) : Option Host :=
  if line.text = [] ∨ line.text.head? = some '#' then none
  else if (ndpiParseIpString inetPton (beforeSlash line.text)).isSome then none
  else some (beforeSlash line.text)

/-- The domains of a file, added line by line. -/
def domainsOf (inetPton : InetPton) (content : Host) : BlacklistDomains :=
  ((fileLines content).filterMap (domainRule inetPton)).foldl
    (fun domains rule => (blacklistAddDomain domains rule).1) []

namespace FileLine

/-- A line that the loop takes for what it is: it fits in the buffer, it is not an empty line
with a carriage return, and its rule has no carriage return in it. -/
structure Readable (line : FileLine) : Prop where
  fits : line.raw.length ≤ 255
  blank : line.text = [] → line.crlf = false
  plain : line.text.head? ≠ some '#' → '\r' ∉ beforeSlash line.text

instance (line : FileLine) : Decidable line.Readable :=
  decidable_of_iff
    (line.raw.length ≤ 255 ∧ (line.text = [] → line.crlf = false) ∧
      (line.text.head? ≠ some '#' → '\r' ∉ beforeSlash line.text))
    ⟨fun ⟨fits, blank, plain⟩ => ⟨fits, blank, plain⟩,
      fun readable => ⟨readable.fits, readable.blank, readable.plain⟩⟩

end FileLine

theorem beforeSlash_cutLine (text : Host) :
    beforeSlash (cutLine text) = cutLine (beforeSlash text) := by
  unfold beforeSlash cutLine
  rw [List.takeWhile_takeWhile, List.takeWhile_takeWhile]
  grind

theorem cutLine_eq_self {text : Host} (noReturn : '\r' ∉ text) (inside : '\n' ∉ text) :
    cutLine text = text := by
  refine List.takeWhile_eq_self_iff.mpr fun char member => ?_
  rw [Bool.and_eq_true, bne_iff_ne, bne_iff_ne]
  grind

/-- The end of a line is cut off its text. -/
theorem cutLine_raw {line : FileLine} (noReturn : '\r' ∉ line.text) (inside : '\n' ∉ line.text) :
    cutLine line.raw = line.text := by
  have whole := cutLine_eq_self noReturn inside
  unfold FileLine.raw
  split
  next =>
    unfold cutLine at whole ⊢
    rw [List.takeWhile_append, whole, if_pos rfl]
    simp
  next => exact whole

/-- The rule that the loop finds is the one of the line. -/
theorem beforeSlash_cutLine_raw {line : FileLine} (noReturn : '\r' ∉ beforeSlash line.text)
    (inside : '\n' ∉ line.text) :
    beforeSlash (cutLine line.raw) = beforeSlash line.text := by
  by_cases whole : (beforeSlash line.text).length = line.text.length
  · have same : beforeSlash line.text = line.text :=
      (List.takeWhile_prefix _).eq_of_length whole
    rw [same] at noReturn
    rw [cutLine_raw noReturn inside]
  · -- a slash is in the text, so that its end does not matter
    have sameRule : beforeSlash line.raw = beforeSlash line.text := by
      unfold FileLine.raw
      split
      next => exact List.takeWhile_append.trans (if_neg whole)
      next => rfl
    rw [beforeSlash_cutLine, sameRule]
    exact cutLine_eq_self noReturn fun member => inside (List.takeWhile_subset _ member)

theorem notMem_text {char : Char} {line : FileLine} (absent : char ∉ line.raw) :
    char ∉ line.text := by
  intro member
  apply absent
  unfold FileLine.raw
  grind

section Domains

variable (inetPton : InetPton)

def addDomainLine (domains : BlacklistDomains) (line : FileLine) : BlacklistDomains :=
  match domainRule inetPton line with
  | some rule => (blacklistAddDomain domains rule).1
  | none => domains

theorem blacklistAddDomain_cases (domains : BlacklistDomains) (domain : Host) :
    blacklistAddDomain domains domain = (domains, -eaddrinuse) ∨
      blacklistAddDomain domains domain = (domains ++ [cleanDomain domain], 0) := by
  unfold blacklistAddDomain
  grind

theorem addDomainLine_length (domains : BlacklistDomains) (line : FileLine) :
    domains.length ≤ (addDomainLine inetPton domains line).length := by
  unfold addDomainLine
  split
  next rule _ =>
    rcases blacklistAddDomain_cases domains rule with added | added
    · rw [added]
    · grind
  next => exact Nat.le_refl _

theorem foldl_addDomainLine_length (lines : List FileLine) (domains : BlacklistDomains) :
    domains.length ≤ (lines.foldl (addDomainLine inetPton) domains).length := by
  induction lines generalizing domains with
  | nil => exact Nat.le_refl _
  | cons line lines ih =>
    exact Nat.le_trans (addDomainLine_length inetPton domains line) (ih _)

/-- The domains of a blacklist that was empty before are the rules that were counted. -/
structure DomainsCounted (load : FileLoad) (domains : BlacklistDomains) : Prop where
  added : load.bl.domains = domains
  numOk : load.numOk = domains.length

variable {inetPton} {domains : BlacklistDomains}

/-- One line is loaded as the rule in it. -/
theorem DomainsCounted.line (counted : DomainsCounted load domains) {line : FileLine}
    (readable : line.Readable) (noNul : nul ∉ line.raw) (inside : '\n' ∉ line.raw)
    (few : domains.length < maxFileRules) :
    DomainsCounted (loadItem inetPton .domainBlacklist load line.raw)
      (addDomainLine inetPton domains line) := by
  rw [← counted.numOk] at few
  by_cases skipped : line.text = [] ∨ line.text.head? = some '#'
  · have isRule : line.isRule = false := by
      rw [FileLine.isRule, Bool.and_eq_false_iff, bne_eq_false_iff_eq, bne_eq_false_iff_eq]
      refine skipped.imp_left fun empty => ?_
      exact FileLine.raw_eq_nil_iff.mpr ⟨empty, readable.blank empty⟩
    have noRule : domainRule inetPton line = none := if_pos skipped
    rw [loadItem_skipped _ _ _ isRule, addDomainLine, noRule]
    exact counted
  · obtain ⟨written, comment⟩ := not_or.mp skipped
    have isRule : line.isRule = true := by
      rw [FileLine.isRule, Bool.and_eq_true, bne_iff_ne, bne_iff_ne]
      exact ⟨fun empty => written (FileLine.raw_eq_nil_iff.mp empty).1, comment⟩
    have rule := beforeSlash_cutLine_raw (readable.plain comment) (notMem_text inside)
    rw [loadItem_rule _ _ isRule noNul inside few]
    unfold loadDomain addDomainLine domainRule
    rw [rule, if_neg skipped]
    cases ndpiParseIpString inetPton (beforeSlash line.text) with
    | some addr => exact ⟨counted.added, counted.numOk⟩
    | none =>
      rw [counted.added]
      change DomainsCounted
        ((load.setDomains (blacklistAddDomain domains _).1).count
          (blacklistAddDomain domains _).2) (blacklistAddDomain domains _).1
      rcases blacklistAddDomain_cases domains (beforeSlash line.text) with added | added
      · rw [added]
        exact ⟨rfl, counted.numOk⟩
      · rw [added]
        refine ⟨rfl, ?_⟩
        rw [List.length_append, ← counted.numOk]
        rfl

/-- All lines are loaded as their rules. -/
theorem DomainsCounted.lines (counted : DomainsCounted load domains) {lines : List FileLine}
    (readable : ∀ line ∈ lines, line.Readable) (noNul : ∀ line ∈ lines, nul ∉ line.raw)
    (inside : ∀ line ∈ lines, '\n' ∉ line.raw)
    (few : (lines.foldl (addDomainLine inetPton) domains).length < maxFileRules) : DomainsCounted
      (lines.foldl (fun load line => loadItem inetPton .domainBlacklist load line.raw) load)
      (lines.foldl (addDomainLine inetPton) domains) := by
  induction lines generalizing load domains with
  | nil => exact counted
  | cons line lines ih =>
    rw [List.forall_mem_cons] at readable noNul inside
    have fewNow := Nat.lt_of_le_of_lt
      (foldl_addDomainLine_length inetPton (line :: lines) domains) few
    exact ih (counted.line readable.1 noNul.1 inside.1 fewNow) readable.2 noNul.2 inside.2 few

end Domains

theorem domainsOf_eq (inetPton : InetPton) (content : Host) :
    domainsOf inetPton content = (fileLines content).foldl (addDomainLine inetPton) [] := by
  rw [domainsOf, List.foldl_filterMap]
  congr 1
  funext domains line
  unfold addDomainLine
  cases domainRule inetPton line <;> rfl

/-- A rule adds one domain at most. -/
theorem foldl_blacklistAddDomain_length (rules : List Host) (domains : BlacklistDomains) :
    (rules.foldl (fun domains rule => (blacklistAddDomain domains rule).1) domains).length ≤
      domains.length + rules.length := by
  induction rules generalizing domains with
  | nil => exact Nat.le_refl _
  | cons rule rules ih =>
    rw [List.foldl_cons, List.length_cons]
    refine Nat.le_trans (ih _) ?_
    rcases blacklistAddDomain_cases domains rule with added | added
    · grind
    · grind

/-- A domain file of readable lines has the effect of the rules in its lines, and no line
has more than one. -/
theorem domain_file_is_read_by_lines (inetPton : InetPton) (content : Host)
    (noNul : nul ∉ content) (few : (domainsOf inetPton content).length < maxFileRules)
    (readable : ∀ line ∈ fileLines content, line.Readable) :
    (blacklistLoadFile inetPton .init content .domainBlacklist).bl.domains =
        domainsOf inetPton content ∧
      (blacklistLoadFile inetPton .init content .domainBlacklist).numOk ≤
        ((fileLines content).filterMap (domainRule inetPton)).length := by
  have strings : ∀ line ∈ fileLines content, nul ∉ line.raw := fun line found member =>
    noNul ((LineReader.of_mem_splitOn (mem_of_mem_fileLines found)).2 member)
  have inside : ∀ line ∈ fileLines content, '\n' ∉ line.raw := fun line found =>
    (LineReader.of_mem_splitOn (mem_of_mem_fileLines found)).1
  have start : DomainsCounted ⟨.init, 0, 0, 0⟩ [] := ⟨rfl, rfl⟩
  have rules := foldl_blacklistAddDomain_length
    ((fileLines content).filterMap (domainRule inetPton)) []
  rw [← domainsOf, List.length_nil, Nat.zero_add] at rules
  rw [blacklistLoadFile_lines inetPton .domainBlacklist fun line found => (readable line found).fits]
  rw [domainsOf_eq] at few rules ⊢
  have counted := start.lines readable strings inside few
  exact ⟨counted.added, counted.numOk ▸ rules⟩

/-- Comments, both kinds of ends of a line, an empty line, an address and a path. -/
def exampleFile : Host :=
  "# ads\nexample.org\r\n\n10.0.0.1\nwww.example.net/x\nexample.org".toList

theorem example_file_is_read :
    (blacklistLoadFile .dotted .init exampleFile .domainBlacklist).bl.domains =
        ["example.org".toList, "example.net".toList] ∧
      (blacklistLoadFile .dotted .init exampleFile .domainBlacklist).numOk ≤ 3 := by
  have read := domain_file_is_read_by_lines .dotted exampleFile (by decide) (by decide) (by decide)
  exact ⟨read.1.trans (by decide), read.2⟩

/-- A comment that is longer than the buffer. -/
def longComment : Host := '#' :: List.replicate 254 ' ' ++ "example.org\n".toList

/-- An empty line that ends with CRLF adds a rule that is empty, the end of a long comment is
taken for a rule, and a carriage return cuts a line. -/
theorem file_pieces_are_taken_for_lines :
    ((blacklistLoadFile .dotted .init "\r\n".toList .domainBlacklist).bl.domains = [[]] ∧
        domainsOf .dotted "\r\n".toList = []) ∧
      ((blacklistLoadFile .dotted .init longComment .domainBlacklist).bl.domains =
          ["example.org".toList] ∧
        domainsOf .dotted longComment = []) ∧
      (blacklistLoadFile .dotted .init "a.org\rb\n".toList .domainBlacklist).bl.domains =
          ["a.org".toList] ∧
        domainsOf .dotted "a.org\rb\n".toList = ["a.org\rb".toList] := by
  refine ⟨?_, ?_, ?_⟩
  · decide +kernel
  · decide +kernel
  · decide +kernel

end PcapdroidFormal.Lists
