import PcapdroidFormal.Foundation.ShellWords
import PcapdroidFormal.Pcapd.UidFilter

/-!
# The command line of pcapd

`connectPcapd` validates the configuration, formats the arguments of pcapd into a buffer of
256 bytes and has `start_subprocess` write the command to the input of a shell.  A character
stands for a byte of the C strings.
-/

namespace PcapdroidFormal.Pcapd

open PcapdroidFormal.Core PcapdroidFormal.Lists
open Foundation

/-! ## Validation -/

/-- A character that `valid_ifname` accepts. -/
def isIfnameChar (char : Char) : Bool :=
  char == '.' || char == '_' || char == '@' || char.isAlphanum

def validIfname (name : Host) : Bool :=
  !name.isEmpty && decide (name.length < 16) && name.all isIfnameChar

/-- `disallowed_chars` of `valid_bpf`. -/
def disallowedChars : Host := "$'\"`\n\r".toList

def validBpf (bpf : Host) : Bool := bpf.all fun char => !disallowedChars.contains char

/-! ## The command -/

/-- What `connectPcapd` reads of `pcapdroid_t`, and the UID of the process. -/
structure LaunchConf where
  captureInterface : Host
  pcapFileCapture : Bool
  bpf : Option Host
  appFilterUids : List Int
  tlsDecryption : Bool
  daemonize : Bool
  uid : Nat
  deriving DecidableEq, Repr

namespace LaunchConf

variable (conf : LaunchConf)

/-- `bpf`, with the default of `connectPcapd`. -/
def bpfText : Host := conf.bpf.getD []

/-- `get_uids_filter`, with the buffer of `connectPcapd`. -/
def uidsFilter : Host := getUidsFilter conf.tlsDecryption conf.appFilterUids uidsFilterBufSize

def uidText : Host := integerToString conf.uid

/-- The checks of `connectPcapd`, with the value of `daemonize` they leave. -/
def validate (fileExists : Host → Bool) : Option LaunchConf :=
  if !conf.bpfText.isEmpty && !validBpf conf.bpfText then none
  else if conf.pcapFileCapture then
    if fileExists conf.captureInterface then some conf else none
  else if validIfname conf.captureInterface then some { conf with daemonize := true }
  else none

def daemonFlag : Host := if conf.daemonize then " -d".toList else []

/-- The text that `connectPcapd` formats. -/
def formatArgs : Host :=
  "-l pcapd.log -L ".toList ++ conf.uidText ++ " -i '".toList ++ conf.captureInterface ++
    "' -u ".toList ++ conf.uidsFilter ++ " -t -b '".toList ++ conf.bpfText ++ "'".toList ++
    conf.daemonFlag

end LaunchConf

/-- `sizeof(args)`. -/
def argsSize : Nat := 256

/-- What `start_subprocess` writes to the shell. -/
def startSubprocess (prog args : Host) : Host := prog ++ " ".toList ++ args ++ "\n".toList

def connectPcapd (fileExists : Host → Bool) (pcapd : Host) (conf : LaunchConf) : Option Host :=
  if pcapd.isEmpty then none
  else
    match conf.validate fileExists with
    | none => none
    | some valid => some (startSubprocess pcapd (snprintf argsSize valid.formatArgs).1)

/-! ## The intended command -/

namespace LaunchConf

variable (conf : LaunchConf)

/-- The capture of an interface runs as a daemon. -/
def runsAsDaemon : Bool := conf.daemonize || !conf.pcapFileCapture

/-- The command that the configuration stands for. -/
def command (pcapd : Host) : List Host :=
  [pcapd, "-l".toList, "pcapd.log".toList, "-L".toList, conf.uidText,
    "-i".toList, conf.captureInterface, "-u".toList, conf.uidsFilter, "-t".toList,
    "-b".toList, conf.bpfText] ++ if conf.runsAsDaemon then ["-d".toList] else []

/-- The arguments fit into the buffer: 35 characters are fixed. -/
def FitsArgs : Prop :=
  conf.uidText.length + conf.captureInterface.length + conf.uidsFilter.length +
    conf.bpfText.length + (if conf.runsAsDaemon then 3 else 0) + 35 < argsSize

instance : Decidable conf.FitsArgs := inferInstanceAs (Decidable (_ < _))

end LaunchConf

/-! ## Numbers -/

theorem isPlain_of_isDigit {char : Char} (digit : char.isDigit = true) :
    Shell.isPlain char = true :=
  Shell.isPlain_of_class (by decide) digit

theorem integerToString_ne_nil (uid : Int) : integerToString uid ≠ [] := by
  cases uid with
  | ofNat number => exact (integerToString_digits (Int.natCast_nonneg number)).1
  | negSucc number => exact List.cons_ne_nil _ _

theorem isPlain_integerToString (uid : Int) :
    ∀ char ∈ integerToString uid, Shell.isPlain char = true := by
  cases uid with
  | ofNat number =>
    intro char member
    exact isPlain_of_isDigit
      ((integerToString_digits (Int.natCast_nonneg number)).2 char member)
  | negSucc number =>
    rw [integerToString, List.forall_mem_cons]
    refine ⟨by decide, fun char member => isPlain_of_isDigit ?_⟩
    exact (decimalDigits_value (number + 2) (number + 1) (Nat.lt_succ_self _)).1 char member

theorem isPlain_filterText (uids : List Int) :
    ∀ char ∈ filterText uids, Shell.isPlain char = true := by
  cases uids with
  | nil => exact List.forall_mem_nil _
  | cons uid uids =>
    intro char member
    rw [filterText_cons, List.mem_append] at member
    rcases member with first | more
    · exact isPlain_integerToString uid char first
    · obtain ⟨other, _, printed⟩ := List.mem_flatMap.mp more
      rcases List.mem_cons.mp printed with rfl | digit
      · decide
      · exact isPlain_integerToString other char digit

namespace LaunchConf

variable (conf : LaunchConf) {pcapd bpf : Host}

theorem uidsFilter_word :
    conf.uidsFilter ≠ [] ∧ ∀ char ∈ conf.uidsFilter, Shell.isPlain char = true := by
  unfold uidsFilter
  cases decryption : conf.tlsDecryption with
  | true =>
    show "-1".toList ≠ [] ∧ ∀ char ∈ "-1".toList, Shell.isPlain char = true
    exact Shell.word_of_all (by decide)
  | false =>
    cases conf.appFilterUids with
    | nil => exact Shell.word_of_all (by decide)
    | cons uid uids =>
      rw [getUidsFilter_eq (by decide)]
      constructor
      · intro empty
        rw [List.take_eq_nil_iff, filterText_cons, List.append_eq_nil_iff] at empty
        rcases empty with size | ⟨first, _⟩
        · exact absurd size (by decide)
        · exact integerToString_ne_nil uid first
      · intro char member
        exact isPlain_filterText (uid :: uids) char (List.mem_of_mem_take member)

/-! ## Reading the command -/

/-- The text in front of the quoted BPF filter. -/
def optionsText : Host :=
  "-l pcapd.log -L ".toList ++ conf.uidText ++ " -i '".toList ++ conf.captureInterface ++
    "' -u ".toList ++ conf.uidsFilter ++ " -t -b ".toList

/-- The words in front of the BPF filter. -/
def options (pcapd : Host) : List Host :=
  [pcapd, "-l".toList, "pcapd.log".toList, "-L".toList, conf.uidText,
    "-i".toList, conf.captureInterface, "-u".toList, conf.uidsFilter, "-t".toList,
    "-b".toList]

theorem formatArgs_eq :
    conf.formatArgs = conf.optionsText ++
      Shell.singleQuote :: (conf.bpfText ++ Shell.singleQuote :: conf.daemonFlag) := by
  have quoted (front bpf flag : Host) :
      front ++ " -t -b '".toList ++ bpf ++ "'".toList ++ flag =
        front ++ " -t -b ".toList ++
          Shell.singleQuote :: (bpf ++ Shell.singleQuote :: flag) := by
    have opened : " -t -b '".toList = " -t -b ".toList ++ [Shell.singleQuote] := rfl
    have closed : "'".toList = [Shell.singleQuote] := rfl
    grind
  exact quoted _ _ _

/-- The words in front of the interface and behind it are not quoted. -/
theorem optionsText_eq (pcapd rest : Host) :
    pcapd ++ ' ' :: (conf.optionsText ++ rest) =
      Shell.spaced [pcapd, "-l".toList, "pcapd.log".toList, "-L".toList, conf.uidText,
          "-i".toList] ++
        Shell.singleQuote :: (conf.captureInterface ++ Shell.singleQuote :: ' ' ::
          (Shell.spaced ["-u".toList, conf.uidsFilter, "-t".toList, "-b".toList] ++ rest)) := by
  have log : "-l pcapd.log -L ".toList = Shell.spaced ["-l".toList, "pcapd.log".toList,
      "-L".toList] := rfl
  have opened : " -i '".toList = ' ' :: (Shell.spaced ["-i".toList] ++ [Shell.singleQuote]) := rfl
  have closed : "' -u ".toList = Shell.singleQuote :: ' ' :: Shell.spaced ["-u".toList] := rfl
  have bpf : " -t -b ".toList = ' ' :: Shell.spaced ["-t".toList, "-b".toList] := rfl
  have text : conf.optionsText = "-l pcapd.log -L ".toList ++ conf.uidText ++ " -i '".toList ++
      conf.captureInterface ++ "' -u ".toList ++ conf.uidsFilter ++ " -t -b ".toList := rfl
  rw [text, log, opened, closed, bpf]
  simp only [Shell.spaced, List.flatMap_cons, List.flatMap_nil, List.append_assoc,
    List.cons_append, List.nil_append]

/-- The options are read as they are meant if the interface has no quote. -/
theorem read_options (nonempty : pcapd ≠ []) (plain : ∀ char ∈ pcapd, Shell.isPlain char = true)
    (noQuote : Shell.singleQuote ∉ conf.captureInterface) (rest : Host) :
    Shell.commands (pcapd ++ ' ' :: (conf.optionsText ++ rest)) =
      Shell.read .plain ⟨none, conf.options pcapd, []⟩ rest := by
  have front : ∀ text ∈ [pcapd, "-l".toList, "pcapd.log".toList, "-L".toList, conf.uidText,
      "-i".toList], text ≠ [] ∧ ∀ char ∈ text, Shell.isPlain char = true := by
    have uid := And.intro (integerToString_ne_nil conf.uid) (isPlain_integerToString conf.uid)
    simp only [List.forall_mem_cons]
    exact ⟨⟨nonempty, plain⟩, Shell.word_of_all (by decide), Shell.word_of_all (by decide),
      Shell.word_of_all (by decide), uid, Shell.word_of_all (by decide), List.forall_mem_nil _⟩
  have back : ∀ text ∈ ["-u".toList, conf.uidsFilter, "-t".toList, "-b".toList],
      text ≠ [] ∧ ∀ char ∈ text, Shell.isPlain char = true := by
    simp only [List.forall_mem_cons]
    exact ⟨Shell.word_of_all (by decide), conf.uidsFilter_word, Shell.word_of_all (by decide),
      Shell.word_of_all (by decide), List.forall_mem_nil _⟩
  rw [optionsText_eq, Shell.commands, Shell.Reading.start, Shell.read_spaced front,
    Shell.read_quotedWord noQuote, Shell.read_blank, Shell.read_spaced back]
  rfl

def flags : List Host := if conf.daemonize then ["-d".toList] else []

theorem read_flags (words : List Host) (last : Host) :
    Shell.read .plain ⟨some last, words, []⟩ (conf.daemonFlag ++ ['\n']) =
      some [words ++ last :: conf.flags] := by
  have newline (word : Host) (others : List Host) :
      Shell.read .plain ⟨some word, others, []⟩ ['\n'] = some [others ++ [word]] := by
    simp [Shell.read, Shell.singleQuote, Shell.backslash, Shell.Reading.endCommand,
      Shell.Reading.endWord]
  unfold daemonFlag flags
  cases conf.daemonize with
  | false => exact newline last words
  | true =>
    refine (newline "-d".toList (words ++ [last])).trans ?_
    grind

/-- A command that is not cut is read as it is meant. -/
theorem commands_formatArgs (nonempty : pcapd ≠ [])
    (plain : ∀ char ∈ pcapd, Shell.isPlain char = true)
    (noQuote : Shell.singleQuote ∉ conf.captureInterface)
    (bpfNoQuote : Shell.singleQuote ∉ conf.bpfText) :
    Shell.commands (pcapd ++ ' ' :: (conf.formatArgs ++ ['\n'])) =
      some [conf.options pcapd ++ conf.bpfText :: conf.flags] := by
  rw [formatArgs_eq, List.append_assoc, List.cons_append, List.append_assoc, List.cons_append,
    read_options conf nonempty plain noQuote, Shell.read_quotedWord bpfNoQuote, read_flags]

/-! ## Commands that are cut -/

theorem length_daemonFlag :
    conf.daemonFlag.length = if conf.daemonize then 3 else 0 := by
  unfold daemonFlag
  split <;> rfl

theorem length_formatArgs :
    conf.formatArgs.length = conf.uidText.length + conf.captureInterface.length +
      conf.uidsFilter.length + conf.bpfText.length + (if conf.daemonize then 3 else 0) + 35 := by
  have log : "-l pcapd.log -L ".toList.length = 16 := rfl
  have opened : " -i '".toList.length = 5 := rfl
  have closed : "' -u ".toList.length = 5 := rfl
  have bpf : " -t -b '".toList.length = 8 := rfl
  have last : "'".toList.length = 1 := rfl
  rw [← length_daemonFlag]
  unfold formatArgs
  simp only [List.length_append, log, opened, closed, bpf, last]
  omega

theorem weight_command (pcapd : Host) :
    Shell.weight (conf.options pcapd ++ conf.bpfText :: conf.flags) + 2 =
      pcapd.length + conf.formatArgs.length := by
  have flags : Shell.weight conf.flags = if conf.daemonize then 3 else 0 := by
    unfold LaunchConf.flags
    split <;> rfl
  have fixed : Shell.weight (conf.options pcapd) = pcapd.length + conf.uidText.length +
      conf.captureInterface.length + conf.uidsFilter.length + 32 := by
    have words : Shell.weight (conf.options pcapd) = pcapd.length + 1 + (3 + (10 + (3 +
        (conf.uidText.length + 1 + (3 + (conf.captureInterface.length + 1 +
          (3 + (conf.uidsFilter.length + 1 + (3 + (3 + 0)))))))))) := rfl
    omega
  have bpf : Shell.weight (conf.bpfText :: conf.flags) =
      conf.bpfText.length + 1 + Shell.weight conf.flags := rfl
  rw [Shell.weight_append, fixed, bpf, flags, length_formatArgs]
  omega

/-- Four quotes are fixed. -/
theorem count_formatArgs :
    conf.captureInterface.count Shell.singleQuote + 4 ≤
      conf.formatArgs.count Shell.singleQuote := by
  have opened : " -i '".toList.count Shell.singleQuote = 1 := by decide
  have closed : "' -u ".toList.count Shell.singleQuote = 1 := by decide
  have bpf : " -t -b '".toList.count Shell.singleQuote = 1 := by decide
  have last : "'".toList.count Shell.singleQuote = 1 := by decide
  unfold formatArgs
  simp only [List.count_append, opened, closed, bpf, last]
  omega

/-- If the command is read as it is meant, nothing but quotes has been cut. -/
theorem cut_of_commands
    (read : Shell.commands (pcapd ++ ' ' :: (conf.formatArgs.take (argsSize - 1) ++ ['\n'])) =
      some [conf.options pcapd ++ conf.bpfText :: conf.flags]) :
    Shell.singleQuote ∉ conf.captureInterface ∧
      ∀ char ∈ conf.formatArgs.drop (argsSize - 1), Shell.singleQuote = char := by
  generalize argsSize - 1 = size at read ⊢
  have bound := @Shell.weight_read_le .plain .start
    (pcapd ++ ' ' :: conf.formatArgs.take size) _
    (by rw [List.append_assoc, List.cons_append]; exact read)
  have empty : Shell.Reading.start.weight = 0 := rfl
  have noCredit : Shell.Mode.plain.credit = 0 := rfl
  have words := conf.weight_command pcapd
  have quotes := conf.count_formatArgs
  have cut := List.take_append_drop size conf.formatArgs
  have lengths := congrArg List.length cut
  have counts := congrArg (List.count Shell.singleQuote) cut
  have dropped := @List.count_le_length _ _ Shell.singleQuote (conf.formatArgs.drop size)
  rw [List.flatten_singleton, empty, noCredit, List.count_append, List.length_append,
    List.length_cons, List.count_cons_of_ne (by decide)] at bound
  rw [List.length_append] at lengths
  rw [List.count_append] at counts
  have interfaceQuotes : conf.captureInterface.count Shell.singleQuote = 0 := by omega
  have droppedQuotes : (conf.formatArgs.drop size).count Shell.singleQuote =
      (conf.formatArgs.drop size).length := by omega
  exact ⟨List.count_eq_zero.mp interfaceQuotes, List.count_eq_length.mp droppedQuotes⟩

/-- What remains of `front 'bpf'` when nothing but quotes is cut from it. -/
theorem remaining_of_quotes {front kept cut : Host} {quote : Char}
    (text : kept ++ cut = front ++ [' '] ++ quote :: (bpf ++ [quote])) (isCut : cut ≠ [])
    (quotes : ∀ char ∈ cut, quote = char) (noQuote : quote ∉ bpf) (noBlank : quote ≠ ' ') :
    kept = front ++ [' '] ∨ kept = front ++ [' '] ++ quote :: bpf := by
  rcases cut.eq_nil_or_concat' with rfl | ⟨cut, closing, rfl⟩
  · exact absurd rfl isCut
  obtain ⟨first, _⟩ : kept ++ cut = front ++ [' '] ++ quote :: bpf ∧ [closing] = [quote] := by
    refine List.append_inj' ?_ rfl
    grind
  rcases cut.eq_nil_or_concat' with rfl | ⟨cut, opening, rfl⟩
  · grind
  have isQuote : quote = opening := quotes opening (by simp)
  rcases bpf.eq_nil_or_concat' with rfl | ⟨bpf, last, rfl⟩
  · obtain ⟨second, _⟩ := List.append_inj' ((List.append_assoc kept cut [opening]).trans first) rfl
    rcases cut.eq_nil_or_concat' with rfl | ⟨cut, blank, rfl⟩
    · grind
    · obtain ⟨_, isBlank⟩ := List.append_inj' ((List.append_assoc kept cut [blank]).trans second) rfl
      have alsoQuote : quote = blank := quotes blank (by simp)
      grind
  · have ends : kept ++ cut ++ [opening] = (front ++ [' '] ++ quote :: bpf) ++ [last] := by
      grind
    obtain ⟨_, isLast⟩ := List.append_inj' ends rfl
    grind

/-- A command that is cut is not read as it is meant. -/
theorem fits_of_commands (nonempty : pcapd ≠ []) (plain : ∀ char ∈ pcapd, Shell.isPlain char = true)
    (bpfNoQuote : Shell.singleQuote ∉ conf.bpfText)
    (read : Shell.commands (pcapd ++ ' ' :: (conf.formatArgs.take (argsSize - 1) ++ ['\n'])) =
      some [conf.options pcapd ++ conf.bpfText :: conf.flags]) :
    conf.formatArgs.length < argsSize := by
  obtain ⟨noQuote, quotes⟩ := conf.cut_of_commands read
  by_contra long
  have isCut : conf.formatArgs.drop (argsSize - 1) ≠ [] := by
    have size : argsSize - 1 < argsSize := by decide
    rw [Ne, List.drop_eq_nil_iff]
    omega
  have text := List.take_append_drop (argsSize - 1) conf.formatArgs
  generalize conf.formatArgs.take (argsSize - 1) = kept at read text
  generalize conf.formatArgs.drop (argsSize - 1) = cut at text quotes isCut
  rw [formatArgs_eq] at text
  cases daemon : conf.daemonize with
  | true =>
    have flag : conf.daemonFlag = " -".toList ++ ['d'] := by
      rw [daemonFlag, daemon, if_pos rfl]
      rfl
    rcases cut.eq_nil_or_concat' with rfl | ⟨cut, last, rfl⟩
    · exact isCut rfl
    · have ends : kept ++ cut ++ [last] = conf.optionsText ++
          Shell.singleQuote :: (conf.bpfText ++ Shell.singleQuote :: " -".toList) ++ ['d'] := by
        grind
      have isLast := List.singleton_inj.mp (List.append_inj' ends rfl).2
      have isQuote := quotes last (by simp)
      exact absurd (isQuote.trans isLast) (by decide)
  | false =>
    have flag : conf.daemonFlag = [] := by rw [daemonFlag, daemon, if_neg Bool.false_ne_true]
    obtain ⟨front, blank⟩ : ∃ front, conf.optionsText = front ++ [' '] :=
      ⟨_, (List.append_assoc _ " -t -b".toList [' ']).symm⟩
    rw [flag, blank] at text
    rcases remaining_of_quotes text isCut quotes bpfNoQuote (by decide) with rest | rest
    · -- The filter is missing.
      rw [rest, ← blank, conf.read_options nonempty plain noQuote] at read
      have missing : some [conf.options pcapd] =
          some [conf.options pcapd ++ conf.bpfText :: conf.flags] := read
      have same := (List.cons.inj (Option.some.inj missing)).1
      have lengths := congrArg List.length same
      grind
    · -- The quote in front of the filter is not closed.
      rw [rest, ← blank, List.append_assoc, conf.read_options nonempty plain noQuote] at read
      have opened : Shell.read .quoted ⟨some [], conf.options pcapd, []⟩
          (conf.bpfText ++ ['\n']) = none := by
        rw [Shell.read_quoted bpfNoQuote]
        rfl
      exact Option.some_ne_none _ (read.symm.trans opened)

/-- `valid_bpf` keeps quotes out of the filter. -/
theorem singleQuote_notMem_of_validBpf (valid : validBpf bpf = true) :
    Shell.singleQuote ∉ bpf := by
  intro quote
  rw [validBpf, List.all_eq_true] at valid
  exact absurd (valid Shell.singleQuote quote) (by decide)

/-- `valid_ifname` keeps quotes out of the interface. -/
theorem singleQuote_notMem_of_validIfname {name : Host} (valid : validIfname name = true) :
    Shell.singleQuote ∉ name := by
  intro quote
  rw [validIfname, Bool.and_eq_true, List.all_eq_true] at valid
  exact absurd (valid.2 Shell.singleQuote quote) (by decide)

/-- What passes the checks, which also choose `daemonize`. -/
theorem validate_eq_some {fileExists : Host → Bool} {valid : LaunchConf}
    (accepted : conf.validate fileExists = some valid) :
    valid = { conf with daemonize := conf.runsAsDaemon } ∧
      Shell.singleQuote ∉ conf.bpfText ∧
      (conf.pcapFileCapture = false → Shell.singleQuote ∉ conf.captureInterface) := by
  unfold validate at accepted
  split at accepted
  · exact absurd accepted (by rintro ⟨⟩)
  next checked =>
    have noQuote : Shell.singleQuote ∉ conf.bpfText := by
      intro quote
      have nonempty : conf.bpfText.isEmpty = false :=
        List.isEmpty_eq_false_iff.mpr (List.ne_nil_of_mem quote)
      have invalid : validBpf conf.bpfText = false :=
        Bool.eq_false_iff.mpr fun valid => singleQuote_notMem_of_validBpf valid quote
      grind
    split at accepted
    next file =>
      split at accepted
      · have daemon : conf.runsAsDaemon = conf.daemonize := by
          rw [runsAsDaemon, file, Bool.not_true, Bool.or_false]
        refine ⟨(Option.some.inj accepted).symm.trans ?_, noQuote, ?_⟩
        · rw [daemon]
        · grind
      · exact absurd accepted (by rintro ⟨⟩)
    next ifname =>
      split at accepted
      next valid =>
        refine ⟨(Option.some.inj accepted).symm.trans ?_, noQuote, ?_⟩
        · rw [runsAsDaemon, Bool.eq_false_iff.mpr ifname, Bool.not_false, Bool.or_true]
        · intro _
          exact singleQuote_notMem_of_validIfname valid
      · exact absurd accepted (by rintro ⟨⟩)

end LaunchConf

/-- The shell runs pcapd with the arguments of the configuration just if a file path has no
quote and the arguments are not cut. -/
theorem pcapd_command_is_read (fileExists : Host → Bool) (conf : LaunchConf) {pcapd line : Host}
    (plain : ∀ char ∈ pcapd, Shell.isPlain char = true)
    (started : connectPcapd fileExists pcapd conf = some line) :
    Shell.commands line = some [conf.command pcapd] ↔
      (conf.pcapFileCapture = true → Shell.singleQuote ∉ conf.captureInterface) ∧
        conf.FitsArgs := by
  unfold connectPcapd at started
  split at started
  · exact absurd started (by rintro ⟨⟩)
  next path =>
    have nonempty : pcapd ≠ [] := fun empty => path (List.isEmpty_iff.mpr empty)
    split at started
    · exact absurd started (by rintro ⟨⟩)
    next valid accepted =>
      obtain ⟨checked, bpfNoQuote, ifname⟩ := conf.validate_eq_some accepted
      have written : line = pcapd ++ ' ' :: (valid.formatArgs.take (argsSize - 1) ++ ['\n']) := by
        rw [← Option.some.inj started, startSubprocess, List.append_assoc, List.append_assoc]
        rfl
      have command : conf.command pcapd =
          valid.options pcapd ++ valid.bpfText :: valid.flags := by
        rw [checked]
        rfl
      have fits : conf.FitsArgs ↔ valid.formatArgs.length < argsSize := by
        rw [valid.length_formatArgs, checked]
        rfl
      have noQuotes : (conf.pcapFileCapture = true →
          Shell.singleQuote ∉ conf.captureInterface) ↔
            Shell.singleQuote ∉ valid.captureInterface := by
        rw [checked]
        cases file : conf.pcapFileCapture with
        | true => exact imp_iff_right rfl
        | false => exact iff_of_true (fun isFile => absurd isFile (by decide)) (ifname file)
      have sameBpf : valid.bpfText = conf.bpfText := by
        rw [checked]
        rfl
      rw [← sameBpf] at bpfNoQuote
      rw [written, command, fits, noQuotes]
      constructor
      · intro read
        exact ⟨(valid.cut_of_commands read).1,
          valid.fits_of_commands nonempty plain bpfNoQuote read⟩
      · rintro ⟨noQuote, short⟩
        rw [List.take_of_length_le (by omega)]
        exact valid.commands_formatArgs nonempty plain noQuote bpfNoQuote

/-- The capture of an interface, with two apps and a BPF filter. -/
def wlanConf : LaunchConf where
  captureInterface := "wlan0".toList
  pcapFileCapture := false
  bpf := some "port 80; udp".toList
  appFilterUids := [10123, 10124]
  tlsDecryption := false
  daemonize := false
  uid := 10200

theorem wlan_command_is_read :
    ∃ line, connectPcapd (fun _ => false) "/data/libpcapd.so".toList wlanConf = some line ∧
      Shell.commands line = some [wlanConf.command "/data/libpcapd.so".toList] :=
  ⟨_, rfl, (pcapd_command_is_read (fun _ => false) wlanConf
    (List.all_eq_true.mp (by decide)) rfl).mpr
    ⟨fun file => absurd file (by decide), by decide⟩⟩

def quotedPathConf : LaunchConf where
  captureInterface := "/sdcard/a'; reboot; 'b".toList
  pcapFileCapture := true
  bpf := none
  appFilterUids := []
  tlsDecryption := false
  daemonize := false
  uid := 10200

/-- The path of an existing file is run as a command. -/
theorem quoted_path_is_run :
    (connectPcapd (fun _ => true) "/data/libpcapd.so".toList quotedPathConf).bind Shell.commands =
      some [["/data/libpcapd.so".toList, "-l".toList, "pcapd.log".toList, "-L".toList,
          "10200".toList, "-i".toList, "/sdcard/a".toList],
        ["reboot".toList],
        ["b".toList, "-u".toList, "-1".toList, "-t".toList, "-b".toList, []]] := by
  decide +kernel

-- The closing quote of a BPF filter of 200 characters is cut.
example :
    (connectPcapd (fun _ => false) "/data/libpcapd.so".toList
      { wlanConf with bpf := some (List.replicate 200 'p') }).bind Shell.commands = none := by
  decide +kernel

end PcapdroidFormal.Pcapd
