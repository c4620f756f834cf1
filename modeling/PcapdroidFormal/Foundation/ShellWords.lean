import Mathlib.Algebra.Ring.Nat
import Mathlib.Data.List.Basic

/-!
# Shell commands

How a POSIX shell splits its input into simple commands and their words: blanks separate
words, newlines and semicolons separate commands, a backslash quotes the next character and
single quotes quote everything up to the next one.  Input with any other special character
outside of quotes is not read, since it may be an expansion, a redirection or an operator.
-/

namespace PcapdroidFormal.Foundation

variable {text : List Char}

namespace Shell

def singleQuote : Char := Char.ofNat 39

def backslash : Char := Char.ofNat 92

/-- The other characters that have to be quoted to stand for themselves. -/
def specialChars : List Char := "|&<>()$`\"*?[#~=%".toList

/-- All the characters that do not stand for themselves outside of quotes. -/
def quotingChars : List Char := [singleQuote, backslash, ' ', '\t', '\n', ';'] ++ specialChars

def isPlain (char : Char) : Bool := !quotingChars.contains char

inductive Mode where
  | plain
  | quoted
  | escaped
  deriving DecidableEq, Repr

/-- The input read so far: the word and the command that are not finished, and the commands
that are. -/
structure Reading where
  word : Option (List Char)
  words : List (List Char)
  commands : List (List (List Char))
  deriving DecidableEq, Repr

namespace Reading

variable (reading : Reading)

def start : Reading := ⟨none, [], []⟩

/-- A character of the current word. -/
def addChar (char : Char) : Reading :=
  { reading with word := some (reading.word.getD [] ++ [char]) }

/-- A quote begins a word even if nothing is quoted. -/
def openWord : Reading := { reading with word := some (reading.word.getD []) }

def endWord : Reading :=
  { reading with word := none, words := reading.words ++ reading.word.toList }

/-- Empty lines are no commands. -/
def endCommand : Reading :=
  let ended := reading.endWord
  if ended.words.isEmpty then ended
  else { ended with words := [], commands := ended.commands ++ [ended.words] }

end Reading

/-- The commands of an input, unless it ends inside quotes or cannot be read. -/
def read : Mode → Reading → List Char → Option (List (List (List Char)))
  | .plain, reading, [] => some reading.endCommand.commands
  | .quoted, _, [] | .escaped, _, [] => none
  | .plain, reading, char :: rest =>
    if char = singleQuote then read .quoted reading.openWord rest
    else if char = backslash then read .escaped reading rest
    else if char = ' ' ∨ char = '\t' then read .plain reading.endWord rest
    else if char = '\n' ∨ char = ';' then read .plain reading.endCommand rest
    else if specialChars.contains char then none
    else read .plain (reading.addChar char) rest
  | .quoted, reading, char :: rest =>
    if char = singleQuote then read .plain reading rest
    else read .quoted (reading.addChar char) rest
  | .escaped, reading, char :: rest =>
    if char = '\n' then read .plain reading rest
    else read .plain (reading.addChar char) rest

def commands (input : List Char) : Option (List (List (List Char))) := read .plain .start input

/-! ## Words -/

/-- A class of characters without those that need quotes. -/
theorem isPlain_of_class {isMember : Char → Bool}
    (noneQuoting : quotingChars.any isMember = false) {char : Char}
    (member : isMember char = true) : isPlain char = true := by
  rw [isPlain, Bool.not_eq_true', ← Bool.not_eq_true, List.contains_iff_mem]
  grind

/-- A text that can be seen to be a word. -/
theorem word_of_all (word : text ≠ [] ∧ text.all isPlain = true) :
    text ≠ [] ∧ ∀ char ∈ text, isPlain char = true :=
  word.imp_right List.all_eq_true.mp

theorem read_plainChar {char : Char} (plain : isPlain char = true) (reading : Reading)
    (rest : List Char) :
    read .plain reading (char :: rest) = read .plain (reading.addChar char) rest := by
  rw [isPlain, Bool.not_eq_true', ← Bool.not_eq_true, List.contains_iff_mem, quotingChars,
    List.mem_append] at plain
  simp only [List.mem_cons, List.not_mem_nil, or_false, not_or] at plain
  obtain ⟨⟨quote, escape, space, tab, newline, semicolon⟩, special⟩ := plain
  rw [read, if_neg quote, if_neg escape, if_neg (not_or.mpr ⟨space, tab⟩),
    if_neg (not_or.mpr ⟨newline, semicolon⟩), if_neg (by rwa [List.contains_iff_mem])]

section

variable (plain : ∀ char ∈ text, isPlain char = true)
include plain

/-- Plain characters are a part of a word. -/
theorem read_plain (front : List Char) (words : List (List Char)) (done : List (List (List Char)))
    (rest : List Char) : read .plain ⟨some front, words, done⟩ (text ++ rest) =
      read .plain ⟨some (front ++ text), words, done⟩ rest := by
  induction text generalizing front with
  | nil => grind
  | cons char text ih =>
    rw [List.forall_mem_cons] at plain
    rw [List.cons_append, read_plainChar plain.1]
    refine (ih plain.2 (front ++ [char])).trans ?_
    rw [← List.append_cons]

/-- Plain characters before a blank are a word. -/
theorem read_word (nonempty : text ≠ []) (words : List (List Char)) (done : List (List (List Char)))
    (rest : List Char) : read .plain ⟨none, words, done⟩ (text ++ ' ' :: rest) =
      read .plain ⟨none, words ++ [text], done⟩ rest := by
  cases text with
  | nil => exact absurd rfl nonempty
  | cons char text =>
    rw [List.forall_mem_cons] at plain
    rw [List.cons_append, read_plainChar plain.1]
    exact read_plain plain.2 [char] words done (' ' :: rest)

end

/-- Words with a blank behind each. -/
def spaced (words : List (List Char)) : List Char := words.flatMap fun word => word ++ [' ']

theorem read_spaced {texts : List (List Char)}
    (plain : ∀ text ∈ texts, text ≠ [] ∧ ∀ char ∈ text, isPlain char = true)
    (words : List (List Char)) (done : List (List (List Char))) (rest : List Char) :
    read .plain ⟨none, words, done⟩ (spaced texts ++ rest) =
      read .plain ⟨none, words ++ texts, done⟩ rest := by
  induction texts generalizing words with
  | nil => rw [List.append_nil]; rfl
  | cons text texts ih =>
    rw [List.forall_mem_cons] at plain
    have first : spaced (text :: texts) ++ rest = text ++ ' ' :: (spaced texts ++ rest) := by
      rw [spaced, List.flatMap_cons, List.append_assoc, List.append_assoc]
      rfl
    rw [first, read_word plain.1.2 plain.1.1, ih plain.2, ← List.append_cons]

/-- Everything but a quote is quoted. -/
theorem read_quoted (noQuote : singleQuote ∉ text) (front : List Char)
    (words : List (List Char)) (done : List (List (List Char))) (rest : List Char) :
    read .quoted ⟨some front, words, done⟩ (text ++ rest) =
      read .quoted ⟨some (front ++ text), words, done⟩ rest := by
  induction text generalizing front with
  | nil => grind
  | cons char text ih =>
    rw [List.mem_cons, not_or] at noQuote
    rw [List.cons_append, read, if_neg (Ne.symm noQuote.1)]
    refine (ih noQuote.2 (front ++ [char])).trans ?_
    rw [← List.append_cons]

/-- A quoted text is a word. -/
theorem read_quotedWord (noQuote : singleQuote ∉ text)
    (words : List (List Char)) (done : List (List (List Char))) (rest : List Char) :
    read .plain ⟨none, words, done⟩ (singleQuote :: (text ++ singleQuote :: rest)) =
      read .plain ⟨some text, words, done⟩ rest := by
  have inside := read_quoted noQuote [] words done (singleQuote :: rest)
  rw [List.nil_append] at inside
  rw [read, if_pos rfl]
  refine inside.trans ?_
  rw [read, if_pos rfl]

theorem read_blank (word : List Char) (words : List (List Char))
    (done : List (List (List Char))) (rest : List Char) :
    read .plain ⟨some word, words, done⟩ (' ' :: rest) =
      read .plain ⟨none, words ++ [word], done⟩ rest := rfl

/-! ## What words cost -/

/-- The length of words with a separator behind each. -/
def weight (words : List (List Char)) : Nat := (words.map fun word => word.length + 1).sum

theorem weight_append (first second : List (List Char)) :
    weight (first ++ second) = weight first + weight second := by
  simp [weight]

namespace Reading

/-- The characters of all the words, with their separators; the last word has none yet. -/
def weight (reading : Reading) : Nat :=
  Shell.weight reading.commands.flatten + Shell.weight reading.words +
    (reading.word.getD []).length

variable (reading : Reading)

theorem weight_addChar (char : Char) :
    (reading.addChar char).weight = reading.weight + 1 := by
  simp [weight, addChar, Nat.add_assoc]

theorem weight_openWord : reading.openWord.weight = reading.weight := rfl

theorem weight_endWord_le : reading.endWord.weight ≤ reading.weight + 1 := by
  obtain ⟨word, words, commands⟩ := reading
  cases word with
  | none => simp [weight, endWord]
  | some word => simp [weight, endWord, Shell.weight, Nat.add_assoc]

theorem weight_endCommand :
    reading.endCommand.weight = reading.endWord.weight := by
  unfold endCommand
  dsimp only
  split
  · rfl
  · simp [weight, endWord, Shell.weight]

theorem weight_endCommand_le :
    reading.endCommand.weight ≤ reading.weight + 1 := by
  rw [weight_endCommand]
  exact weight_endWord_le reading

theorem endCommand_word : reading.endCommand.word = none := by
  unfold endCommand
  dsimp only
  split <;> rfl

theorem weight_endCommand_of_word_none {reading : Reading} (between : reading.word = none) :
    reading.endCommand.weight = reading.weight := by
  rw [weight_endCommand]
  simp [weight, endWord, between]

theorem weight_commands_le :
    Shell.weight reading.commands.flatten ≤ reading.weight := by
  unfold weight
  omega

end Reading

/-- The escaped character is paid with the backslash. -/
def Mode.credit : Mode → Nat
  | escaped => 1
  | _ => 0

/-- Each character of the input makes one character of a word or one separator, and a quote
makes none. -/
theorem weight_read_le {mode : Mode} {reading : Reading} {input : List Char}
    {result : List (List (List Char))}
    (complete : read mode reading (input ++ ['\n']) = some result) :
    weight result.flatten + input.count singleQuote ≤
      reading.weight + input.length + 1 + mode.credit := by
  induction input generalizing mode reading with
  | nil =>
    rw [List.count_nil, List.length_nil]
    cases mode with
    | plain =>
      have ended : some reading.endCommand.endCommand.commands = some result := complete
      have atEnd := reading.endCommand.endCommand.weight_commands_le
      rw [Option.some.inj ended,
        Reading.weight_endCommand_of_word_none reading.endCommand_word] at atEnd
      have newline := reading.weight_endCommand_le
      omega
    | quoted => exact absurd complete (by rintro ⟨⟩)
    | escaped =>
      have ended : some reading.endCommand.commands = some result := complete
      have atEnd := reading.endCommand.weight_commands_le
      rw [Option.some.inj ended] at atEnd
      have last := reading.weight_endCommand_le
      omega
  | cons char rest ih =>
    rw [List.length_cons]
    have quotes : (char :: rest).count singleQuote ≤ rest.count singleQuote + 1 := by
      grind
    have noQuote (other : char ≠ singleQuote) :
        (char :: rest).count singleQuote = rest.count singleQuote :=
      List.count_cons_of_ne other
    have grown := reading.weight_addChar char
    rw [List.cons_append] at complete
    cases mode with
    | plain =>
      rw [read] at complete
      split_ifs at complete with quote escape blank separator special
      · have bound := ih complete
        rw [Reading.weight_openWord] at bound
        simp only [Mode.credit] at bound ⊢
        omega
      · have bound := ih complete
        have same := noQuote quote
        simp only [Mode.credit] at bound ⊢
        omega
      · have bound := ih complete
        have same := noQuote quote
        have ended := reading.weight_endWord_le
        grind
      · have bound := ih complete
        have same := noQuote quote
        have ended := reading.weight_endCommand_le
        grind
      · grind
    | quoted =>
      rw [read] at complete
      split_ifs at complete with quote
      · have bound := ih complete
        simp only [Mode.credit] at bound ⊢
        omega
      · grind
    | escaped =>
      rw [read] at complete
      split_ifs at complete with newline
      · have bound := ih complete
        simp only [Mode.credit] at bound ⊢
        omega
      · have bound := ih complete
        simp only [Mode.credit] at bound ⊢
        omega

end Shell

end PcapdroidFormal.Foundation
