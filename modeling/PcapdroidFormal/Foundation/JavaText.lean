import Mathlib.Data.List.TakeWhile
import PcapdroidFormal.Foundation.ByteMemory

/-!
# Texts of Java

A `BufferedReader` returns a text line by line, and `Integer.parseInt` reads a
number that is all of its argument.  A text is the list of its characters.
-/

namespace PcapdroidFormal.Foundation

namespace JavaText

/-! ## Lines -/

/-- A line ends at a line feed, at a carriage return, or at both. -/
def isLineEnd (letter : Char) : Bool := letter = '\n' || letter = '\r'

def behindLineEnd : List Char → List Char
  | '\r' :: '\n' :: rest => rest
  | _ :: rest => rest
  | [] => []

/-- `BufferedReader.readLine`: the next line and what is behind it. -/
def readLine (text : List Char) : Option (List Char × List Char) :=
  if text = [] then none
  else some (text.takeWhile (!isLineEnd ·), behindLineEnd (text.dropWhile (!isLineEnd ·)))

/-- At most `fuel` lines of a text, up to the first empty one. -/
def linesWithin : Nat → List Char → List (List Char)
  | 0, _ => []
  | fuel + 1, text =>
      match readLine text with
      | none => []
      | some (line, rest) => if line = [] then [] else line :: linesWithin fuel rest

/-- The lines of a text up to the first empty one. -/
def leadingLines (text : List Char) : List (List Char) := linesWithin text.length text

section Line

variable {line : List Char} (inside : ∀ letter ∈ line, isLineEnd letter = false)

include inside

/-- A line that ends with both characters is read without them. -/
theorem readLine_crlf (rest : List Char) :
    readLine (line ++ '\r' :: '\n' :: rest) = some (line, rest) := by
  have none_ends : ∀ letter ∈ line, (!isLineEnd letter) = true := fun letter member => by
    rw [inside letter member]
    rfl
  rw [readLine, if_neg (by simp), List.takeWhile_append_of_pos none_ends,
    List.dropWhile_append_of_pos none_ends]
  simp [isLineEnd, behindLineEnd]

end Line

/-! ## Charsets -/

/-- A charset in which the characters of ASCII are bytes of their own. -/
structure AsciiCompatible (decode : Bytes → List Char) : Prop where
  nil : decode [] = []
  ascii : ∀ (front rest : Bytes) (byte : UInt8), byte < 128 →
    decode (front ++ byte :: rest) = decode front ++ Char.ofNat byte.toNat :: decode rest

theorem AsciiCompatible.append {decode : Bytes → List Char} (compatible : AsciiCompatible decode)
    {front : Bytes} (ascii : ∀ byte ∈ front, byte < 128) (rest : Bytes) :
    decode (front ++ rest) = front.map (fun byte => Char.ofNat byte.toNat) ++ decode rest := by
  induction front with
  | nil => rfl
  | cons byte front ih =>
    obtain ⟨first, others⟩ := List.forall_mem_cons.mp ascii
    have head := compatible.ascii [] (front ++ rest) byte first
    rw [compatible.nil, ih others] at head
    exact head

/-! ## Numbers -/

/-- The zeros of the decimal digits of Unicode that are a single `char`. -/
def decimalZeros : List Nat :=
  [0x0030, 0x0660, 0x06F0, 0x07C0, 0x0966, 0x09E6, 0x0A66, 0x0AE6, 0x0B66, 0x0BE6, 0x0C66,
    0x0CE6, 0x0D66, 0x0DE6, 0x0E50, 0x0ED0, 0x0F20, 0x1040, 0x1090, 0x17E0, 0x1810, 0x1946,
    0x19D0, 0x1A80, 0x1A90, 0x1B50, 0x1BB0, 0x1C40, 0x1C50, 0xA620, 0xA8D0, 0xA900, 0xA9D0,
    0xA9F0, 0xAA50, 0xABF0, 0xFF10]

/-- The first letters of the Latin alphabets that are digits. -/
def latinStarts : List Nat := [0x0041, 0x0061, 0xFF21, 0xFF41]

/-- The place of a code in the ranges of `width` codes with the given starts. -/
def placeIn (starts : List Nat) (width code : Nat) : Option Nat :=
  (starts.find? fun start => start ≤ code && code < start + width).map (code - ·)

/-- `Character.digit`. -/
def digit (radix : Nat) (letter : Char) : Option Nat :=
  ((placeIn decimalZeros 10 letter.toNat).or
    ((placeIn latinStarts 26 letter.toNat).map (10 + ·))).filter (· < radix)

def digitsValue (radix : Nat) : Nat → List Char → Option Nat
  | sofar, [] => some sofar
  | sofar, letter :: letters => do
      let value ← digit radix letter
      digitsValue radix (radix * sofar + value) letters

/-- A number of at least one digit. -/
def unsigned (radix : Nat) (letters : List Char) : Option Nat :=
  if letters = [] then none else digitsValue radix 0 letters

/-- `Integer.parseInt`, if it throws no `NumberFormatException`. -/
def parseInt (radix : Nat) (text : List Char) : Option Int :=
  match text with
  | '-' :: letters => ((unsigned radix letters).filter (· ≤ 2 ^ 31)).map fun value => -(value : Int)
  | '+' :: letters => ((unsigned radix letters).filter (· < 2 ^ 31)).map Int.ofNat
  | letters => ((unsigned radix letters).filter (· < 2 ^ 31)).map Int.ofNat

end JavaText

end PcapdroidFormal.Foundation
