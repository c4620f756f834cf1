import Mathlib.Data.Nat.Digits.Defs
import PcapdroidFormal.Foundation.Framing

/-!
# Chunked transfer coding

A body is sent in chunks, each behind its length in hexadecimal digits, and a
chunk of length zero ends it.  The coding is undone without loss as long as
none of the chunks is empty.
-/

namespace PcapdroidFormal.Foundation

namespace Chunked

/-! ## Hexadecimal numbers -/

def hexDigit (digit : Nat) : UInt8 := UInt8.ofNat (if digit < 10 then 48 + digit else 87 + digit)

/-- The value of a hexadecimal digit of either case. -/
def hexValue (byte : UInt8) : Option Nat :=
  if 48 ≤ byte ∧ byte ≤ 57 then some (byte.toNat - 48)
  else if 97 ≤ byte ∧ byte ≤ 102 then some (byte.toNat - 87)
  else if 65 ≤ byte ∧ byte ≤ 70 then some (byte.toNat - 55)
  else none

/-- A number in lower-case digits without leading zeros. -/
def hexText (value : Nat) : Bytes :=
  if value = 0 then [hexDigit 0] else (Nat.digits 16 value).reverse.map hexDigit

def readDigits (sofar : Nat) : Bytes → Nat × Bytes
  | [] => (sofar, [])
  | byte :: rest =>
    match hexValue byte with
    | some digit => readDigits (16 * sofar + digit) rest
    | none => (sofar, byte :: rest)

/-- A number of at least one digit. -/
def readHex : Decoder Nat
  | [] => none
  | byte :: rest => (hexValue byte).map fun digit => readDigits digit rest

theorem hexValue_hexDigit {digit : Nat} (small : digit < 16) :
    hexValue (hexDigit digit) = some digit := by
  have all : ∀ value : Fin 16, hexValue (hexDigit value.val) = some value.val := by decide
  exact all ⟨digit, small⟩

theorem readDigits_digits {digits : List Nat} (small : ∀ digit ∈ digits, digit < 16)
    {rest : Bytes} (sofar : Nat) (stops : ∀ value, readDigits value rest = (value, rest)) :
    readDigits sofar (digits.map hexDigit ++ rest) =
      (digits.foldl (fun value digit => 16 * value + digit) sofar, rest) := by
  induction digits generalizing sofar with
  | nil => exact stops sofar
  | cons digit digits ih =>
    have first := hexValue_hexDigit (small digit List.mem_cons_self)
    rw [List.map_cons, List.cons_append, readDigits, first]
    grind

theorem foldl_reverse_digits (digits : List Nat) :
    digits.reverse.foldl (fun value digit => 16 * value + digit) 0 = Nat.ofDigits 16 digits := by
  rw [List.foldl_reverse, Nat.ofDigits_eq_foldr]
  grind

/-- A number is read back in front of anything that is not a digit. -/
theorem readHex_hexText (value : Nat) {rest : Bytes}
    (stops : ∀ sofar, readDigits sofar rest = (sofar, rest)) :
    readHex (hexText value ++ rest) = some (value, rest) := by
  unfold hexText
  split
  next zero =>
    subst zero
    rw [List.singleton_append, readHex, hexValue_hexDigit (by decide), Option.map_some, stops]
  next positive =>
    have small : ∀ digit ∈ (Nat.digits 16 value).reverse, digit < 16 := by
      intro digit member
      exact Nat.digits_lt_base (by decide) (List.mem_reverse.mp member)
    have total := foldl_reverse_digits (Nat.digits 16 value)
    rw [Nat.ofDigits_digits] at total
    cases shape : (Nat.digits 16 value).reverse with
    | nil =>
      grind
    | cons digit digits =>
      rw [shape] at small total
      have read := readDigits_digits
        (fun other member => small other (List.mem_cons_of_mem _ member)) digit stops
      rw [List.map_cons, List.cons_append, readHex,
        hexValue_hexDigit (small digit List.mem_cons_self), Option.map_some, read]
      grind

/-! ## Chunks -/

def crlf : Bytes := [13, 10]

theorem readDigits_crlf (sofar : Nat) (rest : Bytes) :
    readDigits sofar (crlf ++ rest) = (sofar, crlf ++ rest) := rfl

def chunk (data : Bytes) : Bytes := hexText data.length ++ (crlf ++ (data ++ crlf))

/-- The chunk of length zero and the empty line behind it. -/
def lastChunk : Bytes := hexText 0 ++ (crlf ++ crlf)

/-- The rest of the input behind a fixed text. -/
def expect (text input : Bytes) : Option Bytes :=
  if input.take text.length = text then some (input.drop text.length) else none

theorem expect_append (text rest : Bytes) : expect text (text ++ rest) = some rest := by
  simp [expect]

/-- Decode the chunks up to the last one, which ends the input; `fuel` bounds their number. -/
def dechunkFuel : Nat → Bytes → Option Bytes
  | 0, _ => none
  | fuel + 1, input => do
      let (size, input) ← readHex input
      let input ← expect crlf input
      if size = 0 then do
        let input ← expect crlf input
        if input = [] then some [] else none
      else do
        let (data, input) ← Decoder.takeBytes size input
        let input ← expect crlf input
        (dechunkFuel fuel input).map (data ++ ·)

def dechunk (input : Bytes) : Option Bytes := dechunkFuel input.length input

theorem dechunkFuel_lastChunk (fuel : Nat) : dechunkFuel (fuel + 1) lastChunk = some [] := by
  rfl

theorem dechunkFuel_chunk (fuel : Nat) {data : Bytes} (nonempty : data ≠ []) (rest : Bytes) :
    dechunkFuel (fuel + 1) (chunk data ++ rest) = (dechunkFuel fuel rest).map (data ++ ·) := by
  have positive : data.length ≠ 0 := fun zero => nonempty (List.length_eq_zero_iff.mp zero)
  rw [dechunkFuel, chunk]
  simp only [List.append_assoc]
  rw [readHex_hexText data.length fun sofar => readDigits_crlf sofar _]
  simp only [Option.bind_eq_bind, Option.bind_some, expect_append, if_neg positive,
    Decoder.takeBytes_append _ rfl]

variable (chunks : List Bytes)

theorem dechunkFuel_chunks (nonempty : ∀ data ∈ chunks, data ≠ []) (fuel : Nat)
    (enough : chunks.length < fuel) :
    dechunkFuel fuel (chunks.flatMap chunk ++ lastChunk) = some chunks.flatten := by
  induction chunks generalizing fuel with
  | nil =>
    cases fuel with
    | zero => cases enough
    | succ fuel => exact dechunkFuel_lastChunk fuel
  | cons data chunks ih =>
    cases fuel with
    | zero => cases enough
    | succ fuel =>
      rw [List.flatMap_cons, List.append_assoc,
        dechunkFuel_chunk fuel (nonempty data List.mem_cons_self),
        ih (fun other member => nonempty other (List.mem_cons_of_mem _ member)) fuel
          (Nat.lt_of_succ_lt_succ enough)]
      rfl

theorem length_le_chunks : chunks.length ≤ (chunks.flatMap chunk).length := by
  induction chunks with
  | nil => exact Nat.le_refl _
  | cons data chunks ih =>
    rw [List.flatMap_cons, List.length_cons, List.length_append]
    simp only [chunk, crlf, List.length_append, List.length_cons, List.length_nil]
    omega

/-- Chunks that are not empty decode to their concatenation, up to the last chunk. -/
theorem dechunk_chunks (nonempty : ∀ data ∈ chunks, data ≠ []) :
    dechunk (chunks.flatMap chunk ++ lastChunk) = some chunks.flatten := by
  apply dechunkFuel_chunks chunks nonempty
  have short := length_le_chunks chunks
  simp only [lastChunk, crlf, List.length_append, List.length_cons, List.length_nil]
  omega

end Chunked

end PcapdroidFormal.Foundation
