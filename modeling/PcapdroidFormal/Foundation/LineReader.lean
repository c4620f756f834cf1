import Mathlib.Data.List.Basic

/-!
# Reading a text in pieces

`fgets` reads up to the end of a line, but not more than its buffer has room for,
so that a long line comes in several pieces.  A reader that takes nothing from an
empty piece, and the same from a piece with and without the end of its line, reads
a text line by line if every line fits in the buffer.
-/

namespace PcapdroidFormal.Foundation

namespace LineReader

variable {Symbol : Type} [DecidableEq Symbol] (newline : Symbol) {content : List Symbol}
  {room : Nat}

/-- What `fgets` reads into a buffer with room for some symbols, and what is behind it. -/
def fgets : Nat → List Symbol → List Symbol × List Symbol
  | 0, content => ([], content)
  | _ + 1, [] => ([], [])
  | room + 1, symbol :: rest =>
    if symbol = newline then ([symbol], rest)
    else
      let read := fgets room rest
      (symbol :: read.1, read.2)

/-- The pieces that `fgets` returns in up to `fuel` calls, until nothing is left. -/
def readPieces (room : Nat) : Nat → List Symbol → List (List Symbol)
  | 0, _ => []
  | _ + 1, [] => []
  | fuel + 1, symbol :: rest =>
    let read := fgets newline room (symbol :: rest)
    read.1 :: readPieces room fuel read.2

/-- The pieces of a text: every call reads one symbol at least. -/
def pieces (room : Nat) (content : List Symbol) : List (List Symbol) :=
  readPieces newline room content.length content

variable {newline} {line : List Symbol}

/-! ## One call -/

theorem fgets_line (inside : newline ∉ line) {room : Nat} (fits : line.length < room)
    (rest : List Symbol) :
    fgets newline room (line ++ newline :: rest) = (line ++ [newline], rest) := by
  induction line generalizing room with
  | nil =>
    obtain ⟨room, rfl⟩ := Nat.exists_eq_succ_of_ne_zero (Nat.ne_of_gt fits)
    exact if_pos rfl
  | cons symbol line ih =>
    obtain ⟨room, rfl⟩ := Nat.exists_eq_succ_of_ne_zero (Nat.ne_of_gt (Nat.zero_lt_of_lt fits))
    obtain ⟨other, inside⟩ := not_or.mp (mt List.mem_cons.mpr inside)
    have read := ih inside (Nat.lt_of_succ_lt_succ fits)
    rw [List.cons_append, fgets, if_neg (Ne.symm other), read]
    rfl

/-- A line without its end fills the buffer, or the text is over. -/
theorem fgets_full (inside : newline ∉ line) {room : Nat} {rest : List Symbol}
    (stops : line.length = room ∨ line.length < room ∧ rest = []) :
    fgets newline room (line ++ rest) = (line, rest) := by
  induction line generalizing room with
  | nil =>
    rcases stops with rfl | ⟨_, rfl⟩
    · rfl
    · cases room <;> rfl
  | cons symbol line ih =>
    obtain ⟨room, rfl⟩ : ∃ less, room = less + 1 := by
      refine Nat.exists_eq_succ_of_ne_zero ?_
      grind
    obtain ⟨other, inside⟩ := not_or.mp (mt List.mem_cons.mpr inside)
    have shorter : line.length = room ∨ line.length < room ∧ rest = [] :=
      stops.imp Nat.succ.inj (And.imp_left Nat.lt_of_succ_lt_succ)
    rw [List.cons_append, fgets, if_neg (Ne.symm other), ih inside shorter]

/-! ## All calls -/

theorem readPieces_nil (room fuel : Nat) : readPieces newline room fuel [] = [] := by
  cases fuel <;> rfl

/-- One call, which takes some of the fuel for what it reads. -/
theorem readPieces_of_fgets {fuel : Nat} {piece rest : List Symbol}
    (read : fgets newline room content = (piece, rest)) (some : content ≠ []) (enough : 0 < fuel) :
    readPieces newline room fuel content = piece :: readPieces newline room (fuel - 1) rest := by
  obtain ⟨fuel, rfl⟩ := Nat.exists_eq_succ_of_ne_zero (Nat.ne_of_gt enough)
  cases content with
  | nil => exact absurd rfl some
  | cons symbol content => rw [readPieces, read, Nat.succ_sub_one]

/-- A step that takes nothing from an empty piece and ignores the end of a line. -/
structure ByLine {State : Type} (newline : Symbol) (step : State → List Symbol → State) :
    Prop where
  empty : ∀ state, step state [] = state
  ended : ∀ state line, newline ∉ line → step state (line ++ [newline]) = step state line

variable {State : Type} {step : State → List Symbol → State}

theorem ByLine.foldl_readPieces (byLine : ByLine newline step) (positive : 0 < room)
    {lines : List (List Symbol)} (inside : ∀ line ∈ lines, newline ∉ line)
    (fits : ∀ line ∈ lines, line.length ≤ room) (fuel : Nat)
    (enough : ([newline].intercalate lines).length ≤ fuel) (state : State) :
    (readPieces newline room fuel ([newline].intercalate lines)).foldl step state =
      lines.foldl step state := by
  induction lines generalizing fuel state with
  | nil => rw [List.intercalate_nil, readPieces_nil]
  | cons line lines ih =>
    have lineInside := inside line List.mem_cons_self
    have lineFits := fits line List.mem_cons_self
    cases lines with
    | nil =>
      -- the last line, which the end of the text ends
      rw [List.intercalate_singleton] at enough ⊢
      by_cases blank : line = []
      · subst blank
        rw [readPieces_nil]
        exact (byLine.empty state).symm
      · have read : fgets newline room line = (line, []) := by
          have whole := @fgets_full _ _ newline line lineInside room []
            ((Nat.eq_or_lt_of_le lineFits).imp_right fun less => ⟨less, rfl⟩)
          grind
        have positiveFuel := Nat.lt_of_lt_of_le (List.length_pos_of_ne_nil blank) enough
        rw [readPieces_of_fgets read blank positiveFuel, readPieces_nil]
    | cons next lines =>
      have rest := ih (fun other member => inside other (List.mem_cons_of_mem _ member))
        (fun other member => fits other (List.mem_cons_of_mem _ member))
      rw [List.intercalate_cons_cons, List.append_assoc, List.singleton_append] at enough ⊢
      generalize [newline].intercalate (next :: lines) = content at enough rest ⊢
      rw [List.length_append, List.length_cons] at enough
      have some : line ++ newline :: content ≠ [] := by simp
      rw [List.foldl_cons]
      rcases Nat.lt_or_eq_of_le lineFits with less | full
      · rw [readPieces_of_fgets (fgets_line lineInside less content) some (by omega),
          List.foldl_cons, byLine.ended state line lineInside]
        exact rest _ (by omega) _
      · -- the end of the line is a piece of its own
        have lineEnd := @fgets_line _ _ newline [] List.not_mem_nil room positive content
        have nothing := byLine.ended (step state line) [] List.not_mem_nil
        rw [byLine.empty, List.nil_append] at nothing
        rw [List.nil_append, List.nil_append] at lineEnd
        rw [readPieces_of_fgets (fgets_full lineInside (.inl full)) some (by omega),
          readPieces_of_fgets lineEnd (List.cons_ne_nil _ _) (by omega), List.foldl_cons,
          List.foldl_cons, nothing]
        exact rest _ (by omega) _

/-! ## Lines -/

/-- A line has symbols of the text, and no end of a line. -/
theorem of_mem_splitOn (member : line ∈ content.splitOn newline) :
    newline ∉ line ∧ line ⊆ content := by
  induction content generalizing line with
  | nil =>
    rw [List.splitOn_nil, List.mem_singleton] at member
    grind
  | cons symbol content ih =>
    rw [List.splitOn_cons_eq_if_modifyHead] at member
    split at member
    next =>
      grind
    next other =>
      cases lines : content.splitOn newline with
      | nil => exact absurd lines (List.splitOn_ne_nil _ _)
      | cons first rest =>
        rw [lines] at member ih
        rcases List.mem_cons.mp member with rfl | member
        · grind
        · grind

/-- Lines that fit in the buffer are read one by one. -/
theorem ByLine.foldl_pieces (byLine : ByLine newline step) (positive : 0 < room)
    (fits : ∀ line ∈ content.splitOn newline, line.length ≤ room) (state : State) :
    (pieces newline room content).foldl step state = (content.splitOn newline).foldl step state:= by
  have joined : [newline].intercalate (content.splitOn newline) = content :=
    List.intercalate_splitOn newline
  have read := byLine.foldl_readPieces positive (fun _ found => (of_mem_splitOn found).1) fits
    _ (Nat.le_refl _) state
  rw [joined] at read
  exact read

end LineReader

end PcapdroidFormal.Foundation
