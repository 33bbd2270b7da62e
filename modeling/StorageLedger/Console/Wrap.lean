import StorageLedger.Console.Cells
import StorageLedger.Text.Blank

namespace StorageLedger.Console
open StorageLedger.Text

/-- What happens to a word that is wider than a line. -/
inductive Overflow where
  | fold
  | ellipsis
deriving DecidableEq, Repr

/-- Where a line stands in its width. A line that is free is not padded. -/
inductive Alignment where
  | free
  | left
  | center
  | right
deriving DecidableEq, Repr

def tabSize : Nat := 8

/-- Parts of a line with tabs between them, from a cell on: each tab is a blank, and more of them
up to the next tab stop. -/
def joinTabbed (cell : Nat) : List (List Char) → List Char
  | [] => []
  | [last] => last
  | part :: rest =>
    let reached := cell + cellLength (part ++ [' '])
    let gap := (tabSize - reached % tabSize) % tabSize
    part ++ ' ' :: blanks gap ++ joinTabbed (reached + gap) rest

def expandTabs (line : List Char) : List Char := joinTabbed 0 (splitAtChar '\t' line)

/-- The first word of a text with the blanks around it, and the rest. -/
def firstWord? (cs : List Char) : Option (List Char × List Char) :=
  let lead := cs.takeWhile isBlank
  let rest := cs.dropWhile isBlank
  let word := rest.takeWhile (!isBlank ·)
  let rest := rest.dropWhile (!isBlank ·)
  if word.isEmpty then none
  else some (lead ++ word ++ rest.takeWhile isBlank, rest.dropWhile isBlank)

theorem firstWord?_length {cs word rest : List Char} (h : firstWord? cs = some (word, rest)) :
    rest.length < cs.length := by
  simp only [firstWord?] at h
  split at h
  · cases h
  · next hw =>
    obtain ⟨rfl, rfl⟩ := h
    have h₁ := congrArg List.length (List.takeWhile_append_dropWhile (p := isBlank) (l := cs))
    have h₂ := congrArg List.length
      (List.takeWhile_append_dropWhile (p := (!isBlank ·)) (l := cs.dropWhile isBlank))
    have h₃ := congrArg List.length (List.takeWhile_append_dropWhile (p := isBlank)
      (l := (cs.dropWhile isBlank).dropWhile (!isBlank ·)))
    have h₄ : 0 < ((cs.dropWhile isBlank).takeWhile (!isBlank ·)).length :=
      List.length_pos_iff.mpr fun he => hw (by rw [he]; rfl)
    simp only [List.length_append] at h₁ h₂ h₃
    omega

/-- The words of a line, each with the blanks behind it, the first also with those before it. -/
def wordRuns (cs : List Char) : List (List Char) :=
  match h : firstWord? cs with
  | some (word, rest) =>
    have := firstWord?_length h
    word :: wordRuns rest
  | none => []
termination_by cs.length

/-- The places at which pieces start, the first of them at a place. -/
def startsFrom (start : Nat) : List (List Char) → List Nat
  | [] => []
  | piece :: rest => start :: startsFrom (start + piece.length) rest

/-- The places at which words are broken off, the first word at a place, after some cells of an open
line. -/
def breaks (width : Nat) (overflow : Overflow) (start cells : Nat) : List (List Char) → List Nat
  | [] => []
  | word :: rest =>
    let next := start + word.length
    -- Blanks behind a word may stand out of the line.
    let size := cellLength (trimEnd isBlank word)
    if cells + size ≤ width then breaks width overflow next (cells + cellLength word) rest
    else if width < size then
      match overflow with
      | .fold =>
        let pieces := chopCells width word
        startsFrom start pieces ++
          breaks width overflow next (cellLength (pieces.getLast?.getD [])) rest
      | .ellipsis => start :: breaks width overflow next (cellLength word) rest
    else start :: breaks width overflow next (cellLength word) rest

/-- The text divided at places in increasing order, of which the first is counted from a place. -/
def divideAt (start : Nat) : List Nat → List Char → List (List Char)
  | [], cs => [cs]
  | place :: rest, cs => cs.take (place - start) :: divideAt place rest (cs.drop (place - start))

/-- The line without the blanks at its end that stand out of a number of characters. -/
def trimExcess (width : Nat) (line : List Char) : List Char :=
  let trailing := line.length - (trimEnd isBlank line).length
  line.take (line.length - min trailing (line.length - width))

def truncate (width : Nat) (overflow : Overflow) (line : List Char) : List Char :=
  if cellLength line ≤ width then line
  else match overflow with
    | .fold => setCells width line
    | .ellipsis => setCells (width - 1) line ++ ['…']

def padEnd (width : Nat) (line : List Char) : List Char := line ++ blanks (width - cellLength line)

def indent (n : Nat) (line : List Char) : List Char := blanks n ++ line

def align (width : Nat) (alignment : Alignment) (overflow : Overflow) (line : List Char) :
    List Char :=
  match alignment with
  | .free => line
  | .left => padEnd width (truncate width overflow line)
  | .center =>
    let line := truncate width overflow (trimEnd isBlank line)
    padEnd width (indent ((width - cellLength line) / 2) line)
  | .right =>
    let line := truncate width overflow (trimEnd isBlank line)
    indent (width - cellLength line) line

def wrapLine (width : Nat) (alignment : Alignment) (overflow : Overflow) (line : List Char) :
    List (List Char) :=
  let line := expandTabs line
  -- A break at the start would put an empty line in front.
  let places := (breaks width overflow 0 0 (wordRuns line)).filter (· ≠ 0)
  (divideAt 0 places line).map fun piece =>
    truncate width overflow (align width alignment overflow (trimExcess width piece))

def wrap (width : Nat) (alignment : Alignment) (overflow : Overflow) (cs : List Char) :
    List (List Char) :=
  (splitAtChar '\n' cs).flatMap (wrapLine width alignment overflow)

/-- A text of which nothing is left without its leading blanks holds nothing else. -/
theorem isBlank_of_dropWhile_eq_nil {cs : List Char} (h : cs.dropWhile isBlank = []) :
    ∀ c ∈ cs, isBlank c = true := by
  induction cs with
  | nil => simp
  | cons c r ih =>
    rw [List.dropWhile_cons] at h
    split at h
    · next hc => exact List.forall_mem_cons.mpr ⟨hc, ih h⟩
    · cases h

/-- The words of a line and the blanks at the end make up the line. -/
theorem flatten_wordRuns (cs : List Char) :
    ∃ rest : List Char, (∀ c ∈ rest, isBlank c = true) ∧ (wordRuns cs).flatten ++ rest = cs := by
  induction hn : cs.length using Nat.strongRecOn generalizing cs with
  | _ n ih =>
    rw [wordRuns]
    split
    · next word rest hw =>
      obtain ⟨tail, hblank, he⟩ := ih rest.length (hn ▸ firstWord?_length hw) rest rfl
      refine ⟨tail, hblank, ?_⟩
      simp only [firstWord?] at hw
      split at hw
      · cases hw
      · obtain ⟨rfl, rfl⟩ := hw
        simp only [List.flatten_cons, List.append_assoc] at he ⊢
        rw [he, List.takeWhile_append_dropWhile, List.takeWhile_append_dropWhile,
          List.takeWhile_append_dropWhile]
    · next hw =>
      refine ⟨cs, ?_, rfl⟩
      simp only [firstWord?] at hw
      split at hw
      · next he =>
        cases hd : cs.dropWhile isBlank with
        | nil => exact isBlank_of_dropWhile_eq_nil hd
        | cons c r =>
          have hc : isBlank c = false := by
            have := List.head?_dropWhile_not isBlank cs
            rw [hd] at this
            simpa using this
          rw [hd] at he
          simp [hc] at he
      · cases hw

/-- Dividing keeps every character. -/
theorem flatten_divideAt (start : Nat) (places : List Nat) (cs : List Char) :
    (divideAt start places cs).flatten = cs := by
  induction places generalizing start cs with
  | nil => simp [divideAt]
  | cons place rest ih => rw [divideAt, List.flatten_cons, ih, List.take_append_drop]

end StorageLedger.Console
