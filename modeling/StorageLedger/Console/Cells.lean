import StorageLedger.Console.CellWidth

namespace StorageLedger.Console

def joiner : Char := '\u200D'

/-- The character that asks for the emoji form of the one before it. -/
def emojiSelector : Char := '\uFE0F'

def selectorGain : Option Char → Nat
  | some c => if isEmojiBase c then 1 else 0
  | none => 0

/-- The width of a text after a measured character: what a joiner joins takes no cells. -/
def cellLengthAfter (last : Option Char) : List Char → Nat
  | [] => 0
  | c :: r =>
    if c = joiner then
      match r with
      | [] => 0
      | _ :: r => cellLengthAfter last r
    else if c = emojiSelector then selectorGain last + cellLengthAfter none r
    else if cellWidth c = 0 then cellLengthAfter last r
    else cellWidth c + cellLengthAfter (some c) r

def cellLength (cs : List Char) : Nat := cellLengthAfter none cs

/-- Characters that are not separated, with the cells they take together. -/
structure Cluster where
  chars : List Char
  width : Nat
deriving DecidableEq, Repr

def Cluster.extend (cluster : Cluster) (cs : List Char) (gain : Nat) : Cluster :=
  ⟨cluster.chars ++ cs, cluster.width + gain⟩

/-- The clusters of a text after an open cluster and a measured character. -/
def clustersAfter (current : Cluster) (last : Option Char) : List Char → List Cluster
  | [] => [current]
  | c :: r =>
    if c = joiner then
      match r with
      | [] => [current.extend [c] 0]
      | d :: r => clustersAfter (current.extend [c, d] 0) last r
    else if c = emojiSelector then clustersAfter (current.extend [c] (selectorGain last)) none r
    else if cellWidth c = 0 then clustersAfter (current.extend [c] 0) last r
    else current :: clustersAfter ⟨[c], cellWidth c⟩ (some c) r

/-- The clusters of a text. Its first character opens one, whatever it is. -/
def clusters : List Char → List Cluster
  | [] => []
  | c :: r => clustersAfter ⟨[c], cellWidth c⟩ (if cellWidth c = 0 then none else some c) r

def blanks (n : Nat) : List Char := List.replicate n ' '

/-- The first clusters that fit into a width. A cluster that fits only in part leaves blanks. -/
def takeClusters (width : Nat) : List Cluster → List Char
  | [] => []
  | cluster :: rest =>
    if cluster.width ≤ width then cluster.chars ++ takeClusters (width - cluster.width) rest
    else blanks width

def takeCells (width : Nat) (cs : List Char) : List Char := takeClusters width (clusters cs)

def setCells (width : Nat) (cs : List Char) : List Char :=
  if width = 0 then []
  else if cellLength cs < width then cs ++ blanks (width - cellLength cs)
  else if cellLength cs = width then cs
  else takeCells width cs

/-- The lines of a run of clusters, each as full as a width allows, after an open line. What is left
at the end without cells is dropped. -/
def chopClusters (width : Nat) (line : Cluster) : List Cluster → List (List Char)
  | [] => if line.width = 0 then [] else [line.chars]
  | cluster :: rest =>
    if width < line.width + cluster.width then line.chars :: chopClusters width cluster rest
    else chopClusters width (line.extend cluster.chars cluster.width) rest

def chopCells (width : Nat) (cs : List Char) : List (List Char) :=
  chopClusters width ⟨[], 0⟩ (clusters cs)

/-- A text of printable ASCII is as wide as it is long. -/
theorem cellLength_ascii {cs : List Char} (h : ∀ c ∈ cs, 0x20 ≤ c.toNat ∧ c.toNat < 0x7F) :
    cellLength cs = cs.length := by
  suffices ∀ last, cellLengthAfter last cs = cs.length from this none
  induction cs with
  | nil => intro last; rfl
  | cons c r ih =>
    intro last
    have hc := h c List.mem_cons_self
    have hj : c ≠ joiner := by rintro rfl; exact absurd hc.2 (by decide)
    have hs : c ≠ emojiSelector := by rintro rfl; exact absurd hc.2 (by decide)
    have hw := cellWidth_ascii hc.1 hc.2
    rw [cellLengthAfter.eq_def]
    simp only [hj, hs, hw, ↓reduceIte, Nat.one_ne_zero, List.length_cons]
    rw [ih fun d hd => h d (List.mem_cons_of_mem c hd)]
    omega

end StorageLedger.Console
