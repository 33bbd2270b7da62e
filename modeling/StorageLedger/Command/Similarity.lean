namespace StorageLedger.Command

def commonStart : List Char → List Char → Nat
  | c :: cs, d :: ds => if c = d then commonStart cs ds + 1 else 0
  | _, _ => 0

structure Block where
  /-- Where it starts in the first text. -/
  left : Nat
  /-- Where it starts in the second text. -/
  right : Nat
  size : Nat
deriving DecidableEq, Repr

/-- The longest common block; of several the first in the first text, and then in the second. -/
def longestBlock (a b : List Char) : Block :=
  let blocks := (List.range a.length).flatMap fun i =>
    (List.range b.length).map fun j => ⟨i, j, commonStart (a.drop i) (b.drop j)⟩
  -- Only a longer block replaces the best, so the first of several stays.
  blocks.foldl (fun best block => if best.size < block.size then block else best) ⟨0, 0, 0⟩

/-- The length of all blocks, down to some depth. Every block shortens the first text. -/
def blockLengthTo : (depth : Nat) → List Char → List Char → Nat
  | 0, _, _ => 0
  | depth + 1, a, b =>
    let block := longestBlock a b
    if block.size = 0 then 0
    else
      block.size + blockLengthTo depth (a.take block.left) (b.take block.right) +
        blockLengthTo depth (a.drop (block.left + block.size)) (b.drop (block.right + block.size))

def blockLength (a b : List Char) : Nat := blockLengthTo a.length a b

/-- A name and how similar it is to a word, as a fraction. -/
structure Candidate where
  name : String
  /-- Twice the length of the common blocks. -/
  common : Nat
  /-- The length of both. -/
  total : Nat

def Candidate.of (word name : String) : Candidate :=
  ⟨name, 2 * blockLength name.toList word.toList, name.length + word.length⟩

/-- Three fifths of both are common. -/
def Candidate.isClose (c : Candidate) : Bool := 3 * c.total ≤ 5 * c.common

/-- The order of candidates: the more similar first, of equally similar ones the greater name. -/
def Candidate.before (a b : Candidate) : Bool :=
  -- The fractions are compared by cross products.
  let x := a.common * b.total
  let y := b.common * a.total
  y < x || (x == y && b.name ≤ a.name)

def closeLimit : Nat := 3

/-- The names that come close to a word, the closest first. -/
def closeNames (word : String) (names : List String) : List String :=
  let candidates := (names.map (Candidate.of word)).filter Candidate.isClose
  ((candidates.mergeSort Candidate.before).take closeLimit).map Candidate.name

end StorageLedger.Command
