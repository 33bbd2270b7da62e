namespace StorageLedger.Text

/-- White space: the characters with the Unicode property of that name. -/
def isWhite (c : Char) : Bool :=
  let n := c.toNat
  (0x09 ≤ n && n ≤ 0x0D) || n == 0x20 || n == 0x85 || n == 0xA0 || n == 0x1680 ||
    (0x2000 ≤ n && n ≤ 0x200A) || n == 0x2028 || n == 0x2029 || n == 0x202F || n == 0x205F ||
    n == 0x3000

/-- Blanks: white space and the information separators. -/
def isBlank (c : Char) : Bool :=
  isWhite c || (0x1C ≤ c.toNat && c.toNat ≤ 0x1F)

def trimStart (p : Char → Bool) (cs : List Char) : List Char := cs.dropWhile p

def trimEnd (p : Char → Bool) (cs : List Char) : List Char := (cs.reverse.dropWhile p).reverse

/-- The text without the characters of a class at either end. -/
def trim (p : Char → Bool) (cs : List Char) : List Char := trimEnd p (trimStart p cs)

/-- The maximal runs of characters outside a class. -/
def words (p : Char → Bool) (cs : List Char) : List (List Char) :=
  (cs.splitBy fun a b => p a == p b).filter fun run => run.any (!p ·)

/-- The text split at each occurrence of a character, which is dropped. -/
def splitAtChar (sep : Char) : List Char → List (List Char)
  | [] => [[]]
  | c :: r =>
    if c = sep then [] :: splitAtChar sep r
    else match splitAtChar sep r with
      | [] => [[c]]
      | piece :: rest => (c :: piece) :: rest

/-- The text with every occurrence of a non-empty pattern removed, from left to right. -/
def removeAll (pattern : List Char) (cs : List Char) : List Char :=
  match cs with
  | [] => []
  | c :: r =>
    if pattern.isPrefixOf cs then removeAll pattern (r.drop (pattern.length - 1))
    else c :: removeAll pattern r
termination_by cs.length
decreasing_by all_goals simp only [List.length_drop, List.length_cons]; omega

end StorageLedger.Text
