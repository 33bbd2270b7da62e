import StorageLedger.Console.Wrap
import StorageLedger.Number.Rounding

namespace StorageLedger.Console
open StorageLedger.Text StorageLedger.Number

/-- The characters at which a text that is measured is broken. -/
def isLineBreak (c : Char) : Bool :=
  [0x0A, 0x0B, 0x0C, 0x0D, 0x1C, 0x1D, 0x1E, 0x85, 0x2028, 0x2029].contains c.toNat

def textWidth (cs : List Char) : Nat := ((words isLineBreak cs).map cellLength).max?.getD 0

/-- The cells on both sides of the text in a cell of a grid. -/
def cellPadding : Nat := 2

/-- A column: its heading, the alignment of its cells and the texts in them. -/
structure Column where
  heading : List Char
  alignment : Alignment
  cells : List (List Char)

def Column.width (limit : Nat) (c : Column) : Nat :=
  min limit (((c.heading :: c.cells).map textWidth).max?.getD 0 + cellPadding)

/-- The widths with an excess taken off the widest ones, of which some number is still to come. Each
gives its share of what is left, but no more than a limit. -/
def narrow (widest limit : Nat) : (excess count : Nat) → List Nat → List Nat
  | _, _, [] => []
  | excess, count, w :: ws =>
    if w = widest ∧ 0 < count then
      let share := min limit (roundHalfEven excess count)
      (w - share) :: narrow widest limit (excess - share) (count - 1) ws
    else w :: narrow widest limit excess count ws

/-- One step towards widths that fit: the widest columns give way, at most to the next widest. -/
def giveWay (excess : Nat) (ws : List Nat) : List Nat :=
  let widest := ws.max?.getD 0
  let next := (ws.filter (· ≠ widest)).max?.getD 0
  narrow widest (min excess (widest - next)) excess (ws.count widest) ws

def totalWidth (ws : List Nat) : Nat := ws.foldr (· + ·) 0

/-- The widths after at most so many steps towards a total. -/
def collapse (total : Nat) : Nat → List Nat → List Nat
  | 0, ws => ws
  | steps + 1, ws =>
    if totalWidth ws ≤ total then ws
    else collapse total steps (giveWay (totalWidth ws - total) ws)

/-- The widths made to fit into a total. Each step takes away at least one cell. -/
def fitWidths (total : Nat) (ws : List Nat) : List Nat := collapse total (totalWidth ws) ws

def cellLines (width : Nat) (alignment : Alignment) (cs : List Char) : List (List Char) :=
  (wrap (width - cellPadding) alignment .ellipsis cs).map fun line =>
    ' ' :: setCells (width - cellPadding) line ++ [' ']

/-- The lines of the cells of a row side by side, all of one height. Headings stand at the bottom of
their row. -/
def rowLines (edge : Char) (atBottom : Bool) (widths : List Nat) (cells : List (List (List Char))) :
    List (List Char) :=
  let height := (cells.map List.length).max?.getD 0
  let filled := (widths.zip cells).map fun (width, lines) =>
    let missing := List.replicate (height - lines.length) (blanks width)
    if atBottom then missing ++ lines else lines ++ missing
  (List.range height).map fun i =>
    edge :: [edge].intercalate (filled.map fun lines => lines[i]?.getD []) ++ [edge]

def ruleLine (first dash crossing last : Char) (widths : List Nat) : List Char :=
  first :: [crossing].intercalate (widths.map fun w => List.replicate w dash) ++ [last]

/-- The lines of a grid in a console of some width, the title first. -/
def gridLines (width : Nat) (title : List Char) (columns : List Column) : List (List Char) :=
  -- One edge in front of each column, and one behind the last.
  let edges := columns.length + 1
  let widths := fitWidths (width - edges) (columns.map (Column.width (width - edges)))
  let row (texts : List (List Char)) : List (List (List Char)) :=
    (widths.zip (columns.zip texts)).map fun (w, c, cs) => cellLines w c.alignment cs
  let rows := (List.range ((columns.map fun c => c.cells.length).max?.getD 0)).map fun i =>
    columns.map fun c => c.cells[i]?.getD []
  wrap (totalWidth widths + edges) .center .fold title ++
    [ruleLine '┏' '━' '┳' '┓' widths] ++
    rowLines '┃' true widths (row (columns.map Column.heading)) ++
    [ruleLine '┡' '━' '╇' '┩' widths] ++
    rows.flatMap (fun texts => rowLines '│' false widths (row texts)) ++
    [ruleLine '└' '─' '┴' '┘' widths]

end StorageLedger.Console
