import StorageLedger.Console.Wrap

namespace StorageLedger.Console

/-- The cells that the frame and the blanks inside it take of each line. -/
def frameWidth : Nat := 4

def titleLine (width : Nat) (title : List Char) : List Char :=
  let room := width - frameWidth
  let title := truncate room .fold (' ' :: title ++ [' '])
  let excess := room - cellLength title
  "╭─".toList ++ List.replicate (excess / 2) '─' ++ title ++
    List.replicate (excess - excess / 2) '─' ++ "─╮".toList

def panelLines (width : Nat) (title text : List Char) : List (List Char) :=
  let room := width - frameWidth
  titleLine width title ::
    (wrap room .free .fold text).map
      (fun line => "│ ".toList ++ setCells room line ++ " │".toList) ++
    ['╰' :: List.replicate (width - 2) '─' ++ ['╯']]

end StorageLedger.Console
