import StorageLedger.Console.Markup
import StorageLedger.Console.Wrap

namespace StorageLedger.Console

def consoleWidth : Nat := 200

def unlines (lines : List (List Char)) : List Char := lines.flatMap (· ++ ['\n'])

def layOut (cs : List Char) : List Char := unlines (wrap consoleWidth .free .fold cs)

def print (cs : List Char) : Except Markup.Fault (List Char) := (Markup.render cs).map layOut

end StorageLedger.Console
