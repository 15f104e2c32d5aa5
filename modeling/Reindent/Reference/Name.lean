-- SUMMARY: The named character references: which name stands for which characters.
import Reindent.Reference.Capital
import Reindent.Reference.Small
import Reindent.Text

/-! # Reference names -/

namespace Reindent.Reference

/-- The names that start with `initial`, with the code points they stand for. -/
def namesFrom (initial : Char) : List (String × List Nat) :=
  match initial with
  | 'A' => Capital.namesA
  | 'B' => Capital.namesB
  | 'C' => Capital.namesC
  | 'D' => Capital.namesD
  | 'E' => Capital.namesE
  | 'F' => Capital.namesF
  | 'G' => Capital.namesG
  | 'H' => Capital.namesH
  | 'I' => Capital.namesI
  | 'J' => Capital.namesJ
  | 'K' => Capital.namesK
  | 'L' => Capital.namesL
  | 'M' => Capital.namesM
  | 'N' => Capital.namesN
  | 'O' => Capital.namesO
  | 'P' => Capital.namesP
  | 'Q' => Capital.namesQ
  | 'R' => Capital.namesR
  | 'S' => Capital.namesS
  | 'T' => Capital.namesT
  | 'U' => Capital.namesU
  | 'V' => Capital.namesV
  | 'W' => Capital.namesW
  | 'X' => Capital.namesX
  | 'Y' => Capital.namesY
  | 'Z' => Capital.namesZ
  | 'a' => Small.namesA
  | 'b' => Small.namesB
  | 'c' => Small.namesC
  | 'd' => Small.namesD
  | 'e' => Small.namesE
  | 'f' => Small.namesF
  | 'g' => Small.namesG
  | 'h' => Small.namesH
  | 'i' => Small.namesI
  | 'j' => Small.namesJ
  | 'k' => Small.namesK
  | 'l' => Small.namesL
  | 'm' => Small.namesM
  | 'n' => Small.namesN
  | 'o' => Small.namesO
  | 'p' => Small.namesP
  | 'q' => Small.namesQ
  | 'r' => Small.namesR
  | 's' => Small.namesS
  | 't' => Small.namesT
  | 'u' => Small.namesU
  | 'v' => Small.namesV
  | 'w' => Small.namesW
  | 'x' => Small.namesX
  | 'y' => Small.namesY
  | 'z' => Small.namesZ
  | _ => []

/-- What a name stands for. The semicolon is part of the name. -/
def expansion? (name : Text) : Option Text :=
  match name with
  | [] => none
  | initial :: _ => ((namesFrom initial).lookup (String.ofList name)).map (·.map Char.ofNat)

end Reindent.Reference
