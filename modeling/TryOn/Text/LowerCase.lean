import TryOn.Text.CaseData
import TryOn.Text.Ranges

/-! Lower-casing over all of Unicode. Two mappings need more than one character to decide or
to write: a dotted capital I becomes two characters, and a capital sigma becomes final or
medial by the letters around it. -/

set_option autoImplicit false

namespace TryOn.Text

def CaseRun.lower? (run : CaseRun) (code : Nat) : Option Nat :=
  if run.first ≤ code ∧ code ≤ run.last ∧ (code - run.first) % run.step = 0 then
    some (run.target + (code - run.first))
  else none

def isCaseIgnorable (c : Char) : Bool :=
  inRanges caseIgnorable c.toNat

def isCased (c : Char) : Bool :=
  inRanges casedLetters c.toNat

def lowerChar (c : Char) : Char :=
  if c.toNat < 0x80 then c.toLower
  else match caseRuns.findSome? (·.lower? c.toNat) with
    | some code => Char.ofNat code
    | none => c

/-- The full lower-case mapping of one character, away from sigmas. -/
def lowerExpansion (c : Char) : List Char :=
  if c = 'İ' then ['i', '\u0307'] else [lowerChar c]

def meetsCasedLetter : List Char → Bool
  | [] => false
  | c :: rest => if isCaseIgnorable c then meetsCasedLetter rest else isCased c

/-- A capital sigma is final after a letter with none behind it. `before` is in reverse. -/
def lowerSigma (before after : List Char) : Char :=
  if meetsCasedLetter before && !meetsCasedLetter after then 'ς' else 'σ'

/-- Lower-case the rest of a text whose beginning, in reverse, is `before`. -/
def lowerFrom (before : List Char) : List Char → List Char
  | [] => []
  | c :: rest =>
    (if c = 'Σ' then [lowerSigma before rest] else lowerExpansion c) ++ lowerFrom (c :: before) rest

def lowerCase (text : String) : String :=
  String.ofList (lowerFrom [] text.toList)

def asciiLowerCase (text : String) : String :=
  text.map Char.toLower

end TryOn.Text
