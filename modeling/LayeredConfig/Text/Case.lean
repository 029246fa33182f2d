import LayeredConfig.Text.Class
import LayeredConfig.Text.Table.CaseMap

/-!
# Upper and lower case

Full case conversion by the Unicode rules that hold in every language. `upper` works character by
character; `lower` does too, except that a capital sigma at the end of a word becomes a final sigma.
-/

namespace LayeredConfig.Text

/-- The image of a code point under a list of runs in increasing order. -/
def runImage? (n : Nat) : List Table.Run → Option Nat
  | [] => none
  | run :: rest =>
    if n < run.first then none
    else if n ≤ run.last then
      if (n - run.first) % run.step = 0 then some (n + run.offset).toNat else none
    else runImage? n rest

/-- The image of a character: an expansion, a single character, or itself. -/
def caseImage (expansions : List (Nat × List Nat)) (runs : List Table.Run) (c : Char) : List Char :=
  match runImage? c.toNat runs with
  | some n => [Char.ofNat n]
  | none =>
    if c.toNat < 0x80 then [c]
    else match expansions.lookup c.toNat with
      | some image => image.map Char.ofNat
      | none => [c]

/-- Upper case of one character. -/
def upperChar (c : Char) : List Char := caseImage Table.upperExpansions Table.upperRuns c

/-- Lower case of one character that stands alone. -/
def lowerChar (c : Char) : List Char := caseImage Table.lowerExpansions Table.lowerRuns c

/-- Upper case of a text. -/
def upper (s : String) : String := String.ofList (s.toList.flatMap upperChar)

/-- Whether the first character that case rules do not look through is a cased one. -/
def startsCased (s : List Char) : Bool :=
  match s.dropWhile isCaseIgnorable with
  | c :: _ => isCased c
  | [] => false

/-- A capital sigma ends a word when a cased character stands before it and none after it. -/
def lowerSigma (before after : List Char) : Char :=
  if startsCased before && !startsCased after then 'ς' else 'σ'

/-- Lower case of `rest`, where `before` holds the characters read so far, the nearest first, and
`done` their lower case in reverse. -/
def lowerFrom (before done : List Char) : List Char → List Char
  | [] => done.reverse
  | c :: rest =>
    if c = 'Σ' then lowerFrom (c :: before) (lowerSigma before rest :: done) rest
    else lowerFrom (c :: before) ((lowerChar c).reverse ++ done) rest

/-- Lower case of a text. -/
def lower (s : String) : String := String.ofList (lowerFrom [] [] s.toList)

end LayeredConfig.Text
