import LayeredConfig.Yaml.Cursor

/-!
# YAML scalars

The text of plain, quoted and block scalars. Line breaks inside plain and quoted scalars are folded:
a single one becomes a space, of several the first is dropped. Block scalars keep their breaks
(literal) or fold those between lines that begin at the indentation (folded).
-/

namespace LayeredConfig.Yaml

open LayeredConfig.Text (isDigit digitValue hexValue?)

/-- Blanks and line breaks between two words of a scalar: the blanks before the first break, the
text of that break, and the texts of the further ones. -/
structure Gap where
  blanks : List Char
  broken : Bool
  first : List Char
  more : List Char

namespace Gap

/-- No gap. -/
def none : Gap := ⟨[], false, [], []⟩

/-- An escaped line break. -/
def escaped : Gap := ⟨[], true, [], []⟩

/-- What a gap adds to the scalar. -/
def text (g : Gap) : List Char :=
  if !g.broken then g.blanks
  else if g.first = ['\n'] then (if g.more.isEmpty then [' '] else g.more)
  else g.first ++ g.more

/-- Reads blanks and line breaks. In a plain scalar of indentation `indent` a tab must not stand
before it on a continued line. -/
def read (indent : Option Nat) : (fuel : Nat) → Gap → Cursor → Option (Gap × Cursor)
  | 0, g, c => some (g, c)
  | fuel + 1, g, c => match c.head? with
    | Option.none => some (g, c)
    | some ch =>
      if isBlank ch then
        if g.broken then
          if ch = '\t' && indent.any (c.column < ·) then Option.none
          else read indent fuel g (c.advance 1)
        else read indent fuel { g with blanks := g.blanks ++ [ch] } (c.advance 1)
      else if isBreak ch then
        let (text, c) := c.takeBreak
        if g.broken then read indent fuel { g with more := g.more ++ text } c
        else read indent fuel { g with broken := true, first := text } c
      else some (g, c)

end Gap

/-- A character that ends words inside brackets. -/
def isFlowIndicator (c : Char) : Bool := c = ',' || c = '[' || c = ']' || c = '\x7b' || c = '\x7d'

/-- Reads a word of a plain scalar: up to a blank, a break, or a colon before one of these; inside
brackets also up to an indicator, before which a colon must not stand. -/
def plainWord (flow : Bool) (done : List Char) : List Char → Option (List Char)
  | [] => some done.reverse
  | ch :: rest =>
    if isBlank ch || isBreak ch then some done.reverse
    else if flow && ch = ':' && rest.head?.any (fun next => isFlowIndicator next || next = '?') then
      none
    else if ch = ':' && rest.head?.all (fun next => isBlank next || isBreak next) then
      some done.reverse
    else if flow && isFlowIndicator ch then some done.reverse
    else plainWord flow (ch :: done) rest

/-- Reads a plain scalar; `done` holds its text so far in reverse and `gap` what was read after it.
Gives its text, whether a line break follows it, and the place. -/
def plainFrom (flow : Bool) (indent : Nat) :
    (fuel : Nat) → (gap : Gap) → (done : List Char) → Cursor → Option (List Char × Bool × Cursor)
  | 0, gap, done, c => some (done.reverse, gap.broken, c)
  | fuel + 1, gap, done, c =>
    if c.atMarker || c.sees '#' then some (done.reverse, gap.broken, c)
    else match plainWord flow [] c.rest with
      | none => none
      | some word =>
        let c := c.advance word.length
        let (done, gap) :=
          if word.isEmpty then (done, gap)
          else (word.reverse ++ (gap.text.reverse ++ done), Gap.none)
        if !(c.seesBlank || c.seesBreak) then some (done.reverse, gap.broken, c)
        else match Gap.read (some indent) c.rest.length gap c with
          | none => none
          | some (gap, c) =>
            if !flow && c.column < indent then some (done.reverse, gap.broken, c)
            else plainFrom flow indent fuel gap done c

/-- Reads a plain scalar inside brackets or at an indentation. -/
def readPlain (flow : Bool) (indent : Nat) (c : Cursor) : Option (List Char × Bool × Cursor) :=
  plainFrom flow indent (c.rest.length + 1) Gap.none [] c

/-- The character of an escape of one letter. -/
def shortEscape? : Char → Option Char
  | '0' => some (Char.ofNat 0)
  | 'a' => some (Char.ofNat 7)
  | 'b' => some (Char.ofNat 8)
  | 't' => some '\t'
  | '\t' => some '\t'
  | 'n' => some '\n'
  | 'v' => some (Char.ofNat 11)
  | 'f' => some (Char.ofNat 12)
  | 'r' => some '\r'
  | 'e' => some (Char.ofNat 27)
  | ' ' => some ' '
  | '"' => some '"'
  | '/' => some '/'
  | '\\' => some '\\'
  | 'N' => some (Char.ofNat 0x85)
  | '_' => some (Char.ofNat 0xa0)
  | 'L' => some (Char.ofNat 0x2028)
  | 'P' => some (Char.ofNat 0x2029)
  | _ => none

/-- The number of hexadecimal digits after an escape letter. -/
def escapeLength? : Char → Option Nat
  | 'x' => some 2
  | 'u' => some 4
  | 'U' => some 8
  | _ => none

/-- The number of hexadecimal digits. -/
def hexNumber? (digits : List Char) : Option Nat :=
  digits.foldl (fun n c => match n, hexValue? c with
    | some n, some d => some (16 * n + d)
    | _, _ => none) (some 0)

/-- The character of a code point, if it is one. -/
def charOf? (n : Nat) : Option Char :=
  if (0xd800 ≤ n && n ≤ 0xdfff) || 0x10ffff < n then none else some (Char.ofNat n)

/-- Reads a word of a quoted scalar: up to a blank, a break, the closing quote or an escaped line
break. Gives the text, and whether a line break was escaped. -/
def quotedWord (quote : Char) :
    (fuel : Nat) → (done : List Char) → Cursor → Option (List Char × Bool × Cursor)
  | 0, done, c => some (done.reverse, false, c)
  | fuel + 1, done, c => match c.rest with
    | [] => some (done.reverse, false, c)
    | ch :: rest =>
      if isBlank ch || isBreak ch then some (done.reverse, false, c)
      else if ch = quote then
        if quote = '\'' && rest.head? = some '\'' then
          quotedWord quote fuel ('\'' :: done) (c.advance 2)
        else some (done.reverse, false, c)
      else if quote = '"' && ch = '\\' then match rest with
        | [] => none
        | e :: rest =>
          if isBreak e then some (done.reverse, true, (c.advance 1).takeBreak.2)
          else match shortEscape? e with
            | some ch => quotedWord quote fuel (ch :: done) (c.advance 2)
            | none => match escapeLength? e with
              | none => none
              | some n =>
                let digits := rest.take n
                if digits.length < n then none
                else match (hexNumber? digits).bind charOf? with
                  | some ch => quotedWord quote fuel (ch :: done) (c.advance (n + 2))
                  | none => none
      else quotedWord quote fuel (ch :: done) (c.advance 1)

/-- Reads a quoted scalar after its opening quote; `done` holds its text so far in reverse. -/
def quotedFrom (quote : Char) :
    (fuel : Nat) → (done : List Char) → Cursor → Option (List Char × Cursor)
  | 0, _, _ => none
  | fuel + 1, done, c =>
    if c.atMarker || c.rest.isEmpty then none
    else match quotedWord quote c.rest.length [] c with
      | none => none
      | some (word, escaped, c) =>
        let done := word.reverse ++ done
        if c.sees quote then some (done.reverse, c.advance 1)
        else
          let gap := if escaped then Gap.escaped else Gap.none
          match Gap.read none c.rest.length gap c with
          | none => none
          | some (gap, c) => quotedFrom quote fuel (gap.text.reverse ++ done) c

/-- Reads a quoted scalar from its opening quote on. -/
def readQuoted (quote : Char) (c : Cursor) : Option (List Char × Cursor) :=
  quotedFrom quote (c.rest.length + 1) [] (c.advance 1)

/-- What a block scalar does with the line breaks at its end. -/
inductive Chomping where
  | strip
  | clip
  | keep
deriving DecidableEq, Repr

/-- Reads an optional indentation indicator, a digit other than zero. -/
def readIndicator (c : Cursor) : Option (Nat × Cursor) :=
  match c.head? with
  | some ch =>
    if isDigit ch then if ch = '0' then none else some (digitValue ch, c.advance 1)
    else some (0, c)
  | none => some (0, c)

/-- Reads an optional chomping indicator. -/
def readChomping (c : Cursor) : Option Chomping × Cursor :=
  if c.sees '+' then (some .keep, c.advance 1)
  else if c.sees '-' then (some .strip, c.advance 1)
  else (none, c)

/-- Reads the header of a block scalar after its indicator: chomping and indentation in either
order, and the rest of the line. An indentation of zero is to be found out. -/
def readHeader (c : Cursor) : Option (Chomping × Nat × Cursor) :=
  match readChomping c with
  | (some chomping, c) => match readIndicator c with
    | none => none
    | some (increment, c) => c.endLine?.map fun c => (chomping, increment, c)
  | (none, c) => match readIndicator c with
    | none => none
    | some (increment, c) =>
      let (chomping, c) := if increment = 0 then (none, c) else readChomping c
      c.endLine?.map fun c => (chomping.getD .clip, increment, c)

/-- Reads indentation and empty lines before a line of a block scalar; `indent` is zero as long as
it is not known. Gives the text of the breaks and the greatest column reached. -/
def blockBreaksFrom (indent : Nat) :
    (fuel : Nat) → (widest : Nat) → (breaks : List Char) → Cursor →
      Option (List Char × Nat × Cursor)
  | 0, widest, breaks, c => some (breaks, widest, c)
  | fuel + 1, widest, breaks, c =>
    let spaces := (c.rest.takeWhile (· = ' ')).length
    let c := c.advance (if indent = 0 then spaces else min spaces (indent - c.column))
    let widest := max widest c.column
    if (indent = 0 || c.column < indent) && c.sees '\t' then none
    else if c.seesBreak then
      let (text, c) := c.takeBreak
      blockBreaksFrom indent fuel widest (breaks ++ text) c
    else some (breaks, widest, c)

/-- Reads the lines of a block scalar. `lead` is the text of the break after the last line, `breaks`
that of the empty lines after it, and `blank` tells whether that line begins with a blank. -/
def blockLinesFrom (folded : Bool) (indent : Nat) :
    (fuel : Nat) → (blank : Bool) → (lead breaks done : List Char) → Cursor →
      Option (List Char × List Char × List Char × Cursor)
  | 0, _, lead, breaks, done, c => some (done, lead, breaks, c)
  | fuel + 1, blank, lead, breaks, done, c =>
    if c.column ≠ indent || c.rest.isEmpty then some (done, lead, breaks, c)
    else
      let indented := c.seesBlank
      let joint :=
        if folded && lead = ['\n'] && !blank && !indented then
          if breaks.isEmpty then [' '] else breaks
        else lead ++ breaks
      let (line, c) := c.takeWhile fun ch => !isBreak ch
      let (lead, c) := c.takeBreak
      match blockBreaksFrom indent (c.rest.length + 1) 0 [] c with
      | none => none
      | some (breaks, _, c) =>
        blockLinesFrom folded indent fuel indented lead breaks
          (line.reverse ++ (joint.reverse ++ done)) c

/-- Reads a block scalar from its indicator on, in a block of indentation `parent`. -/
def readBlock (folded : Bool) (parent : Int) (c : Cursor) : Option (List Char × Cursor) :=
  match readHeader (c.advance 1) with
  | none => none
  | some (chomping, increment, c) =>
    let given := if increment = 0 then 0 else ((max parent 0) + increment).toNat
    match blockBreaksFrom given (c.rest.length + 1) 0 [] c with
    | none => none
    | some (breaks, widest, c) =>
      let indent := if given = 0 then max widest (max (parent + 1) 1).toNat else given
      match blockLinesFrom folded indent (c.rest.length + 1) false [] breaks [] c with
      | none => none
      | some (done, lead, breaks, c) =>
        let tail := match chomping with
          | .strip => []
          | .clip => lead
          | .keep => lead ++ breaks
        some (done.reverse ++ tail, c)

end LayeredConfig.Yaml
