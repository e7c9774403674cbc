import Folio.Text.Quoted
import Folio.Yaml.Quotation

/-!
Contract: a YAML text as a row of tokens.

Owns:
- the tokens, among them the ones that no character stands for: the start and end of block collections,
  which indentation tells, and the mark before a key;
- candidates for keys: a token may turn out to be a key when a colon follows it on its line;
- the rules on where an entry, a key or a value may start.

Does not own: the nesting of tokens, and the values of scalars.

A text that is malformed has no tokens. Where an escape denotes no character the row ends early, in that
fault, since what stands before it may still turn out to be malformed. Directives are not known, so a line that
starts with a per cent sign is refused.
-/

namespace Folio.Yaml

open Folio.Text

inductive Token where
  | documentStart
  | documentEnd
  | sequenceStart
  | mappingStart
  | blockEnd
  | bracketOpen
  | bracketClose
  | braceOpen
  | braceClose
  | dash
  | comma
  | key
  | value
  | alias (name : String)
  | anchor (name : String)
  | tag (name : String)
  | scalar (text : String) (isPlain : Bool)
  | fault (cause : LoadError)
deriving DecidableEq, Repr

/-- A token that becomes a key if a colon follows. One that starts at the indentation of its block has to
become one. -/
structure Candidate where
  level : Nat
  token : Nat
  isRequired : Bool
  index : Nat
  line : Nat
  column : Nat
deriving Repr

/-- What has been read: the tokens, newest first; the brackets that are open; the columns of the open
blocks, innermost first; whether a key may start here; and the candidates, one for each level of brackets
at most. -/
structure Scan where
  place : Place
  tokens : List Token
  brackets : List Char
  columns : List Nat
  allowsKey : Bool
  candidates : List Candidate
deriving Repr

/-- A key and its colon stand at most so many characters apart. -/
def keyReach : Nat := 1024

/-- Puts a token before the one with the given number, in a row that is newest first. -/
def insertToken (tokens : List Token) (number : Nat) (token : Token) : List Token :=
  let newer := tokens.length - number
  tokens.take newer ++ token :: tokens.drop newer

namespace Scan

def start (chars : List Char) : Scan :=
  ⟨.start chars, [], [], [], true, []⟩

def level (scan : Scan) : Nat :=
  scan.brackets.length

def inBlock (scan : Scan) : Bool :=
  scan.brackets.isEmpty

/-- The column of the innermost block; outside all blocks it is left of the first column. -/
def indent (scan : Scan) : Int :=
  match scan.columns with
  | [] => -1
  | column :: _ => column

def emit (scan : Scan) (token : Token) (place : Place) : Scan :=
  { scan with tokens := token :: scan.tokens, place := place }

def allow (scan : Scan) (allowsKey : Bool) : Scan :=
  { scan with allowsKey := allowsKey }

/-! ## Blocks -/

/-- Opens a block at a column that lies deeper than the innermost one. -/
def openBlock (scan : Scan) (column number : Nat) (token : Token) : Scan :=
  if scan.inBlock && scan.indent < column then
    { scan with
      columns := column :: scan.columns
      tokens := insertToken scan.tokens number token }
  else scan

def closeColumns (column : Int) : List Nat → List Token → List Nat × List Token
  | [], tokens => ([], tokens)
  | inner :: outer, tokens =>
      if column < inner then closeColumns column outer (.blockEnd :: tokens) else (inner :: outer, tokens)

/-- Ends the blocks that lie deeper than a column. -/
def closeBlocks (scan : Scan) (column : Int) : Scan :=
  if scan.inBlock then
    let (columns, tokens) := closeColumns column scan.columns scan.tokens
    { scan with columns := columns, tokens := tokens }
  else scan

/-! ## Candidates -/

/-- Gives up the candidate of the current level, unless it is required. -/
def dropCandidate (scan : Scan) : Except LoadError Scan :=
  if scan.candidates.any fun candidate => candidate.level = scan.level && candidate.isRequired then malformed
  else .ok { scan with
    candidates := scan.candidates.filter fun candidate => candidate.level ≠ scan.level }

/-- Makes the next token a candidate where a key may start. -/
def offerCandidate (scan : Scan) : Except LoadError Scan :=
  if scan.allowsKey then do
    let isRequired := scan.inBlock && scan.indent == scan.place.column
    let candidate : Candidate :=
      ⟨scan.level, scan.tokens.length, isRequired, scan.place.index, scan.place.line,
        scan.place.column⟩
    let scan ← scan.dropCandidate
    return { scan with candidates := candidate :: scan.candidates }
  else .ok scan

def isStale (scan : Scan) (candidate : Candidate) : Bool :=
  candidate.line ≠ scan.place.line || candidate.index + keyReach < scan.place.index

/-- Gives up the candidates that no colon can reach any more. -/
def dropStale (scan : Scan) : Except LoadError Scan :=
  if scan.candidates.any fun candidate => scan.isStale candidate && candidate.isRequired then malformed
  else .ok { scan with
    candidates := scan.candidates.filter fun candidate => !scan.isStale candidate }

/-- The number of tokens in front of the first candidate. Whether later ones belong to a key is open, so nothing
reads them yet. -/
def settled (scan : Scan) : Nat :=
  scan.candidates.foldl (fun count candidate => min count candidate.token) scan.tokens.length

/-! ## Between tokens -/

/-- Skips blanks, comments and line breaks. Behind a line break of a block a key may start. -/
def toNext : Nat → Scan → Scan
  | 0, scan => scan
  | limit + 1, scan =>
      let (_, place) := scan.place.span fun char => char = ' ' || (!scan.inBlock && char = '\t')
      let place := if place.front = '#' then (place.span fun char => !endsLine char).2 else place
      if isBreak place.front then
        toNext limit
          { scan with place := place.takeBreak.2, allowsKey := scan.inBlock || scan.allowsKey }
      else { scan with place := place }

/-! ## Tokens -/

def takeMarker (scan : Scan) (token : Token) : Except LoadError Scan := do
  let scan ← (scan.closeBlocks (-1)).dropCandidate
  return (scan.allow false).emit token (scan.place.skip 3)

def takeOpening (scan : Scan) (bracket : Char) (token : Token) : Except LoadError Scan := do
  let scan ← scan.offerCandidate
  return ({ scan with brackets := bracket :: scan.brackets }.allow true).emit token scan.place.step

def takeClosing (scan : Scan) (token : Token) : Except LoadError Scan := do
  let scan ← scan.dropCandidate
  match scan.brackets with
  | [] => malformed
  | _ :: outer => return ({ scan with brackets := outer }.allow false).emit token scan.place.step

def takeComma (scan : Scan) : Except LoadError Scan := do
  let scan ← scan.dropCandidate
  return (scan.allow true).emit .comma scan.place.step

def takeDash (scan : Scan) : Except LoadError Scan := do
  if scan.inBlock && !scan.allowsKey then malformed
  else
    let scan ← (scan.openBlock scan.place.column scan.tokens.length .sequenceStart).dropCandidate
    return (scan.allow true).emit .dash scan.place.step

/-- A question mark announces a key. -/
def takeQuestion (scan : Scan) : Except LoadError Scan := do
  if scan.inBlock && !scan.allowsKey then malformed
  else
    let scan ← (scan.openBlock scan.place.column scan.tokens.length .mappingStart).dropCandidate
    return (scan.allow scan.inBlock).emit .key scan.place.step

/-- A colon makes a key of the candidate of its level; without one it starts a value of its own. -/
def takeColon (scan : Scan) : Except LoadError Scan := do
  match scan.candidates.find? fun candidate => candidate.level = scan.level with
  | some candidate =>
      let others := scan.candidates.filter fun candidate => candidate.level ≠ scan.level
      let scan := { scan with
        candidates := others
        tokens := insertToken scan.tokens candidate.token .key }
      let scan := scan.openBlock candidate.column candidate.token .mappingStart
      return (scan.allow false).emit .value scan.place.step
  | none =>
      if scan.inBlock && !scan.allowsKey then malformed
      else
        let scan ← (scan.openBlock scan.place.column scan.tokens.length .mappingStart).dropCandidate
        return (scan.allow scan.inBlock).emit .value scan.place.step

/-- A name goes on to a blank or a bracket; of the characters that break a line, two are letters to it. -/
def continuesAnchor (char : Char) : Bool :=
  char = '\u2028' || char = '\u2029' ||
    !(endsWord char || char = ',' || char = '[' || char = ']' || char = '{' || char = '}' || char = '\uFEFF')

/-- The name behind an ampersand or an asterisk. -/
def takeAnchor (scan : Scan) (token : String → Token) : Except LoadError Scan := do
  let scan ← scan.offerCandidate
  let (name, place) := scan.place.step.span continuesAnchor
  if name.isEmpty || place.front = '\uFEFF' then malformed
  else return (scan.allow false).emit (token (String.ofList name)) place

def takeTag (scan : Scan) : Except LoadError Scan := do
  let scan ← scan.offerCandidate
  let (name, place) := scan.place.step.span fun char => !endsWord char
  return (scan.allow false).emit (.tag (String.ofList name)) place

def takeBlockScalar (scan : Scan) (folded : Bool) : Except LoadError Scan := do
  let scan ← scan.dropCandidate
  match blockScalar folded scan.indent scan.place.step with
  | some (text, place) => return (scan.allow true).emit (.scalar (String.ofList text) false) place
  | none => malformed

def takeQuotedScalar (scan : Scan) (quote : Char) : Except LoadError Scan := do
  let scan ← scan.offerCandidate
  match quotedScalar quote (scan.place.chars.length + 1) scan.place.step with
  | .ok (text, place) => return (scan.allow false).emit (.scalar (String.ofList text) false) place
  | .error .malformed => malformed
  | .error cause => return scan.emit (.fault cause) scan.place

def takePlainScalar (scan : Scan) : Except LoadError Scan := do
  let scan ← scan.offerCandidate
  let (text, place, endsAtLineStart) :=
    plainScalar (!scan.inBlock) (scan.indent + 1) (scan.place.chars.length + 1) scan.place [] false
  return (scan.allow endsAtLineStart).emit (.scalar (String.ofList text) true) place

/-! ## What stands at a place -/

def wordEndsAt (scan : Scan) (count : Nat) : Bool :=
  endsWord (scan.place.ahead count)

/-- A colon that starts a value. In brackets of a sequence, or just behind another such colon, a word has
to end behind it. -/
def startsValue (scan : Scan) (followsPendingValue : Bool) : Bool :=
  match scan.brackets with
  | [] => scan.wordEndsAt 1
  | bracket :: _ => if bracket = '[' || followsPendingValue then scan.wordEndsAt 1 else true

def plainRefused : List Char :=
  [' ', '\t', '\r', '\n', '\u0085', '\u2028', '\u2029', '-', '?', ':', ',', '[', ']', '{', '}', '#', '&',
    '*', '!', '|', '>', '\'', '"', '%', '@', '\u0060']

/-- A plain scalar may start here. -/
def startsPlain (scan : Scan) : Bool :=
  let char := scan.place.front
  let next := scan.place.ahead 1
  if !plainRefused.contains char then true
  else if char = '-' then !endsWord next
  else if char = ':' && !scan.inBlock then next ≠ ' ' && next ≠ '\t'
  else (char = '?' || char = ':') && scan.inBlock && !endsWord next

/-- The token at the current place, which is not the end of the text. -/
def takeToken (scan : Scan) (followsPendingValue : Bool) : Except LoadError Scan :=
  let char := scan.place.front
  let atLineStart := scan.place.column = 0
  if atLineStart && char = '%' then malformed
  else if atLineStart && scan.place.atMarker '-' then scan.takeMarker .documentStart
  else if atLineStart && scan.place.atMarker '.' then scan.takeMarker .documentEnd
  else if char = '[' then scan.takeOpening char .bracketOpen
  else if char = '{' then scan.takeOpening char .braceOpen
  else if char = ']' then scan.takeClosing .bracketClose
  else if char = '}' then scan.takeClosing .braceClose
  else if char = ',' then scan.takeComma
  else if char = '-' && scan.wordEndsAt 1 then scan.takeDash
  else if char = '?' && (!scan.inBlock || scan.wordEndsAt 1) then scan.takeQuestion
  else if char = ':' && scan.startsValue followsPendingValue then scan.takeColon
  else if char = '*' then scan.takeAnchor .alias
  else if char = '&' then scan.takeAnchor .anchor
  else if char = '!' then scan.takeTag
  else if (char = '|' || char = '>') && scan.inBlock then scan.takeBlockScalar (char = '>')
  else if isQuote char then scan.takeQuotedScalar char
  else if scan.startsPlain then scan.takePlainScalar
  else malformed

/-- The tokens to the end of the text, in order. A fault ends them, behind those that were settled before it.
Every step reads a character, so the number of characters is a limit that suffices. -/
def finish : Nat → Scan → Except LoadError (List Token)
  | 0, _ => malformed
  | limit + 1, scan => do
      let followsPendingValue := scan.tokens.head? == some .value && !scan.candidates.isEmpty
      let settled := scan.settled
      let scan ← (toNext (scan.place.chars.length + 1) scan).dropStale
      if scan.place.chars.isEmpty then
        let scan ← (scan.closeBlocks (-1)).dropCandidate
        return scan.tokens.reverse
      else
        let scan ← (scan.closeBlocks scan.place.column).takeToken followsPendingValue
        match scan.tokens with
        | .fault cause :: tokens => return tokens.reverse.take settled ++ [.fault cause]
        | _ => finish limit scan

end Scan

/-- A byte order mark in front is not part of the text. -/
def dropByteOrderMark : List Char → List Char
  | '\uFEFF' :: rest => rest
  | chars => chars

/-- The tokens of a text of printable characters. -/
def tokens (text : String) : Except LoadError (List Token) :=
  if text.toList.all fun char => printables.has char then
    let chars := dropByteOrderMark text.toList
    (Scan.start chars).finish (chars.length + 1)
  else malformed

end Folio.Yaml
