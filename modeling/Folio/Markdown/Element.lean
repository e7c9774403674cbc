import Folio.Markdown.Block
import Folio.Markdown.Chunk
import Folio.Text.Digit
import Folio.Text.Hex

/-!
Contract: HTML elements that stand as blocks of their own.

Owns: tags as HTML has them, and setting aside the elements of a text whose first tag starts a line, or follows such
an element in its line. What is set aside is a span in a chunk of its own.
Does not own: tags inside a line.

A reference or an empty element behind an element in its line is not left where it stands: it goes to the next
element that is set aside, or to the end of the text. Behind a number sign that no number belongs to, what stands in
front is forgotten, but places are still counted from the start of the text; so end tags are read too far behind.
-/

namespace Folio.Markdown

open Folio.Text

/-! ## Tags -/

def isNameEnd (char : Char) : Bool :=
  char = '\t' || char = '\n' || char = '\r' || char = '\x0c' || char = ' ' || char = '/' || char = '>' ||
    char = '\x00'

/-- Blanks, and slashes that do not close a tag. -/
def skipGap : List Char → List Char
  | [] => []
  | char :: rest =>
      if isBlank char || (char = '/' && rest.head? ≠ some '>') then skipGap rest else char :: rest

/-- Commas behind the value of an attribute, with blanks in front of each. -/
def skipCommas : Nat → List Char → List Char
  | 0, chars => chars
  | limit + 1, chars =>
      match stripLeft chars with
      | ',' :: rest => skipCommas limit rest
      | _ => chars

/-- The value of an attribute from its equals sign on, and whether it ends in a quote. A quote that is never closed
begins no value, unless blanks stand before it. -/
def skipValue (chars : List Char) : List Char × Bool :=
  match stripLeft chars with
  | '=' :: rest =>
      let rest := rest.dropWhile (· = '=')
      match stripLeft rest with
      | [] => ([], false)
      | first :: value =>
          if first = '"' || first = '\'' then
            match value.dropWhile (· ≠ first) with
            | _ :: after => (after, true)
            | [] => if rest.head?.any isBlank then (rest, false) else (chars, false)
          else
            ((first :: value).dropWhile fun char => !(char = backtick || char = '>' || isBlank char), false)
  | _ => (chars, false)

/-- The attributes of a tag, of which one may start here or not. -/
def skipAttributes : Nat → Bool → List Char → List Char
  | 0, _, chars => chars
  | _, _, [] => []
  | limit + 1, mayStart, first :: rest =>
      if mayStart && !(first = backtick || first = '/' || first = '>' || isBlank first) then
        let behindName :=
          rest.dropWhile fun char => !(char = '/' || char = '=' || char = '>' || isBlank char)
        let (behindValue, endsInQuote) := skipValue behindName
        let behindValue := skipCommas behindValue.length behindValue
        let next := skipGap behindValue
        skipAttributes limit (endsInQuote || next.length < behindValue.length) next
      else first :: rest

/-- What stands at an angle bracket: a start tag or an end tag with its characters and its name, a comment, or
nothing but characters. A tag may close its own element. -/
inductive Tag where
  | start (chars : List Char) (name : List Char) (isClosed : Bool)
  | close (chars : List Char) (name : List Char)
  | comment (chars : List Char)
  | none (chars : List Char)
deriving DecidableEq, Repr

/-- The characters of what stands there. -/
def Tag.chars : Tag → List Char
  | .start chars _ _ => chars
  | .close chars _ => chars
  | .comment chars => chars
  | .none chars => chars

/-- The characters of a text before its last ones. -/
def before (chars rest : List Char) : List Char :=
  chars.take (chars.length - rest.length)

def lowerName (name : List Char) : List Char :=
  name.map Char.toLower

def startTag (chars : List Char) : Tag :=
  let name := chars.tail.takeWhile fun char => !(isNameEnd char || char = backtick)
  let behindName := chars.drop (name.length + 1)
  let inside := skipGap behindName
  match skipAttributes inside.length (inside.length < behindName.length) inside with
  | '>' :: rest => .start (before chars rest) (lowerName name) false
  | '/' :: '>' :: rest => .start (before chars rest) (lowerName name) true
  | rest =>
      if rest.head?.all fun char => isLetter char || char = '=' || char = '/' then .none ['<']
      else .none (before chars rest)

/-- An end tag reaches to the next closing bracket. Its name may stand behind blanks if nothing follows it. -/
def endTag (chars : List Char) : Tag :=
  match chars.dropWhile (· ≠ '>') with
  | [] => .none ['<']
  | _ :: rest =>
      let tag := before chars rest
      let inside := (tag.drop 2).dropLast
      let name := (strip inside).takeWhile fun char => !isBlank char
      let isWhole := name.length = (strip inside).length && name.all fun char =>
        isLetterOrDigit char || char = '-' || char = '.' || char = ':' || char = '_'
      let name := if isWhole then name else inside.takeWhile fun char => !isNameEnd char
      if name.head?.any isLetter then .close tag (lowerName name) else .none tag

/-- What follows the first end of a comment. An end with a blank in it ends none. -/
def behindCommentEnd? : List Char → Option (List Char)
  | [] => none
  | '-' :: '-' :: '>' :: rest => some rest
  | '-' :: '-' :: next :: rest =>
      if isBlank next && (stripLeft rest).head? = some '>' then none else behindCommentEnd? ('-' :: next :: rest)
  | _ :: rest => behindCommentEnd? rest

/-- The tag at an opening bracket. -/
def tagOf (chars : List Char) : Tag :=
  match chars with
  | '<' :: '/' :: _ => endTag chars
  | '<' :: '!' :: '-' :: '-' :: inside =>
      match behindCommentEnd? inside with
      | some rest => .comment (before chars rest)
      | none => .none ['<']
  | '<' :: first :: _ => if isLetter first then startTag chars else .none ['<']
  | _ => .none (chars.take 1)

/-! ## References -/

/-- What stands at an ampersand: a reference with its characters, and what follows it; or nothing, where a number
sign follows that no number belongs to. -/
def referenceOf (chars : List Char) : Option (List Char × List Char) :=
  let numbered (front digits : List Char) (isDigit : Char → Bool) : Option (List Char × List Char) :=
    let number := digits.takeWhile isDigit
    let rest := digits.dropWhile isDigit
    if number.isEmpty || rest.head?.all fun char => (hexValue? char).isSome then none
    else
      some (front ++ number ++ [';'], if rest.head? = some ';' then rest.tail else rest)
  match chars with
  | '&' :: '#' :: mark :: rest =>
      if mark = 'x' || mark = 'X' then numbered ['&', '#', mark] rest fun char => (hexValue? char).isSome
      else numbered ['&', '#'] (mark :: rest) isAsciiDigit
  | '&' :: '#' :: _ => none
  | '&' :: rest =>
      let inName (char : Char) : Bool := isLetterOrDigit char || char = '-' || char = '.'
      let name := rest.takeWhile inName
      match name.head?.any isLetter, rest.dropWhile inName with
      | true, ';' :: after => some ('&' :: name ++ [';'], after)
      | _, _ => some (['&'], rest)
  | chars => some (chars.take 1, chars.drop 1)

/-! ## Setting elements aside -/

/-- The state of a sweep over a text: the spans, newest first; the line breaks at the end of the last part that was
added, and whether that part is still growing; the names of the elements that are open, innermost first; what is
kept for the next element, last first; whether an element ended in this line; the text in which places are looked up,
and whether a part of it has been forgotten; where the lines start that have been looked up, the last one first; and
this place, as the number of lines in front and of characters in the line. -/
structure Sweep where
  spans : List Span
  lineBreaks : Nat
  isGrowing : Bool
  names : List (List Char)
  kept : List Char
  isBehind : Bool
  text : List Char
  isForgetful : Bool
  lineStarts : List Nat
  line : Nat
  column : Nat
deriving Repr

namespace Sweep

def start (text : List Char) : Sweep :=
  ⟨[], 0, true, [], [], false, text, false, [0], 0, 0⟩

def isInside (sweep : Sweep) : Bool :=
  !sweep.names.isEmpty

def keep (sweep : Sweep) (chars : List Char) : Sweep :=
  { sweep with kept := chars.reverse ++ sweep.kept }

/-! ### Places -/

/-- Moves on behind a character. -/
def step (sweep : Sweep) (char : Char) : Sweep :=
  if char = '\n' then { sweep with line := sweep.line + 1, column := 0 }
  else { sweep with column := sweep.column + 1 }

def advance (sweep : Sweep) (chars : List Char) : Sweep :=
  chars.foldl step sweep

/-- Where the line behind the last known one starts. -/
def nextLineStart (sweep : Sweep) : Nat :=
  let last := sweep.lineStarts.headD 0
  last + ((sweep.text.drop last).takeWhile (· ≠ '\n')).length + 1

def lookUpLines : Nat → Sweep → Sweep
  | 0, sweep => sweep
  | count + 1, sweep => lookUpLines count { sweep with lineStarts := sweep.nextLineStart :: sweep.lineStarts }

/-- Looks up where this line starts. -/
def lookUp (sweep : Sweep) : Sweep :=
  lookUpLines (sweep.line + 1 - sweep.lineStarts.length) sweep

/-- The text from the start of the line on, which has been looked up. -/
def lineText (sweep : Sweep) : List Char :=
  sweep.text.drop (sweep.lineStarts.headD 0)

/-- Whether there are only a few blanks in front of this place in its line. -/
def startsLine (sweep : Sweep) : Bool × Sweep :=
  if sweep.column = 0 then (true, sweep)
  else if indentWidth ≤ sweep.column then (false, sweep)
  else
    let sweep := sweep.lookUp
    ((sweep.lineText.take sweep.column).all isBlank, sweep)

/-- Forgets the text in front of its rest. -/
def forget (sweep : Sweep) (rest : List Char) : Sweep :=
  { sweep with text := rest, isForgetful := true }

/-- Two line breaks with nothing but spaces before each. -/
def startsEmptyLine (chars : List Char) : Bool :=
  match chars.dropWhile (· = ' ') with
  | '\n' :: rest => (rest.dropWhile (· = ' ')).head? = some '\n'
  | _ => false

/-- Whether an empty line follows so many characters from this place on, in a line that has been looked up. -/
def endsLine (sweep : Sweep) (length : Nat) : Bool :=
  startsEmptyLine (sweep.lineText.drop (sweep.column + length))

/-! ### Parts -/

/-- Adds a character as it is. -/
def addChar (sweep : Sweep) (char : Char) : Sweep :=
  let lineBreaks := if char ≠ '\n' then 0 else if sweep.isGrowing then sweep.lineBreaks + 1 else 1
  { sweep with spans := .mark char :: sweep.spans, lineBreaks := lineBreaks, isGrowing := true }

def addChars (sweep : Sweep) (chars : List Char) : Sweep :=
  chars.foldl addChar sweep

/-- A new part of the text begins. -/
def endPart (sweep : Sweep) : Sweep :=
  { sweep with isGrowing := false }

/-- Adds a part of the text that is nothing else. -/
def addPart (sweep : Sweep) (chars : List Char) : Sweep :=
  (sweep.endPart.addChars chars).endPart

/-- Adds an element that is set aside, in a chunk of its own. -/
def addElement (sweep : Sweep) (html : List Char) : Sweep :=
  { sweep with
    spans := .mark '\n' :: .mark '\n' :: .raw html :: sweep.spans
    lineBreaks := 2
    isGrowing := false }

/-- Reads a character that is part of no tag. -/
def readChar (sweep : Sweep) (char : Char) : Sweep :=
  let sweep := { sweep.step char with isBehind := sweep.isBehind && char ≠ '\n' }
  if sweep.isInside then sweep.keep [char] else sweep.addChar char

/-- Reads a part that is no tag. -/
def readPart (sweep : Sweep) (chars : List Char) : Sweep :=
  (chars.foldl readChar sweep.endPart).endPart

/-! ### Tags in a text -/

/-- Reads a reference, a comment, or a tag that closes its own element. -/
def readEmpty (sweep : Sweep) (chars : List Char) (isBlock : Bool) : Sweep :=
  if sweep.isInside || sweep.isBehind then sweep.keep chars
  else
    let (startsLine, sweep) := sweep.startsLine
    if isBlock && startsLine then
      let sweep := sweep.lookUp
      let endsLine := sweep.endsLine chars.length
      let sweep := if sweep.lineBreaks = 1 then sweep.addChar '\n' else sweep
      { sweep.addElement (if endsLine then chars ++ ['\n'] else chars) with isBehind := !endsLine }
    else sweep.addPart chars

/-- An element that is a block begins where a line starts, and behind another one. -/
def readStart (sweep : Sweep) (chars name : List Char) : Sweep :=
  let (begins, sweep) :=
    if !isBlockName name then (false, sweep)
    else if sweep.isBehind then (true, sweep)
    else sweep.startsLine
  let sweep := if begins then sweep.endPart.addChar '\n' else sweep
  if begins || sweep.isInside then { sweep with names := name :: sweep.names }.keep chars
  else sweep.addPart chars

/-- The end tag at this place, in a line that has been looked up. Where the text has no closing bracket behind it, it
is written anew. -/
def endTagText (sweep : Sweep) (name : List Char) : List Char :=
  let text := sweep.lineText.drop sweep.column
  match text.dropWhile (· ≠ '>') with
  | [] => '<' :: '/' :: name ++ ['>']
  | _ => text.takeWhile (· ≠ '>') ++ ['>']

def readEnd (sweep : Sweep) (name : List Char) : Sweep :=
  let sweep := sweep.lookUp
  let chars := sweep.endTagText name
  if sweep.isInside then
    let sweep := sweep.keep chars
    let names :=
      if sweep.names.contains name then (sweep.names.dropWhile (· ≠ name)).tail else sweep.names
    if names.isEmpty then
      let endsLine := sweep.endsLine chars.length
      let html := sweep.kept.reverse ++ (if endsLine then ['\n'] else [])
      { sweep.addElement html with names := [], kept := [], isBehind := sweep.isBehind || !endsLine }
    else { sweep with names := names }
  else sweep.addPart chars

/-- Reads what stands at an angle bracket. -/
def readTag (sweep : Sweep) (tag : Tag) : Sweep :=
  match tag with
  | .start chars name isClosed =>
      let read :=
        if isClosed || name = ['h', 'r'] then sweep.readEmpty chars (isBlockName name)
        else sweep.readStart chars name
      read.advance chars
  | .close chars name => (sweep.readEnd name).advance chars
  | .comment chars => (sweep.readEmpty chars true).advance chars
  | .none chars => sweep.readPart chars

/-- Reads the rest of a text. Behind a second number sign that no number belongs to there are no tags, nor behind the
first one if no semicolon follows. -/
def run : Nat → List Char → Sweep → Sweep
  | 0, _, sweep => sweep
  | _, [], sweep => sweep
  | limit + 1, char :: rest, sweep =>
      if char = '<' then
        let tag := tagOf (char :: rest)
        run limit ((char :: rest).drop tag.chars.length) (sweep.readTag tag)
      else if char = '&' then
        match referenceOf (char :: rest) with
        | some (['&'], after) => run limit after (sweep.readPart ['&'])
        | some (chars, after) =>
            run limit after ((sweep.readEmpty chars false).advance (before (char :: rest) after))
        | none =>
            if sweep.isForgetful || !rest.contains ';' then sweep.readPart (char :: rest)
            else run limit rest.tail ((sweep.readPart ['&', '#']).forget rest.tail)
      else run limit rest (sweep.readChar char)

/-- What is kept at the end of a text comes behind all else. -/
def finish (sweep : Sweep) : List Span :=
  (if sweep.kept.isEmpty then sweep.spans else .raw sweep.kept.reverse :: sweep.spans).reverse

end Sweep

/-- A text with its elements set aside. -/
def setAside (chars : List Char) : List Span :=
  (Sweep.run (chars.length + 1) chars (.start chars)).finish

end Folio.Markdown
