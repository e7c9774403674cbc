import Folio.Markdown.Html
import Folio.Number.Numeral
import Folio.Text.Blank

/-!
Contract: the parts of a Markdown text.

Owns: characters that may be marks, characters that may not, HTML that has been set aside, and the elements that
marks make; what such a part shows as a text, as the value of an attribute and as HTML.
Does not own: how the elements are found.
-/

namespace Folio.Markdown

open Folio.Text Folio.Number

/-- A character that may still be a mark, one that is not a mark any more, HTML that is left as it is, or an
element. -/
inductive Span where
  | mark (char : Char)
  | plain (char : Char)
  | raw (html : List Char)
  | code (inside : List Span)
  | link (target : List Char) (title : Option (List Char)) (inside : List Span)
  | image (source : List Char) (title : Option (List Char)) (instead : List Char)
  | lineBreak
  | emphasis (inside : List Span)
  | strong (inside : List Span)
deriving Repr, Inhabited

def backtick : Char := '\u0060'

def marks (chars : List Char) : List Span :=
  chars.map .mark

namespace Span

def isMark (span : Span) (char : Char) : Bool :=
  match span with
  | .mark own => own = char
  | _ => false

def isQuote (span : Span) : Bool :=
  span.isMark '"' || span.isMark '\''

/-- The character of a span that may be a mark. -/
def mark? : Span → Option Char
  | .mark char => some char
  | _ => none

/-- The character of a span that is one. -/
def char? : Span → Option Char
  | .mark char => some char
  | .plain char => some char
  | _ => none

def isBlank (span : Span) : Bool :=
  span.char?.any Text.isBlank

/-- An element, as opposed to a part of a text. -/
def isElement : Span → Bool
  | .mark _ | .plain _ | .raw _ => false
  | _ => true

end Span

/-- The spans without the blanks in front. -/
def trimLeft (spans : List Span) : List Span :=
  spans.dropWhile Span.isBlank

/-- The spans without the blanks at the end. -/
def trimRight (spans : List Span) : List Span :=
  (spans.reverse.dropWhile Span.isBlank).reverse

def trim (spans : List Span) : List Span :=
  trimRight (trimLeft spans)

def isBlankRow (spans : List Span) : Bool :=
  spans.all Span.isBlank

/-- The number of equal marks in front. -/
def countMarks (char : Char) (spans : List Span) : Nat :=
  (spans.takeWhile (·.isMark char)).length

/-- The spans in front of the first element. -/
def chunkInFront (spans : List Span) : List Span :=
  spans.takeWhile fun span => !span.isElement

def behindChunk (spans : List Span) : List Span :=
  spans.dropWhile fun span => !span.isElement

/-- A character in code: one that HTML would take for more is written out, and no reference is one. -/
def Span.inCode (span : Span) : Span :=
  match span with
  | .mark char => if needsEscape char then .raw (escapeCode char) else .mark char
  | span => span

/-- A character that is no mark as its number between the two reserved characters. -/
def Span.numbered (span : Span) : Span :=
  match span with
  | .plain char => .raw ('\x02' :: naturalDigits char.toNat ++ ['\x03'])
  | span => span

/-! ## As texts -/

mutual

/-- What a span shows where an attribute takes it up. -/
def Span.content : Span → List Char
  | .mark char => [char]
  | .plain char => [char]
  | .raw html => html
  | .code inside => contents inside
  | .link _ _ inside => contents inside
  | .image _ _ _ => []
  | .lineBreak => []
  | .emphasis inside => contents inside
  | .strong inside => contents inside

def contents : List Span → List Char
  | [] => []
  | span :: spans => span.content ++ contents spans

end

/-! ## As HTML -/

/-- The HTML of characters. Behind a line break, blanks alone are dropped. -/
def charsHtml (behindBreak : Bool) (chars : List Char) : List Char :=
  if behindBreak && chars.all isBlank then [] else escapeText chars

def titleHtml (title : Option (List Char)) : List Char :=
  match title with
  | some title => attributeHtml "title" title
  | none => []

mutual

/-- The HTML of an element. -/
def Span.html : Span → List Char
  | .mark char => escapeText [char]
  | .plain char => escapeText [char]
  | .raw html => html
  | .code inside => element "code" (spansHtml false [] inside)
  | .link target title inside =>
      "<a".toList ++ attributeHtml "href" target ++ titleHtml title ++ '>' :: spansHtml false [] inside ++
        "</a>".toList
  | .image source title instead =>
      "<img".toList ++ attributeHtml "alt" instead ++ attributeHtml "src" source ++ titleHtml title ++
        " />".toList
  | .lineBreak => "<br />\n".toList
  | .emphasis inside => element "em" (spansHtml false [] inside)
  | .strong inside => element "strong" (spansHtml false [] inside)

/-- The HTML of spans behind characters, which are given last first and are escaped together. -/
def spansHtml : Bool → List Char → List Span → List Char
  | behindBreak, before, [] => charsHtml behindBreak before.reverse
  | behindBreak, before, .mark char :: spans => spansHtml behindBreak (char :: before) spans
  | behindBreak, before, .plain char :: spans => spansHtml behindBreak (char :: before) spans
  | _, before, .raw html :: spans => escapeText before.reverse ++ html ++ spansHtml false [] spans
  | behindBreak, before, .lineBreak :: spans =>
      charsHtml behindBreak before.reverse ++ Span.lineBreak.html ++ spansHtml true [] spans
  | behindBreak, before, span :: spans =>
      charsHtml behindBreak before.reverse ++ span.html ++ spansHtml false [] spans

end

end Folio.Markdown
