import Folio.Markdown.Entity
import Folio.Markdown.Span

/-!
Contract: addresses that are their own links.

Owns: what stands between angle brackets as an address: one with a scheme, or one of a mailbox. The characters of
a mailbox are written as references, so that it does not stand in the HTML as it is.
-/

namespace Folio.Markdown

open Folio.Number

def Span.isBracket (span : Span) : Bool :=
  span.isMark '<' || span.isMark '>'

/-- What stands between an opening bracket and the closing one behind it, and what follows. -/
def bracketedSpans? (spans : List Span) : Option (List Span × List Span) :=
  match spans.dropWhile (!·.isBracket) with
  | .mark '>' :: rest => some (spans.takeWhile (!·.isBracket), rest)
  | _ => none

/-- Replaces the parts in angle brackets of which something is made. -/
def replaceBracketed (make : List Span → Option Span) : Nat → List Span → List Span
  | 0, spans => spans
  | _, [] => []
  | limit + 1, span :: rest =>
      let made := do
        let (inside, after) ← if span.isMark '<' then bracketedSpans? rest else none
        return (← make inside, after)
      match made with
      | some (link, after) => link :: replaceBracketed make limit after
      | none => span :: replaceBracketed make limit rest

/-! ## Schemes -/

def isSchemeChar (char : Char) : Bool :=
  isLetterOrDigit char || char = '+' || char = '.' || char = '-'

/-- A scheme starts with a letter, and a colon and two slashes follow it. -/
def isUrl (inside : List Span) : Bool :=
  let isSchemeSpan (span : Span) : Bool := span.mark?.any isSchemeChar
  (inside.head?.bind Span.mark?).any isLetter &&
    ((inside.dropWhile isSchemeSpan).take 3).map Span.mark? == [some ':', some '/', some '/']

/-- The marks of an address are none any more. -/
def settleMark : Span → Span
  | .mark char => .plain char
  | span => span

def urlLink? (inside : List Span) : Option Span :=
  if isUrl inside then some (.link (contents inside) none (inside.map settleMark)) else none

/-! ## Mailboxes -/

/-- The characters of a part of an address. A character that is no mark shows as its number. -/
def Span.addressChars : Span → List Char
  | .plain char => '\x02' :: naturalDigits char.toNat ++ ['\x03']
  | span => span.content

def mailScheme : String := "mailto:"

/-- A name, an at sign and a place, of which neither is empty and neither holds a space. -/
def isMailbox (inside : List Span) : Bool :=
  let place := inside.reverse.takeWhile (!·.isMark '@')
  let name := inside.take (inside.length - place.length - 1)
  place.length < inside.length && !place.isEmpty && !name.isEmpty &&
    !inside.any (·.isMark ' ') && !name.any (·.isMark '!')

def mailLink? (inside : List Span) : Option Span :=
  if isMailbox inside then
    let chars := inside.flatMap Span.addressChars
    let scheme := mailScheme.toList
    let mailbox := if scheme.isPrefixOf chars then chars.drop scheme.length else chars
    let target := (scheme ++ mailbox).flatMap fun char => numberReference char.toNat
    some (.link target none [.raw (mailbox.flatMap characterReference)])
  else none

/-- Finds addresses with a scheme, then those of mailboxes. -/
def findAddresses (spans : List Span) : List Span :=
  replaceBracketed mailLink? spans.length (replaceBracketed urlLink? spans.length spans)

end Folio.Markdown
