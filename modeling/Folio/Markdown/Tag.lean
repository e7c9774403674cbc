import Folio.Markdown.Address

/-!
Contract: line breaks and HTML tags inside a text.

Owns: the two spaces that break a line, and what stands between angle brackets as a tag or a comment. A tag keeps
what marks have made inside it as HTML, and a backslash in front of what has been set aside or escaped there.
-/

namespace Folio.Markdown

/-! ## Breaks -/

def findBreaks : List Span → List Span
  | .mark ' ' :: .mark ' ' :: .mark '\n' :: spans => .lineBreak :: findBreaks spans
  | span :: spans => span :: findBreaks spans
  | [] => []

/-! ## Tags -/

/-- A part of the name of a tag or an attribute. -/
def Span.isNamePart (span : Span) : Bool :=
  !(span.isBlank || span.isQuote || span.isBracket || span.isMark '/' || span.isMark '=')

/-- A part of a value without quotes. -/
def Span.isValuePart (span : Span) : Bool :=
  !(span.isBlank || span.isQuote || span.isBracket || span.isMark '=' || span.isMark backtick)

/-- What follows the value of an attribute, which starts with an equals sign; an attribute may have none. -/
def behindValue? (spans : List Span) : Option (List Span) :=
  match trimLeft spans with
  | .mark '=' :: rest =>
      match trimLeft rest with
      | .mark first :: value =>
          if first = '"' || first = '\'' then
            match value.dropWhile (!·.isMark first) with
            | _ :: after => some after
            | [] => none
          else
            let after := (.mark first :: value).dropWhile Span.isValuePart
            if (Span.mark first).isValuePart then some after else none
      | value => if value.isEmpty then none else some (value.dropWhile Span.isValuePart)
  | _ => some spans

/-- What follows a tag behind its name: attributes with blanks in front of each, then the closing bracket, with a
slash before it or none. -/
def behindTag? : Nat → List Span → Option (List Span)
  | 0, _ => none
  | limit + 1, spans =>
      let inside := trimLeft spans
      match inside with
      | .mark '>' :: rest => some rest
      | .mark '/' :: .mark '>' :: rest => some rest
      | _ =>
          if inside.length < spans.length && inside.head?.any Span.isNamePart then
            (behindValue? (inside.dropWhile Span.isNamePart)).bind (behindTag? limit)
          else none

/-- What follows a tag whose opening bracket stands in front. Its name starts with a letter, behind a slash where it
is an end tag, and has no at sign. -/
def behindName? (spans : List Span) : Option (List Span) :=
  let name := match spans with
    | .mark '/' :: rest => rest
    | spans => spans
  let rest := name.dropWhile Span.isNamePart
  let hasAtSign := (name.takeWhile Span.isNamePart).any (·.isMark '@')
  if (name.head?.bind Span.mark?).any isLetter && !hasAtSign then behindTag? (rest.length + 1) rest
  else none

/-! ## Comments -/

/-- What follows the end of a comment in which no other one starts. -/
def behindComment? : List Span → Option (List Span)
  | .mark '-' :: .mark '-' :: .mark '>' :: rest => some rest
  | .mark '<' :: .mark '!' :: .mark '-' :: .mark '-' :: _ => none
  | _ :: rest => behindComment? rest
  | [] => none

/-- What follows a tag or a comment whose opening bracket stands in front. -/
def behindMarkup? (spans : List Span) : Option (List Span) :=
  match spans with
  | .mark '!' :: .mark '-' :: .mark '-' :: rest => behindComment? rest
  | spans => behindName? spans

/-! ## Markup -/

/-- A span as a part of a tag. -/
def Span.inTag : Span → List Char
  | .mark char => [char]
  | .plain char => ['\\', char]
  | .raw html => '\\' :: html
  | span => span.html

/-- Finds tags and comments. -/
def findMarkup : Nat → List Span → List Span
  | 0, spans => spans
  | _, [] => []
  | limit + 1, span :: rest =>
      match if span.isMark '<' then behindMarkup? rest else none with
      | some after =>
          let markup := (span :: rest).take (rest.length + 1 - after.length)
          .raw (markup.flatMap Span.inTag) :: findMarkup limit after
      | none => span :: findMarkup limit rest

/-- Finds addresses, then breaks, then tags. -/
def findTags (spans : List Span) : List Span :=
  findMarkup spans.length (findBreaks (findAddresses spans))

end Folio.Markdown
