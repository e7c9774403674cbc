import Folio.Markdown.Code
import Folio.Markdown.Emphasis
import Folio.Markdown.Link
import Folio.Markdown.Tag

/-!
Contract: the text inside a block of Markdown.

Owns: the order in which the kinds of elements are looked for, and the second look at texts between and inside the
elements that an element holds.

The kinds are looked for one after the other over the whole text: code, escapes, links, images, addresses, line
breaks, tags, emphasis. What has been found is a span in which the later ones find no marks, but inside a link the
later ones are looked for too.
-/

namespace Folio.Markdown

/-- Finds what comes behind links. -/
def findLater (spans : List Span) : List Span :=
  findEmphasis (findTags (findImages spans.length spans))

/-- The spans of a text. -/
def findAll (spans : List Span) : List Span :=
  let spans := findEscapes (findCode spans)
  findLater (findLinks findLater spans.length false spans)

/-- Applies a function to what an element holds. -/
def Span.mapInside (change : List Span → List Span) : Span → Span
  | .code inside => .code (change inside)
  | .link target title inside => .link target title (change inside)
  | .emphasis inside => .emphasis (change inside)
  | .strong inside => .strong (change inside)
  | span => span

mutual

/-- Looks once more at the texts between elements and at what the elements hold. Elements that are found in such a
text are looked at again too, unless they are found in a text that no other element comes with. -/
def lookAgain : Nat → Bool → List Span → List Span
  | 0, _, spans => spans
  | limit + 1, isBehind, spans =>
      let found := findAll (chunkInFront spans)
      match behindChunk spans with
      | [] => found.map (if isBehind then lookThrough limit else lookInside limit)
      | span :: rest =>
          found.map (lookThrough limit) ++ lookThrough limit span :: lookAgain limit true rest

/-- Looks once more at all that an element holds. Code has no marks in front of its first inner element. -/
def lookThrough : Nat → Span → Span
  | 0, span => span
  | limit + 1, span =>
      match span with
      | .code _ => lookInside limit span
      | span => span.mapInside (lookAgain limit false)

/-- Looks once more at what an element holds from its first inner element on. -/
def lookInside : Nat → Span → Span
  | 0, span => span
  | limit + 1, span =>
      span.mapInside fun inside => chunkInFront inside ++ lookAgain limit true (behindChunk inside)

end

/-- More than the nesting of a text with all its elements. -/
def lookLimit (spans : List Span) : Nat :=
  6 * spans.length + 6

/-- The elements of a text of its own. -/
def textSpans (text : List Span) : List Span :=
  (findAll text).map (lookInside (lookLimit text))

/-- The elements of a text that trails behind a block. -/
def trailSpans (text : List Span) : List Span :=
  let found := findAll text
  chunkInFront found ++ lookAgain (lookLimit text) true (behindChunk found)

end Folio.Markdown
