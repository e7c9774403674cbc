import Folio.Markdown.Span
import Folio.Text.Alphanumeric

/-!
Contract: emphasis.

Owns: rows of asterisks or low lines, which of them open and close emphasis, and the pairs that they make.

A row opens if no blank follows it, and closes if none stands before it; a row of low lines does neither inside a
word. One mark on either side makes emphasis, two make strong emphasis, and three make both. A row that may do both
closes only where an open row goes with it, but then it is the innermost open row that is closed, whatever its
width; what is left of it opens again if nothing is open any more.
-/

namespace Folio.Markdown

open Folio.Text

/-! ## Rows -/

/-- A row of equal marks: where it starts and how long it is, what it may do, and whether it follows a word. -/
structure Row where
  start : Nat
  width : Nat
  opens : Bool
  closes : Bool
  followsWord : Bool
deriving DecidableEq, Repr

namespace Row

def stop (row : Row) : Nat :=
  row.start + row.width

def isTwoSided (row : Row) : Bool :=
  row.opens && row.closes

end Row

/-- The part of a text that stands beside a row: nothing at the ends of the text. -/
def isVoid (beside : Option Span) : Bool :=
  beside.all Span.isBlank

def isInWord (beside : Option Span) : Bool :=
  (beside.bind Span.mark?).any isWordChar

/-- The row between two parts of a text. Inside words, low lines are letters like others. -/
def rowBetween (mark : Char) (start width : Nat) (before after : Option Span) : Row :=
  let isLow := mark = '_'
  { start := start
    width := width
    opens := !isVoid after && !(isLow && isInWord before)
    closes := !isVoid before && !(isLow && isInWord after)
    followsWord := isInWord before }

/-- The rows of a mark in a text, from a place on and behind a part of the text. -/
def rowsOf (mark : Char) : Nat → Nat → Option Span → List Span → List Row
  | 0, _, _, _ => []
  | _, _, _, [] => []
  | limit + 1, index, before, span :: rest =>
      let width := countMarks mark (span :: rest)
      if width = 0 then rowsOf mark limit (index + 1) (some span) rest
      else
        let after := (span :: rest).drop width
        rowBetween mark index width before after.head? ::
          rowsOf mark limit (index + width) (some (.mark mark)) after

/-! ## Pairs -/

/-- A row that is open: where its marks start and how many are left. It is inner if it might have closed another
one, loose if it might have done so but nothing was open, and a rest if it has closed one. -/
structure Opener where
  start : Nat
  left : Nat
  isInner : Bool
  isLoose : Bool
  isRest : Bool
deriving DecidableEq, Repr

namespace Opener

def stop (opener : Opener) : Nat :=
  opener.start + opener.left

/-- Whether so many closing marks of a row that opens as well go with an opener. One and two do not go together,
unless the one is a rest. -/
def goesWith (opener : Opener) (closing : Nat) : Bool :=
  match opener.left, closing with
  | 1, 2 => opener.isRest
  | 2, 1 => false
  | _, _ => true

/-- How many marks of an opener are used up together. One or two are, even where fewer close it. -/
def share (opener : Opener) (closing : Nat) : Nat :=
  if opener.left ≤ 2 then opener.left else min opener.left (min closing 3)

/-- Two inner marks are not closed by a single one. -/
def withstands (opener : Opener) (closing : Nat) : Bool :=
  opener.isInner && opener.left = 2 && closing = 1

/-- Takes marks from the end of an opener; one that has none left is closed. -/
def take (opener : Opener) (width : Nat) : List Opener :=
  if opener.left ≤ width then [] else [{ opener with left := opener.left - width }]

end Opener

/-- Marks that enclose a part of a text: the first one in front, the first one behind, and their number on
either side. -/
structure Pair where
  opening : Nat
  closing : Nat
  width : Nat
deriving DecidableEq, Repr

/-- The open rows, innermost first, and the pairs that have been made. -/
structure Pairing where
  openers : List Opener
  pairs : List Pair
deriving DecidableEq, Repr

namespace Pairing

/-- Closes the innermost opener at a place. -/
def close (pairing : Pairing) (opener : Opener) (outer : List Opener) (place width : Nat) : Pairing :=
  ⟨opener.take width ++ outer, ⟨opener.stop - width, place, width⟩ :: pairing.pairs⟩

/-- Opens what is left of a row. -/
def openRow (pairing : Pairing) (row : Row) (left : Nat) (isRest : Bool) : Pairing :=
  if row.opens && 0 < left then
    let isInner := row.isTwoSided && (isRest || !pairing.openers.isEmpty)
    let opener : Opener :=
      { start := row.stop - left
        left := left
        isInner := isInner
        isLoose := row.isTwoSided && row.followsWord && !isRest
        isRest := isRest }
    { pairing with openers := opener :: pairing.openers }
  else pairing

/-- Closes with a row that may open as well. The first opener is closed in any case, and further ones as long as
enough marks are left for them. The result has what is left of the row. -/
def closeOn (row : Row) : Nat → Bool → Nat → Pairing → Pairing × Nat
  | 0, _, left, pairing => (pairing, left)
  | limit + 1, isFirst, left, pairing =>
      match pairing.openers with
      | [] => (pairing, left)
      | opener :: outer =>
          let width := opener.share left
          if left = 0 || (!isFirst && left < width) then (pairing, left)
          else closeOn row limit false (left - width) (pairing.close opener outer (row.stop - left) width)

/-- The opener that a row which does not open closes first: the innermost one, unless it withstands and there is a
single mark further out. -/
def closable (left : Nat) (openers : List Opener) : List Opener :=
  match openers with
  | opener :: _ =>
      if opener.withstands left then
        match openers.dropWhile (·.left ≠ 1) with
        | [] => openers
        | single => single
      else openers
  | [] => []

/-- Whether an opener is a rest around which too many marks stand, with no pair inside it. -/
def isMisread (pairing : Pairing) (opener : Opener) (width : Nat) : Bool :=
  opener.isRest && width < opener.left && !pairing.pairs.any (opener.start < ·.opening)

/-- Closes with a row that does not open. Where a rest is wider than what closes it, its first marks are taken
instead of its last ones, and all that belongs to them is taken as much too early. -/
def closeUp (row : Row) : Nat → Nat → Pairing → Pairing
  | 0, _, pairing => pairing
  | limit + 1, left, pairing =>
      match closable left pairing.openers with
      | [] => pairing
      | opener :: outer =>
          let width := min opener.left (min left 3)
          let place := row.stop - left
          if left = 0 then pairing
          else if pairing.isMisread opener width then
            let early : Pair := ⟨opener.start, opener.start + width + (place - opener.stop), width⟩
            closeUp row limit (left - width) ⟨outer, early :: pairing.pairs⟩
          else closeUp row limit (left - width) (pairing.close opener outer place width)

/-- Drops a loose row if it is the only open one. -/
def dropLoose (pairing : Pairing) : Pairing :=
  match pairing.openers with
  | [opener] => if opener.isLoose then { pairing with openers := [] } else pairing
  | _ => pairing

/-- Closes and opens with a row. -/
def read (pairing : Pairing) (row : Row) : Pairing :=
  if !row.closes || pairing.openers.isEmpty then pairing.openRow row row.width false
  else if !row.opens then closeUp row row.width row.width pairing
  else if pairing.openers.any (·.goesWith row.width) then
    let (closed, left) := closeOn row row.width true row.width pairing
    if closed.openers.isEmpty then closed.openRow row left true else closed
  else pairing.dropLoose.openRow row row.width false

end Pairing

/-- The pairs that rows make. -/
def pairsOf (rows : List Row) : List Pair :=
  (rows.foldl Pairing.read ⟨[], []⟩).pairs

/-! ## Elements -/

def Pair.span (pair : Pair) (inside : List Span) : Span :=
  match pair.width with
  | 1 => .emphasis inside
  | 2 => .strong inside
  | _ => .strong [.emphasis inside]

/-- The first of some pairs from a place on. -/
def nextPair? (pairs : List Pair) (index stop : Nat) : Option Pair :=
  (pairs.filter fun pair => index ≤ pair.opening && pair.opening < stop).foldl (fun first pair =>
    match first with
    | some first => if pair.opening < first.opening then some pair else some first
    | none => some pair) none

/-- Where a part of a text between pairs lies: how many pairs are around it, and whether it stands in front of all
the pairs beside it. -/
structure Position where
  depth : Nat
  isFirst : Bool
deriving DecidableEq, Repr

/-- The spans up to a place, with emphasis where pairs say so. `settle` is applied to the parts in between. -/
def applyPairs (settle : Position → List Span → List Span) (pairs : List Pair) :
    Nat → Position → Nat → Nat → List Span → List Span
  | 0, _, _, _, spans => spans
  | limit + 1, position, index, stop, spans =>
      match nextPair? pairs index stop with
      | none => settle position (spans.take (stop - index))
      | some pair =>
          let depth := position.depth + if pair.width = 3 then 2 else 1
          let start := pair.opening + pair.width
          let inside := applyPairs settle pairs limit ⟨depth, true⟩ start pair.closing (spans.drop (start - index))
          let behind := pair.closing + pair.width
          settle position (spans.take (pair.opening - index)) ++ pair.span inside ::
            applyPairs settle pairs limit { position with isFirst := false } behind stop
              (spans.drop (behind - index))

/-- Finds the emphasis that a mark makes, and what comes later in the parts of a text that stand first in an outermost
emphasis or right inside it. Behind an inner emphasis, the mark is looked for once more. -/
def findMark (mark : Char) (findLater : List Span → List Span) : Nat → List Span → List Span
  | 0, spans => spans
  | limit + 1, spans =>
      let settle (position : Position) (part : List Span) : List Span :=
        match position.depth, position.isFirst with
        | 1, true | 2, true => findLater part
        | 1, false => findLater (findMark mark findLater limit part)
        | _, _ => part
      let pairs := pairsOf (rowsOf mark (spans.length + 1) 0 none spans)
      applyPairs settle pairs (spans.length + 1) ⟨0, true⟩ 0 spans.length spans

def findLowLines (spans : List Span) : List Span :=
  findMark '_' id spans.length spans

/-- Finds what asterisks make, and then what low lines make. -/
def findEmphasis (spans : List Span) : List Span :=
  findLowLines (findMark '*' findLowLines spans.length spans)

end Folio.Markdown
