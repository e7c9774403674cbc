import Folio.Markdown.Span

/-!
Contract: code inside a text, and escaped characters.

Owns: which backticks enclose code, and which backslashes take the meaning of a mark from the character behind
them. Both come before all other marks, so there are no marks left in code.
-/

namespace Folio.Markdown

/-! ## Code -/

/-- The widths of the rows of backticks in a text, with the places where they start. -/
def backtickRows : Nat → Nat → List Span → List (Nat × Nat)
  | 0, _, _ => []
  | _, _, [] => []
  | limit + 1, index, span :: rest =>
      let width := countMarks backtick (span :: rest)
      if width = 0 then backtickRows limit (index + 1) rest
      else (index, width) :: backtickRows limit (index + width) ((span :: rest).drop width)

/-- What a row of backticks does: it encloses code up to a place, with so many backticks on either side, or it
stands for itself as does all before a place. -/
inductive Opening where
  | code (stop width : Nat)
  | text (stop : Nat)
deriving DecidableEq, Repr

/-- What a row of so many backticks in front does with the rows behind it. The first one that is just as long closes
it. Otherwise no longer one may follow, and it is closed by the first of the longest ones: the backticks that it
has too many are code. The first backtick of a longer row is used up in vain. -/
def openingOf (width : Nat) (rows : List (Nat × Nat)) : Opening :=
  match rows.find? (·.2 = width), rows.find? (width < ·.2) with
  | some (start, _), _ => .code start width
  | none, some (start, _) => .text (start + 1)
  | none, none =>
      let longest := (rows.map Prod.snd).foldl max 0
      match rows.find? (·.2 = longest) with
      | some (start, _) => .code start longest
      | none => .text width

/-- The spans of code. Nothing looks once more into code in front of its first inner element, so a backslash that
has been escaped there shows as its number. -/
def codeInside (spans : List Span) : List Span :=
  let spans := (trim spans).map Span.inCode
  (chunkInFront spans).map Span.numbered ++ behindChunk spans

/-- Pairs of backslashes in front of a backtick: their number. -/
def shieldedPairs : List Span → Option Nat
  | .mark '\\' :: .mark '\\' :: rest =>
      if rest.head?.any (·.isMark backtick) then some 1 else (shieldedPairs rest).map (· + 1)
  | _ => none

/-- Finds code, and pairs of backslashes in front of backticks, behind a part of the text. Behind a backslash there
is neither. -/
def findCodeBehind : Nat → Option Span → List Span → List Span
  | 0, _, spans => spans
  | _, _, [] => []
  | limit + 1, before, span :: rest =>
      let spans := span :: rest
      if before.any (·.isMark '\\') then span :: findCodeBehind limit (some span) rest
      else match shieldedPairs spans with
        | some pairs =>
            List.replicate pairs (.plain '\\') ++ findCodeBehind limit none (spans.drop (2 * pairs))
        | none =>
            let width := countMarks backtick spans
            if width = 0 then span :: findCodeBehind limit (some span) rest
            else
              let rows := backtickRows rest.length width (spans.drop width)
              match openingOf width rows with
              | .code stop width =>
                  .code (codeInside ((spans.take stop).drop width)) ::
                    findCodeBehind limit none (spans.drop (stop + width))
              | .text stop =>
                  spans.take stop ++ findCodeBehind limit (some (.mark backtick)) (spans.drop stop)

def findCode (spans : List Span) : List Span :=
  findCodeBehind spans.length none spans

/-! ## Escapes -/

def escapable : List Char :=
  ['\\', backtick, '*', '_', '\x7b', '\x7d', '[', ']', '(', ')', '>', '#', '+', '-', '.', '!']

def findEscapes : List Span → List Span
  | .mark '\\' :: .mark char :: spans =>
      if escapable.contains char then .plain char :: findEscapes spans
      else .mark '\\' :: .mark char :: findEscapes spans
  | .mark '\\' :: span :: spans => .mark '\\' :: span :: findEscapes spans
  | span :: spans => span :: findEscapes spans
  | [] => []

end Folio.Markdown
