import Folio.Markdown.Span

/-!
Contract: links and images.

Owns: the brackets around the text of a link, and the parentheses behind them with the target and the title.
Does not own: what the text of a link shows.

Parentheses in a target are balanced. From the first quote on they are not counted, since a title may have
begun; if none has, the link ends at the parenthesis that would have closed it without the quote.
-/

namespace Folio.Markdown

/-! ## Texts -/

/-- The text in brackets up to the bracket that closes it, and what follows. -/
def bracketed : Nat → List Span → Option (List Span × List Span)
  | _, [] => none
  | depth, span :: spans =>
      if span.isMark ']' then
        match depth with
        | 0 => some ([], spans)
        | depth + 1 => (bracketed depth spans).map fun (inside, rest) => (span :: inside, rest)
      else
        (bracketed (if span.isMark '[' then depth + 1 else depth) spans).map fun (inside, rest) =>
          (span :: inside, rest)

/-! ## Targets -/

/-- What parentheses hold, and what follows them. -/
structure Target where
  target : List Span
  title : Option (List Span)
  rest : List Span
deriving Repr

/-- A target in angle brackets, with a title in quotes behind it at most. -/
def angledTarget? (spans : List Span) : Option Target :=
  match spans with
  | .mark '<' :: spans =>
      let isBracket (span : Span) : Bool := span.isMark '<' || span.isMark '>'
      let inside := spans.takeWhile fun span => !isBracket span
      match spans.dropWhile fun span => !isBracket span with
      | .mark '>' :: rest =>
          match trimLeft rest with
          | .mark ')' :: rest => some ⟨inside, none, rest⟩
          | .mark quote :: rest =>
              if quote = '"' || quote = '\'' then
                let title := rest.takeWhile fun span => !span.isMark quote
                match trimLeft (rest.drop (title.length + 1)) with
                | .mark ')' :: rest => some ⟨inside, some title, rest⟩
                | _ => none
              else none
          | _ => none
      | _ => none
  | _ => none

/-- One kind of quote in a target: where its first one stands, and where the last of its later ones does. -/
structure Quotes where
  quote : Char
  first : Nat
  last : Option Nat
deriving DecidableEq, Repr

/-- How far a target has been read: the parentheses that are open; those that were open at the first quote,
less the ones met since then, and where the last of them was closed; the two kinds of quotes in the order in which
they came; and the last character that is no space. -/
structure TargetScan where
  depth : Nat
  reserve : Nat
  reserveEnd : Option Nat
  quotes : Option Quotes
  otherQuotes : Option Quotes
  previous : Option Char
  index : Nat
deriving DecidableEq, Repr

namespace TargetScan

def start : TargetScan := ⟨1, 1, none, none, none, none, 0⟩

/-- Quotes that the last character closes, and where it stands. -/
def closedBy? (scan : TargetScan) (quotes : Option Quotes) : Option (Quotes × Nat) := do
  let quotes ← quotes
  let last ← quotes.last
  if scan.previous = some quotes.quote then some (quotes, last) else none

/-- The quotes around the title, if a title is what came last. -/
def titleQuotes? (scan : TargetScan) : Option (Quotes × Nat) :=
  match scan.closedBy? scan.quotes with
  | some found => some found
  | none => scan.closedBy? scan.otherQuotes

def readOpening (scan : TargetScan) : TargetScan :=
  if scan.quotes.isNone then { scan with depth := scan.depth + 1 }
  else { scan with reserve := scan.reserve - 1 }

def readClosing (scan : TargetScan) : TargetScan :=
  if scan.titleQuotes?.isSome then { scan with depth := 0 }
  else if scan.quotes.isNone then { scan with depth := scan.depth - 1 }
  else
    { scan with
      reserve := scan.reserve - 1
      reserveEnd := if scan.reserve = 1 then some (scan.index + 1) else scan.reserveEnd }

def readQuote (scan : TargetScan) (quote : Char) : TargetScan :=
  let here := scan.index
  match scan.quotes, scan.otherQuotes with
  | none, _ =>
      { scan with reserve := scan.depth, depth := 1, quotes := some ⟨quote, here, none⟩ }
  | some quotes, others =>
      if quote = quotes.quote then { scan with quotes := some { quotes with last := some here } }
      else match others with
        | none => { scan with otherQuotes := some ⟨quote, here, none⟩ }
        | some others => { scan with otherQuotes := some { others with last := some here } }

def step (scan : TargetScan) (char? : Option Char) : TargetScan :=
  let read :=
    match char? with
    | some '(' => scan.readOpening
    | some ')' => scan.readClosing
    | some '"' => scan.readQuote '"'
    | some '\'' => scan.readQuote '\''
    | _ => scan
  { read with
    index := scan.index + 1
    previous := if read.depth = 0 || char? = some ' ' then scan.previous else char? }

/-- Reads on until the parentheses are closed, or to the end. -/
def run : List Span → TargetScan → TargetScan
  | [], scan => scan
  | span :: spans, scan =>
      let scan := scan.step span.mark?
      if scan.depth = 0 then scan else run spans scan

/-- The target and the title before a closing parenthesis. -/
def targetBefore (scan : TargetScan) (spans : List Span) : List Span × Option (List Span) :=
  match scan.titleQuotes? with
  | some (quotes, last) => (spans.take quotes.first, some ((spans.take last).drop (quotes.first + 1)))
  | none => (spans.take (scan.index - 1), none)

/-- What was read, if the parentheses are closed. Where only openings have used up the reserve, there is no
place for the end: the target goes up to the last two characters, and the last one stays behind the link. -/
def finish (scan : TargetScan) (spans : List Span) : Option Target :=
  if scan.depth = 0 then
    let (target, title) := scan.targetBefore spans
    some ⟨target, title, spans.drop scan.index⟩
  else if scan.reserve = 0 then
    match scan.reserveEnd with
    | some stop => some ⟨spans.take (stop - 1), none, spans.drop stop⟩
    | none => some ⟨spans.dropLast.dropLast, none, spans.drop (spans.length - 1)⟩
  else none

end TargetScan

/-- The target behind the text of a link. -/
def target? (spans : List Span) : Option Target :=
  match spans with
  | .mark '(' :: rest =>
      let inside := trimLeft rest
      match angledTarget? inside with
      | some target => some target
      | none => (TargetScan.run inside .start).finish inside
  | _ => none

/-! ## Links and images -/

/-- A text without the quotes of one kind around it. -/
def dropQuotes (chars : List Char) : List Char :=
  let isQuoted (quote : Char) : Bool := chars.head? = some quote && chars.getLast? = some quote
  if isQuoted '"' || isQuoted '\'' then chars.tail.dropLast else chars

def targetChars (target : List Span) : List Char :=
  Text.strip (contents target)

/-- A title stands in one line. -/
def titleChars (title : List Span) : List Char :=
  (dropQuotes (contents (trim title))).map fun char => if Text.isBlank char then ' ' else char

/-- What an opening bracket starts: the text, the target and what follows. -/
def reference? (spans : List Span) : Option (List Span × Target) := do
  let (inside, rest) ← bracketed 0 spans
  return (inside, ← target? rest)

/-- Finds links, to whose texts `look` is applied. An exclamation mark in front makes an image. -/
def findLinks (look : List Span → List Span) : Nat → Bool → List Span → List Span
  | 0, _, spans => spans
  | _, _, [] => []
  | limit + 1, behindBang, span :: rest =>
      match if span.isMark '[' && !behindBang then reference? rest else none with
      | some (inside, found) =>
          .link (targetChars found.target) (found.title.map titleChars) (look inside) ::
            findLinks look limit false found.rest
      | none => span :: findLinks look limit (span.isMark '!') rest

def findImages : Nat → List Span → List Span
  | 0, spans => spans
  | _, [] => []
  | limit + 1, span :: rest =>
      let found :=
        match rest with
        | .mark '[' :: rest => if span.isMark '!' then reference? rest else none
        | _ => none
      match found with
      | some (inside, found) =>
          .image (targetChars found.target) (found.title.map titleChars) (contents inside) ::
            findImages limit found.rest
      | none => span :: findImages limit rest

end Folio.Markdown
