import Folio.Markdown.Inline

/-!
Contract: a Markdown text as a tree of blocks, and its HTML.

Owns: the kinds of blocks, what is added to a block and to its last inner block, and the HTML of a tree.
Does not own: how blocks are read.

Inner blocks are kept newest first on all levels, because a later chunk of text may belong to the last of them.
-/

namespace Folio.Markdown

open Folio.Text

inductive Kind where
  | document
  | quote
  | list (isOrdered : Bool)
  | item
  | paragraph
  | heading (level : Nat)
  | rule
  | code
deriving DecidableEq, Repr

/-- A block with a text of its own in front of its inner blocks, newest first, and with a text that trails behind
it in the block around it. -/
structure Block where
  kind : Kind
  text : List Span
  blocks : List Block
  trail : List Span
deriving Repr

namespace Block

def empty (kind : Kind) : Block := ⟨kind, [], [], []⟩

def ofText (kind : Kind) (text : List Span) : Block := ⟨kind, text, [], []⟩

def isItem (block : Block) : Bool :=
  block.kind = .item

def isCode (block : Block) : Bool :=
  block.kind = .code

def isList (block : Block) : Bool :=
  match block.kind with
  | .list _ => true
  | _ => false

def last? (block : Block) : Option Block :=
  block.blocks.head?

def add (block inner : Block) : Block :=
  { block with blocks := inner :: block.blocks }

/-- Changes the last inner block, if there is one. -/
def changeLast (change : Block → Block) (block : Block) : Block :=
  match block.blocks with
  | [] => block
  | last :: earlier => { block with blocks := change last :: earlier }

/-- Changes the block that lies so many steps down along the last inner blocks. -/
def changeAt (change : Block → Block) : Nat → Block → Block
  | 0, block => change block
  | steps + 1, block => block.changeLast (changeAt change steps)

/-- The block that lies so many steps down. -/
def at? : Nat → Block → Option Block
  | 0, block => some block
  | steps + 1, block => block.last?.bind (at? steps)

/-- The text of a block as a paragraph in front of its inner blocks. -/
def loosen (block : Block) : Block :=
  if block.text.isEmpty then block
  else { block with text := [], blocks := block.blocks ++ [.ofText .paragraph block.text] }

/-- The text that trails behind the last inner block as a paragraph. -/
def loosenTrail (block : Block) : Block :=
  match block.blocks with
  | [] => block
  | last :: _ =>
      if last.trail.isEmpty then block
      else
        (block.changeLast fun last => { last with trail := [] }).add
          (.ofText .paragraph (trimLeft last.trail))

/-! ## Code and text -/

/-- Adds lines of code, behind an empty line if code came just before. -/
def addCode (block : Block) (code : List Span) : Block :=
  if block.last?.any isCode then
    block.changeLast fun last => { last with text := last.text ++ .mark '\n' :: code ++ [.mark '\n'] }
  else block.add (.ofText .code (code ++ [.mark '\n']))

/-- Empty lines belong to code that they follow. -/
def addEmpty (block : Block) (lineBreaks : List Char) : Block :=
  if block.last?.any isCode then
    block.changeLast fun last => { last with text := last.text ++ marks lineBreaks }
  else block

/-- Adds a text to the end of another one, in a line of its own. -/
def appendLine (before line : List Span) : List Span :=
  before ++ .mark '\n' :: line

/-- Adds a text without a paragraph: behind the last inner block, or to the block's own text. -/
def addBare (block : Block) (text : List Span) : Block :=
  if block.blocks.isEmpty then
    let text := trimLeft text
    { block with text := if block.text.isEmpty then text else appendLine block.text text }
  else block.changeLast fun last => { last with trail := appendLine last.trail text }

def addParagraph (block : Block) (text : List Span) : Block :=
  block.add (.ofText .paragraph (trimLeft text))

end Block

/-! ## HTML -/

def headingName (level : Nat) : String :=
  "h" ++ String.ofList [Char.ofNat (48 + level)]

/-- Elements that a paragraph cannot hold, or in which no marks are looked for. -/
def blockNames : List String :=
  ["address", "article", "aside", "blockquote", "details", "div", "dl", "fieldset", "figcaption", "figure",
    "footer", "form", "h1", "h2", "h3", "h4", "h5", "h6", "header", "hgroup", "hr", "main", "menu", "nav",
    "ol", "p", "pre", "section", "table", "ul", "canvas", "colgroup", "dd", "body", "dt", "group", "html",
    "iframe", "li", "legend", "math", "map", "noscript", "output", "object", "option", "progress", "script",
    "style", "summary", "tbody", "td", "textarea", "tfoot", "th", "thead", "tr", "video", "center"]

/-- The name of an element, with slashes at its end perhaps, names a block. -/
def isBlockName (name : List Char) : Bool :=
  let name := ((name.map Char.toLower).reverse.dropWhile (· = '/')).reverse
  blockNames.contains (String.ofList name)

/-- The name of a tag of a block, or the first word of a comment. -/
def isBlockWord (word : List Char) : Bool :=
  word.head? = some '!' || isBlockName word

/-- HTML that starts with a tag of a block or a comment. -/
def isBlockHtml (html : List Char) : Bool :=
  let word (rest : List Char) : List Char := rest.takeWhile fun char => char ≠ ' ' && char ≠ '>'
  match html with
  | '<' :: '/' :: rest => isBlockWord (word rest)
  | '<' :: rest => isBlockWord (word rest)
  | _ => false

/-- A paragraph; one that is nothing but the HTML of a block needs no tags of its own. -/
def paragraphHtml (spans : List Span) : List Char :=
  match spans with
  | [.raw html] => if isBlockHtml html then html else element "p" html
  | spans => element "p" (spansHtml false [] spans)

/-- What stands in front of inner blocks: a text, or a line break in place of a blank one. -/
def frontHtml (spans : List Span) (hasBlocks : Bool) : List Char :=
  if isBlankRow spans && hasBlocks then ['\n'] else spansHtml false [] spans

/-- What stands behind a block: a line break, or a text that starts with one. -/
def trailHtml (trail : List Span) : List Char :=
  let spans := trailSpans trail
  if isBlankRow (chunkInFront spans) then '\n' :: spansHtml false [] (behindChunk spans)
  else spansHtml false [] spans

/-- The HTML of code, which ends in one line break. -/
def codeHtml (text : List Span) : List Char :=
  spansHtml false [] ((trimRight text).map Span.inCode ++ [.mark '\n'])

mutual

def Block.html : Block → List Char
  | ⟨kind, text, blocks, trail⟩ =>
      let inner := blocksHtml blocks
      let holder (name : String) : List Char :=
        element name (frontHtml (textSpans text) (!blocks.isEmpty) ++ inner)
      (match kind with
      | .document => inner
      | .quote => holder "blockquote"
      | .list isOrdered => holder (if isOrdered then "ol" else "ul")
      | .item => holder "li"
      | .paragraph => paragraphHtml (textSpans text)
      | .heading level => holder (headingName level)
      | .rule => "<hr />".toList
      | .code => element "pre" (element "code" (codeHtml text))) ++ trailHtml trail

/-- The HTML of blocks that are given newest first. -/
def blocksHtml : List Block → List Char
  | [] => []
  | block :: blocks => blocksHtml blocks ++ block.html

end

end Folio.Markdown
