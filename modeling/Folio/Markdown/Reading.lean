import Folio.Markdown.Block
import Folio.Markdown.Chunk

/-!
Contract: reading chunks into a tree of blocks.

Owns: how a chunk changes the block that it is read into, and which chunks belong to the last block before them.

The functions carry a limit on their nesting and on the number of chunks, which the length of the text gives.
-/

namespace Folio.Markdown

/-- How chunks are read: as they are, as the text of an item, as the text of an item behind an empty line, or
with an indentation taken away. -/
inductive Mode where
  | free
  | tight
  | loose
  | shifted
deriving DecidableEq, Repr

def pushChunk (chunk : List Span) (chunks : List (List Span)) : List (List Span) :=
  if chunk.isEmpty then chunks else chunk :: chunks

/-- How deep a chunk lies along the last inner lists and items of a block, given its indentation and the level of
the block: the level that is reached, and the number of steps. -/
def descend : Nat → Nat → Nat → Block → Nat × Nat
  | 0, _, level, _ => (level, 0)
  | limit + 1, indent, level, block =>
      if indent ≤ level then (level, 0)
      else match block.last? with
        | some last =>
            if last.isList || last.isItem then
              let (reached, steps) := descend limit indent (if last.isList then level + 1 else level) last
              (reached, steps + 1)
            else (level, 0)
        | none => (level, 0)

/-- An indented chunk belongs to a list if it stands in an item or behind a list. -/
def belongsToList (mode : Mode) (parent : Block) : Bool :=
  mode ≠ .shifted && (parent.isItem || parent.last?.any Block.isList)

mutual

def readChunks : Nat → Mode → Block → List (List Span) → Block
  | 0, _, parent, _ => parent
  | _, _, parent, [] => parent
  | limit + 1, mode, parent, chunk :: chunks =>
      if chunk.isEmpty then readChunks limit mode (parent.addEmpty ['\n', '\n']) chunks
      else if chunk.head?.any (·.isMark '\n') then
        readChunks limit mode (parent.addEmpty ['\n']) (pushChunk chunk.tail chunks)
      else if isIndented chunk then
        if belongsToList mode parent then
          readChunks limit mode (readIndented limit mode parent chunk) chunks
        else
          let (code, rest) := spanCode (linesOf chunk)
          readChunks limit mode (parent.addCode (trimRight (joinLines code)))
            (pushChunk (joinLines rest) chunks)
      else match shapeOf chunk with
        | .heading before level text after =>
            let parent := readChunks limit mode parent (pushChunk (joinLines before) [])
            let after := joinLines after
            let after := if mode = .loose then shiftLines 1 after else after
            readChunks limit mode (parent.add (.ofText (.heading level) text)) (pushChunk after chunks)
        | .rule before after =>
            let parent := readChunks limit mode parent (pushChunk (joinLines before) [])
            readChunks limit mode (parent.add (.empty .rule)) (pushChunk (joinLines after) chunks)
        | .list isOrdered texts => readChunks limit mode (readList limit parent isOrdered texts) chunks
        | .quote before inside =>
            let parent := readChunks limit mode parent [joinLines before]
            readChunks limit mode (readQuote limit parent inside) chunks
        | .text =>
            let parent :=
              if isBlankRow chunk then parent
              else if mode = .tight then parent.addBare chunk
              else parent.addParagraph chunk
            readChunks limit mode parent chunks

/-- An indented chunk in an item, or behind a list: it belongs to the item that its indentation tells. -/
def readIndented : Nat → Mode → Block → List Span → Block
  | 0, _, parent, _ => parent
  | limit + 1, mode, parent, chunk =>
      let indent := spacesInFront chunk / indentWidth
      let (level, steps) := descend limit indent (if mode = .tight then 1 else 0) parent
      let chunk := shiftLines level chunk
      let read (block : Block) : Block := readChunks limit .shifted block [chunk]
      if parent.isItem then
        if parent.last?.any Block.isList then parent.changeLast read else read parent
      else
        parent.changeAt (fun block =>
          if block.isItem then read block
          else if block.last?.any Block.isItem then
            block.changeLast fun item =>
              readChunks limit .shifted item.loosen (chunksOf (linesOf chunk))
          else block.add (read (.empty .item))) steps

/-- A list that follows a list goes on with it; its first item and the last one before it get paragraphs. In a
list that is being read the items are its own. -/
def readList : Nat → Block → Bool → List (List Span) → Block
  | 0, parent, _, _ => parent
  | limit + 1, parent, isOrdered, texts =>
      if parent.last?.any Block.isList then
        parent.changeLast fun list =>
          let list := list.changeLast fun last => last.loosen.loosenTrail
          let first := readChunks limit .loose (.empty .item) (texts.take 1)
          readItems limit (list.add first) (texts.drop 1)
      else if parent.isList then readItems limit parent texts
      else parent.add (readItems limit (.empty (.list isOrdered)) texts)

/-- Reads the texts of items into a list. An indented text belongs to the item before it. -/
def readItems : Nat → Block → List (List Span) → Block
  | 0, list, _ => list
  | _, list, [] => list
  | limit + 1, list, text :: texts =>
      let read (item : Block) : Block := readChunks limit .tight item [text]
      let list := if isIndented text then list.changeLast read else list.add (read (.empty .item))
      readItems limit list texts

/-- A quote that follows a quote goes on with it. -/
def readQuote : Nat → Block → List Line → Block
  | 0, parent, _ => parent
  | limit + 1, parent, inside =>
      let read (quote : Block) : Block := readChunks limit .free quote (chunksOf inside)
      if parent.last?.any (·.kind = .quote) then parent.changeLast read
      else parent.add (read (.empty .quote))

end

end Folio.Markdown
