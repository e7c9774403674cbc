import Folio.Yaml.Token

/-!
Contract: a row of YAML tokens as a tree.

Owns: scalars, sequences and mappings with their tags, block and flow collections, anchors and aliases, and
the one document that a text may hold.
Does not own: the values of scalars, and whether the keys of a mapping differ.

An alias stands for the node whose anchor was read last before it; a node does not contain itself. The
functions that read nodes carry a limit on their nesting, for which a small multiple of the number of
tokens suffices.
-/

namespace Folio.Yaml

/-- A plain scalar without a tag may be something else than text. A mapping has entries that it has taken in from
other ones, and its own. A refused node has no value. -/
inductive Node where
  | scalar (text : String) (isPlain : Bool) (tag : Option String)
  | sequence (items : List Node) (tag : Option String)
  | mapping (taken own : List (Node × Node)) (tag : Option String)
  | refused (cause : LoadError)
deriving Repr, Inhabited

/-- What stands where a node is left out. -/
def Node.absent : Node := .scalar "" true none

/-- The tokens ahead and the nodes that have an anchor, newest first. -/
structure Reading where
  tokens : List Token
  anchors : List (String × Node)
deriving Repr

def Reading.at (reading : Reading) (tokens : List Token) : Reading :=
  { reading with tokens := tokens }

def Reading.remember (reading : Reading) (anchor : Option String) (node : Node) : Reading :=
  match anchor with
  | some name => { reading with anchors := (name, node) :: reading.anchors }
  | none => reading

/-- The reading cannot go on: because of the fault in which the tokens end, if that comes next. -/
def Reading.refuse {α : Type} (reading : Reading) : Except LoadError α :=
  match reading.tokens with
  | .fault cause :: _ => .error cause
  | _ => malformed

def Reading.isAtAny (reading : Reading) (stops : List Token) : Bool :=
  match reading.tokens with
  | [] => false
  | token :: _ => stops.contains token

/-- Where a node stands. The value of a block entry may be a sequence without an indentation of its own. -/
inductive Site where
  | flow
  | block
  | entry
deriving DecidableEq, Repr

/-- The anchor and the tag in front of a node, in either order. -/
def splitProperties : List Token → Option String × Option String × List Token
  | .anchor anchor :: .tag tag :: rest => (some anchor, some tag, rest)
  | .tag tag :: .anchor anchor :: rest => (some anchor, some tag, rest)
  | .anchor anchor :: rest => (some anchor, none, rest)
  | .tag tag :: rest => (none, some tag, rest)
  | tokens => (none, none, tokens)

/-- A tag without a name says nothing about a collection, and that a scalar counts as plain. -/
def namedTag (tag : Option String) : Option String :=
  if tag == some "" then none else tag

mutual

def readNode : Nat → Site → Reading → Except LoadError (Node × Reading)
  | 0, _, _ => malformed
  | limit + 1, site, reading =>
      match reading.tokens with
      | .alias name :: rest =>
          match reading.anchors.lookup name with
          | some node => .ok (node, reading.at rest)
          | none => malformed
      | tokens =>
          let (anchor, tag, rest) := splitProperties tokens
          let isMarked := anchor.isSome || tag.isSome
          (readContent limit site tag isMarked (reading.at rest)).map fun (node, after) =>
            (node, after.remember anchor node)

/-- A node behind its anchor and tag, of which one may stand alone. -/
def readContent : Nat → Site → Option String → Bool → Reading → Except LoadError (Node × Reading)
  | 0, _, _, _, _ => malformed
  | limit + 1, site, tag, isMarked, reading =>
      let absent :=
        if isMarked then .ok (.scalar "" true (namedTag tag), reading) else reading.refuse
      match reading.tokens with
      | .scalar text isPlain :: rest =>
          .ok (.scalar text (isPlain || tag == some "") (namedTag tag), reading.at rest)
      | .bracketOpen :: rest => do
          let (items, after) ← readFlowItems limit true (reading.at rest)
          return (.sequence items (namedTag tag), after)
      | .braceOpen :: rest => do
          let (entries, after) ← readFlowEntries limit true (reading.at rest)
          return (.mapping [] entries (namedTag tag), after)
      | .sequenceStart :: rest =>
          if site = .flow then absent
          else do
            let (items, after) ← readBlockItems limit (reading.at rest)
            return (.sequence items (namedTag tag), after)
      | .mappingStart :: rest =>
          if site = .flow then absent
          else do
            let (entries, after) ← readBlockEntries limit (reading.at rest)
            return (.mapping [] entries (namedTag tag), after)
      | .dash :: _ =>
          if site = .entry then do
            let (items, after) ← readDashItems limit reading
            return (.sequence items (namedTag tag), after)
          else absent
      | _ => absent

/-- A node, unless one of the tokens comes that may follow a node which is left out. -/
def readOptional : Nat → Site → List Token → Reading → Except LoadError (Node × Reading)
  | 0, _, _, _ => malformed
  | limit + 1, site, stops, reading =>
      if reading.isAtAny stops then .ok (.absent, reading) else readNode limit site reading

/-- The value behind a colon; without a colon it is left out. -/
def readValue : Nat → Site → List Token → Reading → Except LoadError (Node × Reading)
  | 0, _, _, _ => malformed
  | limit + 1, site, stops, reading =>
      match reading.tokens with
      | .value :: rest => readOptional limit site stops (reading.at rest)
      | _ => .ok (.absent, reading)

def readBlockItems : Nat → Reading → Except LoadError (List Node × Reading)
  | 0, _ => malformed
  | limit + 1, reading =>
      match reading.tokens with
      | .dash :: rest => do
          let (item, after) ← readOptional limit .block [.dash, .blockEnd] (reading.at rest)
          let (items, last) ← readBlockItems limit after
          return (item :: items, last)
      | .blockEnd :: rest => .ok ([], reading.at rest)
      | _ => reading.refuse

/-- The items of a sequence that has the indentation of the mapping around it. -/
def readDashItems : Nat → Reading → Except LoadError (List Node × Reading)
  | 0, _ => malformed
  | limit + 1, reading =>
      match reading.tokens with
      | .dash :: rest => do
          let (item, after) ←
            readOptional limit .block [.dash, .key, .value, .blockEnd] (reading.at rest)
          let (items, last) ← readDashItems limit after
          return (item :: items, last)
      | _ => .ok ([], reading)

def readBlockEntries : Nat → Reading → Except LoadError (List (Node × Node) × Reading)
  | 0, _ => malformed
  | limit + 1, reading =>
      let stops : List Token := [.key, .value, .blockEnd]
      match reading.tokens with
      | .key :: rest => do
          let (key, after) ← readOptional limit .entry stops (reading.at rest)
          let (value, after) ← readValue limit .entry stops after
          let (entries, last) ← readBlockEntries limit after
          return ((key, value) :: entries, last)
      | .value :: _ => do
          let (value, after) ← readValue limit .entry stops reading
          let (entries, last) ← readBlockEntries limit after
          return ((.absent, value) :: entries, last)
      | .blockEnd :: rest => .ok ([], reading.at rest)
      | _ => reading.refuse

/-- The items up to the closing bracket, with a comma before each but the first. A key makes an item that
is a mapping of one entry. -/
def readFlowItems : Nat → Bool → Reading → Except LoadError (List Node × Reading)
  | 0, _, _ => malformed
  | limit + 1, isFirst, reading =>
      match reading.tokens, isFirst with
      | .bracketClose :: rest, _ => .ok ([], reading.at rest)
      | .comma :: rest, false => readFlowItem limit (reading.at rest)
      | _, true => readFlowItem limit reading
      | _, false => reading.refuse

def readFlowItem : Nat → Reading → Except LoadError (List Node × Reading)
  | 0, _ => malformed
  | limit + 1, reading =>
      match reading.tokens with
      | .bracketClose :: rest => .ok ([], reading.at rest)
      | .key :: rest => do
          let (key, after) ←
            readOptional limit .flow [.value, .comma, .bracketClose] (reading.at rest)
          let (value, after) ← readValue limit .flow [.comma, .bracketClose] after
          let (items, last) ← readFlowItems limit false after
          return (.mapping [] [(key, value)] none :: items, last)
      | _ => do
          let (item, after) ← readNode limit .flow reading
          let (items, last) ← readFlowItems limit false after
          return (item :: items, last)

def readFlowEntries : Nat → Bool → Reading → Except LoadError (List (Node × Node) × Reading)
  | 0, _, _ => malformed
  | limit + 1, isFirst, reading =>
      match reading.tokens, isFirst with
      | .braceClose :: rest, _ => .ok ([], reading.at rest)
      | .comma :: rest, false => readFlowEntry limit (reading.at rest)
      | _, true => readFlowEntry limit reading
      | _, false => reading.refuse

def readFlowEntry : Nat → Reading → Except LoadError (List (Node × Node) × Reading)
  | 0, _ => malformed
  | limit + 1, reading =>
      let stops : List Token := [.comma, .braceClose]
      match reading.tokens with
      | .braceClose :: rest => .ok ([], reading.at rest)
      | .key :: rest => do
          let (key, after) ← readOptional limit .flow (.value :: stops) (reading.at rest)
          let (value, after) ← readValue limit .flow stops after
          let (entries, last) ← readFlowEntries limit false after
          return ((key, value) :: entries, last)
      | .value :: _ => do
          let (value, after) ← readValue limit .flow stops reading
          let (entries, last) ← readFlowEntries limit false after
          return ((.absent, value) :: entries, last)
      | _ => do
          let (key, after) ← readNode limit .flow reading
          let (entries, last) ← readFlowEntries limit false after
          return ((key, .absent) :: entries, last)

end

/-! ## Documents -/

/-- Behind the document nothing stands but an end marker. -/
def Reading.finish (reading : Reading) : Except LoadError Unit :=
  match reading.tokens with
  | [] => .ok ()
  | [.documentEnd] => .ok ()
  | .documentEnd :: rest => (reading.at rest).refuse
  | _ => reading.refuse

/-- The document of a row of tokens: `none` where there is none. -/
def readDocument (tokens : List Token) : Except LoadError (Option Node) :=
  let limit := 4 * tokens.length + 4
  match tokens with
  | [] => .ok none
  | [.documentStart] => .ok (some .absent)
  | .documentStart :: rest => do
      let (node, after) ← readOptional limit .block [.documentStart, .documentEnd] ⟨rest, []⟩
      after.finish
      return some node
  | tokens => do
      let (node, after) ← readNode limit .block ⟨tokens, []⟩
      after.finish
      return some node

/-- The document of a text. -/
def parseText (text : String) : Except LoadError (Option Node) := do
  readDocument (← tokens text)

end Folio.Yaml
