import Folio.Yaml.Merge
import Folio.Yaml.Scalar

/-!
Contract: the value of a YAML text.

Owns: the values of nodes, the keys of mappings, and which of several faults of a text is reported. A
sequence as a key becomes a tuple; a mapping cannot be a key, and no key may stand twice in a mapping, unless the
mapping has taken in others: then the last entry counts.

A malformed text is reported before any fault of its values. Of these the one in the outermost
collection is reported, and of two in collections of one depth the first: an entry is judged by its key,
then by its value if that is a scalar, then by whether its key is new.
-/

namespace Folio.Yaml

/-! ## Values of nodes -/

def sequenceTag : String := "!seq"

def mappingTag : String := "!map"

def checkTag (known : String) (tag : Option String) : Except LoadError Unit :=
  if tag.all (· == known) then .ok () else .error .malformed

/-- An equals sign is text where it is a key. -/
def Node.isEqualsSign : Node → Bool
  | .scalar text isPlain none => isPlain && text == "="
  | _ => false

/-- A value as a key of a mapping. -/
def asKey : Value → Except LoadError Value
  | .list items => .ok (.tuple items)
  | .map _ => .error .malformed
  | key => .ok key

/-- Adds an entry. One that repeats a key takes the place of the earlier one, or is refused. -/
def addEntry (mayRepeat : Bool) (entries : Entries) (key value : Value) : Except LoadError Entries :=
  let isRepeated (entry : Value × Value) : Bool := entry.1.sameKey key
  match key.unkeyable? with
  | some part => .error (.mishap (.unkeyable part.kindName))
  | none =>
      if !entries.any isRepeated then .ok (entries ++ [(key, value)])
      else if mayRepeat then
        .ok (entries.map fun entry => if isRepeated entry then (entry.1, value) else entry)
      else .error .repeatedKey

mutual

def Node.value : Node → Except LoadError Value
  | .scalar text isPlain tag => scalarValue text isPlain tag
  | .sequence items tag => do
      checkTag sequenceTag tag
      return .list (← nodeValues items)
  | .mapping taken own tag => do
      checkTag mappingTag tag
      let before ← nodeEntries true taken []
      return .map (← nodeEntries (!taken.isEmpty) own before)
  | .refused cause => .error cause

def nodeValues : List Node → Except LoadError (List Value)
  | [] => .ok []
  | node :: nodes => do
      let first ← node.value
      let rest ← nodeValues nodes
      return first :: rest

/-- Adds the entries of a mapping to those before them. -/
def nodeEntries : Bool → List (Node × Node) → Entries → Except LoadError Entries
  | _, [], before => .ok before
  | mayRepeat, (keyNode, valueNode) :: rest, before => do
      let key ← if keyNode.isEqualsSign then .ok (.str "=") else keyNode.value
      let key ← asKey key
      let value ← valueNode.value
      nodeEntries mayRepeat rest (← addEntry mayRepeat before key value)

end

/-! ## The first fault -/

/-- Judges a node alone, without what it holds. -/
def Node.judge : Node → Except LoadError Unit
  | .scalar text isPlain tag => (scalarValue text isPlain tag).map fun _ => ()
  | .sequence _ tag => checkTag sequenceTag tag
  | .mapping _ _ tag => checkTag mappingTag tag
  | .refused cause => .error cause

/-- Judges the entries of a mapping with their whole keys, but without what their values hold. The result has
all keys, with no values. -/
def judgeEntries (mayRepeat : Bool) : List (Node × Node) → Entries → Except LoadError Entries
  | [], before => .ok before
  | (keyNode, valueNode) :: rest, before => do
      let key ← if keyNode.isEqualsSign then .ok (.str "=") else keyNode.value
      let key ← asKey key
      valueNode.judge
      judgeEntries mayRepeat rest (← addEntry mayRepeat before key .null)

def Node.judgeParts : Node → Except LoadError Unit
  | .scalar _ _ _ => .ok ()
  | .sequence items _ => items.forM Node.judge
  | .mapping taken own _ => do
      let before ← judgeEntries true taken []
      discard (judgeEntries (!taken.isEmpty) own before)
  | .refused cause => .error cause

def Node.children : Node → List Node
  | .scalar _ _ _ => []
  | .sequence items _ => items
  | .mapping taken own _ => (taken ++ own).map Prod.snd
  | .refused _ => []

/-- Judges the parts of all collections that lie so deep in a node. -/
def Node.judgeDepth : Nat → Node → Except LoadError Unit
  | 0, node => node.judgeParts
  | depth + 1, node => node.children.forM (judgeDepth depth)

mutual

/-- The number of collections around the innermost part of a node. -/
def Node.depth : Node → Nat
  | .scalar _ _ _ => 0
  | .sequence items _ => nodesDepth items + 1
  | .mapping taken own _ => max (entriesDepth taken) (entriesDepth own) + 1
  | .refused _ => 0

def nodesDepth : List Node → Nat
  | [] => 0
  | node :: nodes => max node.depth (nodesDepth nodes)

def entriesDepth : List (Node × Node) → Nat
  | [] => 0
  | (_, node) :: rest => max node.depth (entriesDepth rest)

end

def Node.load (node : Node) : Except LoadError Value := do
  node.judge
  (List.range node.depth).forM fun depth => node.judgeDepth depth
  node.value

/-- The value of a text; a text without a document is null. -/
def load (text : String) : Except LoadError Value := do
  match ← parseText text with
  | none => return .null
  | some node => node.merge.load

end Folio.Yaml
