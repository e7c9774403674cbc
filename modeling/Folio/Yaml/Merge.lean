import Folio.Yaml.Node

/-!
Contract: mappings that take in the entries of other mappings.

Owns: the merge key, whose value is a mapping or a sequence of mappings, and the nodes in which every mapping has
taken in what its merge key names.
Does not own: which of two entries with one key counts.

A mapping that cannot take in what it should is left with a single entry that has no value, so that it is refused
where its entries are judged.
-/

namespace Folio.Yaml

def Node.isMergeKey : Node → Bool
  | .scalar text isPlain none => isPlain && text == "<<"
  | _ => false

/-- The entries of a mapping, those that it has taken in first. -/
def Node.entries? : Node → Option (List (Node × Node))
  | .mapping taken own _ => some (taken ++ own)
  | _ => none

/-- What the value of a merge key brings in. Of several mappings the first one counts most, so it comes last. -/
def Node.brought : Node → Except LoadError (List (Node × Node))
  | .sequence items _ =>
      match items.reverse.mapM Node.entries? with
      | some entries => .ok entries.flatten
      | none => malformed
  | node =>
      match node.entries? with
      | some entries => .ok entries
      | none => malformed

/-- What merge keys bring in, and the other entries. Behind a merge key that has brought something there is no
second one. -/
def takeIn : List (Node × Node) → Except LoadError (List (Node × Node) × List (Node × Node))
  | [] => .ok ([], [])
  | (key, value) :: rest =>
      if key.isMergeKey then do
        let brought ← value.brought
        if !brought.isEmpty && rest.any fun entry => entry.1.isMergeKey then .error .repeatedKey
        else
          let (taken, own) ← takeIn rest
          return (brought ++ taken, own)
      else do
        let (taken, own) ← takeIn rest
        return (taken, (key, value) :: own)

mutual

/-- A node with all merge keys in it resolved, from the inside out. -/
def Node.merge : Node → Node
  | .scalar text isPlain tag => .scalar text isPlain tag
  | .refused cause => .refused cause
  | .sequence items tag => .sequence (mergeAll items) tag
  | .mapping taken own tag =>
      match takeIn (mergeEntries own) with
      | .ok (brought, own) => .mapping (mergeEntries taken ++ brought) own tag
      | .error cause => .mapping [] [(.refused cause, .absent)] tag

def mergeAll : List Node → List Node
  | [] => []
  | node :: nodes => node.merge :: mergeAll nodes

def mergeEntries : List (Node × Node) → List (Node × Node)
  | [] => []
  | (key, value) :: rest => (key.merge, value.merge) :: mergeEntries rest

end

end Folio.Yaml
