import Folio.Proofs.Number.Numeral
import Folio.Proofs.Template.Grammar
import Folio.Proofs.Template.Relocation

/-!
Contract: how a tree is written down.

Owns: the words of a canonical spelling, the trees that have one, the row of words of each of them, and
that the grammar reads this row as the tree.

Does not own: how the words are told apart in the text.
-/

namespace Folio.Template

open Folio.Text Folio.Number

/-! ## Words -/

/-- A word as it is written, before it has a place. -/
inductive Word where
  | mark (kind : TokenKind) (char : Char)
  | name (text : String)
  | whole (number : Int)
  | string (text : String)
deriving DecidableEq, Repr

/-- Inside single quotes a backslash stands before every backslash and every single quote. -/
def shield (char : Char) : List Char :=
  if char = '\\' ∨ char = '\'' then ['\\', char] else [char]

namespace Word

def kind : Word → TokenKind
  | .mark kind _ => kind
  | .name _ => .identifier
  | .whole _ => .number
  | .string _ => .string

def value : Word → List Char
  | .mark _ char => [char]
  | .name text => text.toList
  | .whole number => wholeDigits number
  | .string text => text.toList

def spelling : Word → List Char
  | .mark _ char => [char]
  | .name text => text.toList
  | .whole number => wholeDigits number
  | .string text => '\'' :: (text.toList.flatMap shield ++ ['\''])

/-- The token of a word, without a place. -/
def token (word : Word) : Token :=
  ⟨word.kind, String.ofList word.value, Relocation.forget.apply .start⟩

end Word

/-! ## Normal forms -/

def isName (text : String) : Bool :=
  match text.toList with
  | [] => false
  | char :: more => startsName char && more.all continuesName

/-- A literal that a numeral, a keyword or a string spells; floating-point numbers are left out. -/
def Literal.isNormal : Literal → Bool
  | .null => true
  | .bool _ => true
  | .int number => (naturalDigits number.natAbs).length ≤ digitLimit
  | .float _ => false
  | .str _ => true

mutual

/-- A tree in normal form: its names are names, its numbers can be read, and a pipeline inside it has
at least one stage. -/
def Expr.isNormal : Expr → Bool
  | .literal value => value.isNormal
  | .path head segments => isName head && (keyword? head).isNone && normalSegments segments
  | .array items => normalExprs items
  | .object entries => normalEntries entries
  | .pipeline root stages => root.isNormal && !stages.isEmpty && normalStages stages

def normalExprs : List Expr → Bool
  | [] => true
  | expr :: exprs => expr.isNormal && normalExprs exprs

def normalEntries : List (String × Expr) → Bool
  | [] => true
  | (_, value) :: entries => value.isNormal && normalEntries entries

def normalSegments : List Segment → Bool
  | [] => true
  | .property name :: segments => isName name && normalSegments segments
  | .index key :: segments => key.isNormal && normalSegments segments

def normalStages : List Stage → Bool
  | [] => true
  | .mk name arguments _ _ :: stages => isName name && normalExprs arguments && normalStages stages

end

def Pipeline.isNormal (pipeline : Pipeline) : Bool :=
  pipeline.root.isNormal && normalStages pipeline.stages

/-! ## Rows of words -/

def Literal.written : Literal → List Word
  | .null => [.name "null"]
  | .bool true => [.name "true"]
  | .bool false => [.name "false"]
  | .int number => [.whole number]
  | .float _ => []
  | .str text => [.string text]

/-- A key that is a name stands for itself, any other is written as a string. -/
def writtenKey (key : String) : Word :=
  if isName key then .name key else .string key

mutual

/-- The words of a tree. A pipeline inside a tree stands in parentheses. -/
def Expr.written : Expr → List Word
  | .literal value => value.written
  | .path head segments => .name head :: writtenSegments segments
  | .array items =>
      .mark .leftBracket '[' :: (writtenExprs items ++ [.mark .rightBracket ']'])
  | .object entries =>
      .mark .leftBrace '{' :: (writtenEntries entries ++ [.mark .rightBrace '}'])
  | .pipeline root stages =>
      .mark .leftParen '(' :: (root.written ++ writtenStages stages ++ [.mark .rightParen ')'])

def writtenExprs : List Expr → List Word
  | [] => []
  | [expr] => expr.written
  | expr :: next :: exprs => expr.written ++ .mark .comma ',' :: writtenExprs (next :: exprs)

def writtenEntries : List (String × Expr) → List Word
  | [] => []
  | [(key, value)] => writtenKey key :: .mark .colon ':' :: value.written
  | (key, value) :: next :: entries =>
      writtenKey key :: .mark .colon ':' :: value.written ++
        .mark .comma ',' :: writtenEntries (next :: entries)

def writtenSegments : List Segment → List Word
  | [] => []
  | .property name :: segments => .mark .dot '.' :: .name name :: writtenSegments segments
  | .index key :: segments =>
      .mark .leftBracket '[' :: (key.written ++ .mark .rightBracket ']' :: writtenSegments segments)

/-- A filter without arguments has no parentheses. -/
def writtenStages : List Stage → List Word
  | [] => []
  | .mk name [] _ _ :: stages => .mark .pipe '|' :: .name name :: writtenStages stages
  | .mk name (argument :: arguments) _ _ :: stages =>
      .mark .pipe '|' :: .name name ::
        ((.mark .leftParen '(' :: (writtenExprs (argument :: arguments) ++ [.mark .rightParen ')'])) ++
          writtenStages stages)

end

def Pipeline.written (pipeline : Pipeline) : List Word :=
  pipeline.root.written ++ writtenStages pipeline.stages

/-- The text of a pipeline: its words with a space between each two. -/
def Pipeline.printed (pipeline : Pipeline) : String :=
  String.ofList ([' '].intercalate (pipeline.written.map Word.spelling))

/-! ## The tokens of the words -/

/-- The row of tokens of a row of words. -/
def tokensOf (written : List Word) : List Token :=
  written.map Word.token

@[simp] theorem tokensOf_nil : tokensOf [] = [] := rfl

@[simp] theorem tokensOf_cons (word : Word) (written : List Word) :
    tokensOf (word :: written) = word.token :: tokensOf written := rfl

@[simp] theorem tokensOf_append (front back : List Word) :
    tokensOf (front ++ back) = tokensOf front ++ tokensOf back :=
  List.map_append

@[simp] theorem Word.token_kind (word : Word) : word.token.kind = word.kind := rfl

theorem Word.token_value_name (text : String) : (Word.name text).token.value = text :=
  String.ofList_toList

theorem Word.token_value_string (text : String) : (Word.string text).token.value = text :=
  String.ofList_toList

/-- The numeral of a whole number has no point, so that it is read as a whole number. -/
theorem readNumber_wholeText {number : Int}
    (short : (naturalDigits number.natAbs).length ≤ digitLimit) :
    readNumber (wholeText number) = .ok (.int number) := by
  have noPoint : ∀ magnitude, '.' ∉ naturalDigits magnitude := by
    intro magnitude member
    obtain ⟨digits, decimal, -, isRow⟩ := naturalDigits_eq magnitude
    rw [isRow] at member
    obtain ⟨digit, digitMember, isPoint⟩ := List.mem_map.1 member
    exact (digitChar_facts (decimal.small digit digitMember)).2.2.2.2.2 isPoint
  have whole : ¬(wholeText number).toList.contains '.' := by
    rw [wholeText, String.toList_ofList, List.contains_iff_mem]
    cases number with
    | ofNat magnitude => exact noPoint magnitude
    | negSucc magnitude =>
        intro member
        rcases List.mem_cons.1 member with isSign | member
        · exact absurd isSign (by decide)
        · exact noPoint (magnitude + 1) member
  have written : writeWhole number = .ok (wholeText number) := by
    rw [writeWhole, if_neg (Nat.not_lt.2 short)]
  rw [readNumber, if_neg whole, readWhole_wholeText written]

/-! ## The grammar reads what is written -/

theorem Literal.spells {value : Literal} (normal : value.isNormal = true) :
    Spells (tokensOf value.written) (.primary (.literal value)) := by
  cases value with
  | null => exact .keyword rfl (by decide)
  | bool value =>
      cases value with
      | true => exact .keyword rfl (by decide)
      | false => exact .keyword rfl (by decide)
  | int number => exact .number rfl (readNumber_wholeText (of_decide_eq_true normal))
  | float value => cases normal
  | str text =>
      have spelled : Spells [(Word.string text).token] _ := .string rfl
      rwa [Word.token_value_string] at spelled

theorem spells_property {row : List Token} {segments : List Segment} (name : String)
    (spelled : Spells row (.segments segments)) :
    Spells ((Word.mark .dot '.').token :: (Word.name name).token :: row)
      (.segments (.property name :: segments)) := by
  have longer : Spells ((Word.mark .dot '.').token :: (Word.name name).token :: row) _ :=
    .property rfl rfl spelled
  rwa [Word.token_value_name] at longer

theorem spells_path {row : List Token} {segments : List Segment} {head : String}
    (noKeyword : keyword? head = none) (spelled : Spells row (.segments segments)) :
    Spells ((Word.name head).token :: row) (.primary (.path head segments)) := by
  have path : Spells ((Word.name head).token :: row) _ :=
    .path rfl (by rwa [Word.token_value_name]) spelled
  rwa [Word.token_value_name] at path

theorem spells_stage {inside row : List Token} {arguments : List Expr} {stages : List Stage}
    {name : String} (argumentsSpelled : Spells inside (.argumentList name arguments))
    (spelled : Spells row (.stages stages)) :
    Spells ((Word.mark .pipe '|').token :: (Word.name name).token :: (inside ++ row))
      (.stages (.mk name arguments 0 0 :: stages)) := by
  have longer : Spells
      ((Word.mark .pipe '|').token :: (Word.name name).token :: (inside ++ row)) _ :=
    .stage rfl rfl (by rwa [Word.token_value_name]) spelled
  rwa [Word.token_value_name] at longer

theorem spells_entry {row : List Token} {value : Expr} (key : String)
    (spelled : Spells row (.primary value)) :
    Spells ((writtenKey key).token :: (Word.mark .colon ':').token :: row)
      (.entry (key, value)) := by
  have isKey : (writtenKey key).kind = .identifier ∨ (writtenKey key).kind = .string := by
    unfold writtenKey
    by_cases named : isName key
    · exact .inl (by rw [if_pos named]; rfl)
    · exact .inr (by rw [if_neg named]; rfl)
  have keyValue : (writtenKey key).token.value = key := by
    unfold writtenKey
    by_cases named : isName key
    · rw [if_pos named, Word.token_value_name]
    · rw [if_neg named, Word.token_value_string]
  have entry : Spells ((writtenKey key).token :: (Word.mark .colon ':').token :: row) _ :=
    .keyValue isKey rfl spelled.whole
  rwa [keyValue] at entry

mutual

theorem Expr.spells : (expr : Expr) → expr.isNormal = true →
    Spells (tokensOf expr.written) (.primary (expr.relocate .forget))
  | .literal value, normal => Literal.spells normal
  | .path head segments, normal => by
      simp only [Expr.isNormal, Bool.and_eq_true, Option.isNone_iff_eq_none] at normal
      exact spells_path normal.1.2 (spells_segments segments normal.2)
  | .array items, normal => by
      have spelled := spells_items items normal
      simp only [Expr.written, tokensOf_cons, tokensOf_append, tokensOf_nil]
      exact .array rfl spelled rfl
  | .object entries, normal => by
      have spelled := spells_entries entries normal
      simp only [Expr.written, tokensOf_cons, tokensOf_append, tokensOf_nil]
      exact .object rfl spelled rfl
  | .pipeline root stages, normal => by
      simp only [Expr.isNormal, Bool.and_eq_true] at normal
      obtain ⟨⟨rootNormal, nonempty⟩, stagesNormal⟩ := normal
      have rootSpelled := root.spells rootNormal
      have stagesSpelled := spells_stages stages stagesNormal
      have group : Spells (tokensOf (Expr.pipeline root stages).written)
          (.primary ((⟨root, stages⟩ : Pipeline).relocate .forget).toExpr) := by
        simp only [Expr.written, tokensOf_cons, tokensOf_append, tokensOf_nil]
        exact .group rfl (.expression rootSpelled stagesSpelled) rfl
      cases stages with
      | nil => cases nonempty
      | cons stage stages =>
          obtain ⟨name, arguments, line, column⟩ := stage
          exact group

theorem spells_items : (items : List Expr) → normalExprs items = true →
    Spells (tokensOf (writtenExprs items)) (.items (relocateExprs .forget items))
  | [], _ => .noItems
  | [item], normal => by
      simp only [normalExprs, Bool.and_eq_true] at normal
      exact .lastItem (item.spells normal.1).whole
  | item :: next :: items, normal => by
      simp only [normalExprs.eq_2 item, Bool.and_eq_true] at normal
      have itemSpelled := item.spells normal.1
      have restSpelled := spells_items (next :: items) normal.2
      simp only [writtenExprs, tokensOf_cons, tokensOf_append]
      exact .item itemSpelled.whole rfl restSpelled

theorem spells_arguments : (arguments : List Expr) → arguments ≠ [] →
    normalExprs arguments = true →
    Spells (tokensOf (writtenExprs arguments)) (.arguments (relocateExprs .forget arguments))
  | [], nonempty, _ => absurd rfl nonempty
  | [argument], _, normal => by
      simp only [normalExprs, Bool.and_eq_true] at normal
      exact .lastArgument (argument.spells normal.1).whole
  | argument :: next :: arguments, _, normal => by
      simp only [normalExprs.eq_2 argument, Bool.and_eq_true] at normal
      have argumentSpelled := argument.spells normal.1
      have restSpelled := spells_arguments (next :: arguments) (List.cons_ne_nil _ _) normal.2
      simp only [writtenExprs, tokensOf_cons, tokensOf_append]
      exact .argument argumentSpelled.whole rfl restSpelled

theorem spells_entries : (entries : List (String × Expr)) → normalEntries entries = true →
    Spells (tokensOf (writtenEntries entries)) (.entries (relocateEntries .forget entries))
  | [], _ => .noEntries
  | [(key, value)], normal => by
      simp only [normalEntries, Bool.and_eq_true] at normal
      exact .lastEntry (spells_entry key (value.spells normal.1))
  | (key, value) :: next :: entries, normal => by
      simp only [normalEntries.eq_2 _ value, Bool.and_eq_true] at normal
      have valueSpelled := value.spells normal.1
      have restSpelled := spells_entries (next :: entries) normal.2
      simp only [writtenEntries, tokensOf_cons, tokensOf_append]
      exact .entries (spells_entry key valueSpelled) rfl restSpelled

theorem spells_segments : (segments : List Segment) → normalSegments segments = true →
    Spells (tokensOf (writtenSegments segments)) (.segments (relocateSegments .forget segments))
  | [], _ => .noSegments
  | .property name :: segments, normal => by
      simp only [normalSegments, Bool.and_eq_true] at normal
      exact spells_property name (spells_segments segments normal.2)
  | .index key :: segments, normal => by
      simp only [normalSegments, Bool.and_eq_true] at normal
      have keySpelled := key.spells normal.1
      have restSpelled := spells_segments segments normal.2
      simp only [writtenSegments, tokensOf_cons, tokensOf_append]
      exact .index rfl keySpelled.whole rfl restSpelled

theorem spells_stages : (stages : List Stage) → normalStages stages = true →
    Spells (tokensOf (writtenStages stages)) (.stages (relocateStages .forget stages))
  | [], _ => .noStages
  | .mk name [] line column :: stages, normal => by
      simp only [normalStages, Bool.and_eq_true] at normal
      exact spells_stage .noArgumentList (spells_stages stages normal.2)
  | .mk name (argument :: arguments) line column :: stages, normal => by
      simp only [normalStages, Bool.and_eq_true] at normal
      have argumentsSpelled :=
        spells_arguments (argument :: arguments) (List.cons_ne_nil _ _) normal.1.2
      have restSpelled := spells_stages stages normal.2
      simp only [writtenStages, tokensOf_cons, tokensOf_append, tokensOf_nil]
      exact spells_stage (.argumentList rfl argumentsSpelled rfl) restSpelled

end

/-- The words of a pipeline spell it, without the places of its filters. -/
theorem Pipeline.spells {pipeline : Pipeline} (normal : pipeline.isNormal = true) :
    Spells (tokensOf pipeline.written) (.expression pipeline.unplaced) := by
  simp only [Pipeline.isNormal, Bool.and_eq_true] at normal
  rw [Pipeline.written, tokensOf_append]
  exact .expression (pipeline.root.spells normal.1) (spells_stages pipeline.stages normal.2)

end Folio.Template
