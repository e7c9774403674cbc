import Folio.Proofs.Template.Completeness
import Folio.Proofs.Template.Lexing
import Folio.Template.Survey

/-!
Contract: inline templates are shorter than the template around them.

Owns: that every string of a tree stands in a token of its row, that the value of a string token is
shorter than the text that it is found in, and the law for whole templates.

Does not own: what is done with inline templates.
-/

namespace Folio.Template

open Folio.Text

/-! ## Strings of trees -/

/-- The text of a tree that is a string. -/
def Expr.ownText : Expr → List String
  | .literal (.str text) => [text]
  | _ => []

/-- The inline templates of a phrase and, where stages may still follow, the text that it is itself. -/
def textsOf (filter : String) : Phrase → List String
  | .expression pipeline =>
      pipeline.root.ownText ++ pipeline.root.inlineTexts filter ++
        stageInlineTexts filter pipeline.stages
  | .stages stages => stageInlineTexts filter stages
  | .argumentList _ arguments => exprInlineTexts filter arguments
  | .arguments arguments => exprInlineTexts filter arguments
  | .primary expr => expr.ownText ++ expr.inlineTexts filter
  | .segments segments => segmentInlineTexts filter segments
  | .items items => exprInlineTexts filter items
  | .entries entries => entryInlineTexts filter entries
  | .entry entry => entry.2.inlineTexts filter

theorem handedText_subset {filter : String} {root : Expr} {stages : List Stage} {text : String}
    (member : text ∈ handedText filter root stages) : text ∈ root.ownText := by
  unfold handedText at member
  split at member
  · split at member
    · exact member
    · cases member
  · cases member

theorem pipeline_texts_subset {filter : String} {root : Expr} {stages : List Stage} {text : String}
    (member : text ∈ handedText filter root stages ++ root.inlineTexts filter ++
      stageInlineTexts filter stages) :
    text ∈ textsOf filter (.expression ⟨root, stages⟩) := by
  rcases List.mem_append.1 member with member | inStages
  · rcases List.mem_append.1 member with handed | inRoot
    · exact List.mem_append_left _ (List.mem_append_left _ (handedText_subset handed))
    · exact List.mem_append_left _ (List.mem_append_right _ inRoot)
  · exact List.mem_append_right _ inStages

/-- As a part of another tree a pipeline has no texts that it has not as a whole expression. -/
theorem toExpr_texts_subset {filter : String} {pipeline : Pipeline} {text : String}
    (member : text ∈ pipeline.toExpr.ownText ++ pipeline.toExpr.inlineTexts filter) :
    text ∈ textsOf filter (.expression pipeline) := by
  obtain ⟨root, stages⟩ := pipeline
  cases stages with
  | nil => exact List.mem_append_left _ member
  | cons stage stages => exact pipeline_texts_subset member

theorem toExpr_inlineTexts_subset {filter : String} {pipeline : Pipeline} {text : String}
    (member : text ∈ pipeline.toExpr.inlineTexts filter) :
    text ∈ textsOf filter (.expression pipeline) :=
  toExpr_texts_subset (List.mem_append_right _ member)

/-- Neither a number nor a keyword is a text. -/
theorem ownText_of_readNumber {numeral : String} {literal : Literal}
    (read : readNumber numeral = .ok literal) : (Expr.literal literal).ownText = [] := by
  unfold readNumber at read
  split at read
  all_goals
    split at read
    · cases read
      rfl
    · cases read

theorem ownText_of_keyword {name : String} {literal : Literal}
    (isKeyword : keyword? name = some literal) : (Expr.literal literal).ownText = [] := by
  unfold keyword? at isKeyword
  repeat' split at isKeyword
  all_goals cases isKeyword <;> rfl

theorem segmentInlineTexts_of_numberProperties {filter numeral : String}
    {properties segments : List Segment}
    (isProperties : numberProperties? numeral = some properties) :
    segmentInlineTexts filter (properties ++ segments) = segmentInlineTexts filter segments := by
  unfold numberProperties? at isProperties
  split at isProperties
  · cases isProperties
  · cases isProperties
    induction splitText '.' numeral with
    | nil => rfl
    | cons name names inductionHypothesis => exact inductionHypothesis

/-! ## Tokens of strings -/

/-- Each of some texts is the value of a string among the tokens of a row. -/
def HoldsStrings (row : List Token) (texts : List String) : Prop :=
  ∀ text ∈ texts, ∃ token ∈ row, token.kind = .string ∧ token.value = text

namespace HoldsStrings

variable {row row' : List Token} {texts texts' : List String}

theorem none (row : List Token) : HoldsStrings row [] :=
  fun _ member => absurd member List.not_mem_nil

theorem widen (holds : HoldsStrings row texts) (part : ∀ token ∈ row, token ∈ row') :
    HoldsStrings row' texts := by
  intro text member
  obtain ⟨token, tokenMember, isString⟩ := holds text member
  exact ⟨token, part token tokenMember, isString⟩

theorem only (holds : HoldsStrings row texts) (part : ∀ text ∈ texts', text ∈ texts) :
    HoldsStrings row texts' :=
  fun text member => holds text (part text member)

theorem append (first : HoldsStrings row texts) (second : HoldsStrings row texts') :
    HoldsStrings row (texts ++ texts') :=
  List.forall_mem_append.2 ⟨first, second⟩

end HoldsStrings

/-- The texts of a phrase are strings among its tokens. -/
theorem Spells.holdsStrings {row : List Token} {phrase : Phrase} (spelled : Spells row phrase)
    (filter : String) : HoldsStrings row (textsOf filter phrase) := by
  induction spelled with
  | noStages | noArgumentList | emptyArgumentList | noSegments | noItems | noEntries | shorthand =>
      exact .none _
  | expression _ _ inRoot inStages =>
      exact (inRoot.widen (by simp +contextual)).append (inStages.widen (by simp +contextual))
  | stage _ _ _ _ inArguments inRest =>
      exact (inArguments.widen (by simp +contextual)).append (inRest.widen (by simp +contextual))
  | @string word isString =>
      intro text member
      simp only [textsOf, Expr.ownText, Expr.inlineTexts, List.append_nil,
        List.mem_singleton] at member
      exact ⟨word, List.mem_singleton_self word, isString, member.symm⟩
  | number _ read =>
      rw [textsOf, ownText_of_readNumber read]
      exact .none _
  | keyword _ isKeyword =>
      rw [textsOf, ownText_of_keyword isKeyword]
      exact .none _
  | argumentList _ _ _ inside | path _ _ _ inside | array _ _ _ inside | object _ _ _ inside
  | property _ _ _ inside =>
      exact inside.widen (by simp +contextual)
  | group _ _ _ inside =>
      exact (inside.only fun _ => toExpr_texts_subset).widen (by simp +contextual)
  | numberProperties _ _ isProperties _ inRest =>
      rw [textsOf, segmentInlineTexts_of_numberProperties isProperties]
      exact inRest.widen (by simp +contextual)
  | index _ _ _ _ inKey inRest =>
      have keyTexts := inKey.only fun _ => toExpr_inlineTexts_subset
      exact (keyTexts.widen (by simp +contextual)).append (inRest.widen (by simp +contextual))
  | lastArgument _ inside | lastItem _ inside =>
      rw [textsOf, exprInlineTexts, exprInlineTexts, List.append_nil]
      exact inside.only fun _ => toExpr_inlineTexts_subset
  | argument _ _ _ inFirst inRest | item _ _ _ inFirst inRest =>
      have firstTexts := inFirst.only fun _ => toExpr_inlineTexts_subset
      exact (firstTexts.widen (by simp +contextual)).append (inRest.widen (by simp +contextual))
  | @lastEntry front entry _ inside =>
      obtain ⟨key, value⟩ := entry
      rw [textsOf, entryInlineTexts, entryInlineTexts, List.append_nil]
      exact inside
  | @entries comma front rest entry entries _ _ _ inFirst inRest =>
      obtain ⟨key, value⟩ := entry
      exact (inFirst.widen (by simp +contextual)).append (inRest.widen (by simp +contextual))
  | keyValue _ _ _ inside =>
      have valueTexts := inside.only fun _ => toExpr_inlineTexts_subset
      exact valueTexts.widen (by simp +contextual)

/-! ## Lengths -/

theorem length_unescape (escaped : Char) : (unescape escaped).length ≤ 2 := by
  unfold unescape
  repeat' split
  all_goals exact Nat.le_of_ble_eq_true rfl

/-- A string means no more characters than it is written with. -/
theorem length_decodeString (inside : List Char) : (decodeString inside).length ≤ inside.length := by
  fun_induction decodeString inside with
  | case1 => exact Nat.le_refl 0
  | case2 escaped rest inductionHypothesis =>
      have short := length_unescape escaped
      simp only [List.length_append, List.length_cons]
      omega
  | case3 char rest notEscape inductionHypothesis =>
      exact Nat.succ_le_succ inductionHypothesis

/-- The value of a string is shorter than its spelling by the quotes. -/
theorem Spelling.length_string {chars value : List Char} (spelled : Spelling .string chars value) :
    value.length + 2 ≤ chars.length := by
  cases spelled with
  | @string quote inside _ _ =>
      have short := length_decodeString inside
      simp only [List.length_cons, List.length_append, List.length_nil]
      omega
  | mark marked => exact absurd rfl (punctuation?_brace marked).2.2.1

/-- Every string token of a text is shorter than the text. -/
theorem Lexes.length_string {previous : Option TokenKind} {place : Position} {chars : List Char}
    {tokens : List Token} (lexed : Lexes previous place chars tokens) :
    ∀ token ∈ tokens, token.kind = .string → token.value.length + 2 ≤ chars.length := by
  induction lexed with
  | finish =>
      intro token member isString
      obtain rfl := List.mem_singleton.1 member
      cases isString
  | blank _ _ inductionHypothesis =>
      intro token member isString
      exact Nat.le_succ_of_le (inductionHypothesis token member isString)
  | @word previous place kind char more rest value tokens spelled _ inductionHypothesis =>
      intro token member isString
      rw [← List.cons_append, List.length_append]
      rcases List.mem_cons.1 member with rfl | member
      · cases isString
        have short := spelled.length_string
        rw [String.length_ofList]
        omega
      · have short := inductionHypothesis token member isString
        omega

/-- The inline templates of an expression are shorter than its text. -/
theorem length_of_readAt {place : Position} {content filter text : String} {pipeline : Pipeline}
    (read : Pipeline.readAt place content = .ok pipeline)
    (member : text ∈ textsOf filter (.expression pipeline)) : text.length + 2 ≤ content.length := by
  unfold Pipeline.readAt at read
  split at read
  · rename_i tokens lexed
    have derived := lexes_of_words lexed
    obtain ⟨row, finish, rfl, ends, unfinished⟩ := derived.ends
    have spelled := (Pipeline.ofTokens_eq_ok_iff unfinished ends).1 read
    obtain ⟨token, tokenMember, isString, rfl⟩ := spelled.holdsStrings filter text member
    have short := derived.length_string token (List.mem_append_left _ tokenMember) isString
    rwa [String.length_toList] at short
  · cases read

/-! ## Templates -/

theorem expression_of_prependLiteral {text : String} {nodes : List Node} {pipeline : Pipeline}
    {source : String} {line column : Int}
    (member : .expression pipeline source line column ∈ prependLiteral text nodes) :
    .expression pipeline source line column ∈ nodes := by
  unfold prependLiteral at member
  split at member
  · rcases List.mem_cons.1 member with isLiteral | later
    · cases isLiteral
    · exact List.mem_cons_of_mem _ later
  · rcases List.mem_cons.1 member with isLiteral | later
    · cases isLiteral
    · exact later

/-- The expressions of a template come from the expression tokens of its row. -/
theorem expression_of_nodesOfTokens {tokens : List Token} {nodes : List Node}
    (read : nodesOfTokens tokens = .ok nodes) {pipeline : Pipeline} {source : String}
    {line column : Int} (member : .expression pipeline source line column ∈ nodes) :
    ∃ token ∈ tokens, token.kind = .expression ∧
      Pipeline.readAt token.place token.value = .ok pipeline := by
  induction tokens generalizing nodes with
  | nil =>
      cases read
      cases member
  | cons token tokens inductionHypothesis =>
      rw [nodesOfTokens] at read
      have later : ∀ nodes', nodesOfTokens tokens = .ok nodes' →
          .expression pipeline source line column ∈ nodes' →
            ∃ other ∈ token :: tokens, other.kind = .expression ∧
              Pipeline.readAt other.place other.value = .ok pipeline := by
        intro nodes' laterRead laterMember
        obtain ⟨other, otherMember, found⟩ := inductionHypothesis laterRead laterMember
        exact ⟨other, List.mem_cons_of_mem token otherMember, found⟩
      split at read
      · obtain ⟨nodes', laterRead, read⟩ := bind_eq_ok.1 read
        cases read
        exact later nodes' laterRead (expression_of_prependLiteral member)
      · rename_i isExpression
        obtain ⟨node, nodeRead, read⟩ := bind_eq_ok.1 read
        obtain ⟨nodes', laterRead, read⟩ := bind_eq_ok.1 read
        cases read
        rcases List.mem_cons.1 member with isNode | laterMember
        · refine ⟨token, List.mem_cons_self, isExpression, ?_⟩
          rw [Node.ofExpression] at nodeRead
          split at nodeRead
          · rename_i pipeline' isRead
            cases nodeRead
            cases isNode
            exact isRead
          · cases nodeRead
        · exact later nodes' laterRead laterMember
      · cases read
        cases member
      · cases read

theorem length_of_pieces {place : Position} {chars : List Char} {tokens : List Token}
    (cut : pieces place chars = .ok tokens) :
    ∀ token ∈ tokens, token.kind = .expression → token.value.length + 4 ≤ chars.length := by
  fun_induction pieces place chars generalizing tokens with
  | case1 place =>
      cases cut
      intro token member isExpression
      obtain rfl := List.mem_singleton.1 member
      cases isExpression
  | case2 => cases cut
  | case3 => cases cut
  | case4 place rest content after found inner later laterCut =>
      rename_i inductionHypothesis
      cases cut
      have whole := congrArg List.length (append_of_spanExpression found)
      simp only [List.length_append, List.length_cons] at whole ⊢
      intro token member isExpression
      rcases List.mem_cons.1 member with rfl | member
      · rw [String.length_ofList]
        omega
      · have short := inductionHypothesis laterCut token member isExpression
        omega
  | case5 => cases cut
  | case6 place char rest notOpening text later laterCut =>
      rename_i inductionHypothesis
      cases cut
      have whole := length_spanLiteral rest
      intro token member isExpression
      rw [List.length_cons]
      rcases List.mem_cons.1 member with rfl | member
      · cases isExpression
      · have short := inductionHypothesis laterCut token member isExpression
        omega

/-- An inline template is shorter than the template that it is handed over in. -/
theorem length_of_inlineTemplates {text inner filter : String} {nodes : List Node}
    (read : parseTemplate text = .ok nodes) (member : inner ∈ inlineTemplates nodes filter) :
    inner.length < text.length := by
  unfold inlineTemplates at member
  obtain ⟨node, nodeMember, member⟩ := List.mem_flatMap.1 (List.mem_eraseDups.1 member)
  cases node with
  | literal literal => cases member
  | expression pipeline source line column =>
      unfold parseTemplate templateTokens at read
      split at read
      · rename_i tokens cut
        obtain ⟨token, tokenMember, isExpression, isRead⟩ :=
          expression_of_nodesOfTokens read nodeMember
        have short := length_of_pieces cut token tokenMember isExpression
        have shorter := length_of_readAt isRead (pipeline_texts_subset member)
        rw [String.length_toList] at short
        omega
      · cases read

end Folio.Template
