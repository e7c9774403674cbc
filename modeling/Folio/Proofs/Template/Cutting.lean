import Folio.Proofs.Outcome
import Folio.Proofs.Template.Delimiters

/-!
Contract: reading a template in two parts.

Owns: moving the tokens and nodes of a template, the nodes of a text that starts at any place and how they
grow by one character or one expression, joining two rows of nodes, and the law that cutting a text in two
commutes with reading it.

Does not own: what a change of places does inside an expression.
-/

namespace Folio.Template

open Folio.Text

/-! ## Moving along a text -/

namespace Relocation

/-- Leaves every place as it is. -/
def stay : Relocation :=
  ⟨fun offset => offset, fun line _ => line, fun _ column => column⟩

/-- Moves the places of a text to where it stands behind another one that ends at a place. Only the first
line of the text is moved to the right. -/
def behind (last : Position) : Relocation :=
  ⟨fun offset => offset + last.offset, fun line _ => line + (last.line - 1),
    fun line column => if line = 1 then column + (last.column - 1) else column⟩

/-- Moving the start of a text moves every place in it. -/
def Along (move : Relocation) (place : Position) : Prop :=
  ∀ front, move.apply (place.past front) = (move.apply place).past front

variable {move : Relocation} {place : Position}

theorem Along.past (along : move.Along place) (front : List Char) : move.Along (place.past front) := by
  intro more
  rw [along front, ← Position.past_append, ← Position.past_append]
  exact along (front ++ more)

theorem tokens_stay (tokens : Except SyntaxError (List Token)) : stay.tokens tokens = tokens := by
  cases tokens with
  | error error => rfl
  | ok tokens => exact congrArg Except.ok (List.map_id tokens)

theorem behind_start (last : Position) : (behind last).apply .start = last := by
  simp only [behind, apply, Position.start, if_true]
  obtain ⟨offset, line, column⟩ := last
  simp only [Position.mk.injEq]
  omega

/-- A line break in the text behind ends its first line, and with it the move to the right. -/
theorem behind_after (last : Position) {place : Position} (counted : 1 ≤ place.line) (char : Char) :
    (behind last).apply (place.after char) = ((behind last).apply place).after char := by
  unfold Position.after
  by_cases isBreak : char = '\n'
  · rw [if_pos isBreak, if_pos isBreak]
    have later : place.line + 1 ≠ 1 := by omega
    simp only [behind, apply, if_neg later, Position.mk.injEq, and_true]
    omega
  · rw [if_neg isBreak, if_neg isBreak]
    by_cases isFirst : place.line = 1
    · simp only [behind, apply, isFirst, if_true, Position.mk.injEq, true_and]
      omega
    · simp only [behind, apply, if_neg isFirst, Position.mk.injEq, and_true]
      omega

theorem one_le_line_after {place : Position} (counted : 1 ≤ place.line) (char : Char) :
    1 ≤ (place.after char).line := by
  unfold Position.after
  split
  · change 1 ≤ place.line + 1
    omega
  · exact counted

theorem along_behind (last : Position) {place : Position} (counted : 1 ≤ place.line) :
    (behind last).Along place := by
  intro front
  induction front generalizing place with
  | nil => rfl
  | cons char front inductionHypothesis =>
      rw [Position.past_cons, Position.past_cons, ← behind_after last counted]
      exact inductionHypothesis (one_le_line_after counted char)

end Relocation

/-! ## Tokens and nodes of a moved text -/

section Moved

variable {move : Relocation} {place : Position}

theorem words_moved (along : move.Along place) (previous : Option TokenKind) (chars : List Char) :
    words previous (move.apply place) chars = move.tokens (words previous place chars) := by
  have carried : ∀ front, move.apply (place.past front) =
      Relocation.stay.apply ((move.apply place).past front) := along
  rw [words_relocate previous place (move.apply place) chars carried]
  exact (Relocation.tokens_stay _).symm

theorem Pipeline.readAt_moved (along : move.Along place) (text : String) :
    Pipeline.readAt (move.apply place) text =
      move.result (Pipeline.relocate move) (Pipeline.readAt place text) := by
  unfold Pipeline.readAt expressionTokens
  rw [words_moved along]
  cases words none place text.toList with
  | error error => rfl
  | ok tokens => exact Pipeline.ofTokens_relocate move tokens

def Node.relocate (move : Relocation) : Node → Node
  | .literal text => .literal text
  | .expression pipeline source line column =>
      .expression (pipeline.relocate move) source (move.line line column) (move.column line column)

theorem Node.ofExpression_moved {token : Token} (along : move.Along token.place) :
    Node.ofExpression (token.relocate move) =
      move.result (Node.relocate move) (Node.ofExpression token) := by
  unfold Node.ofExpression Token.relocate
  dsimp only
  rw [Pipeline.readAt_moved along]
  cases Pipeline.readAt token.place token.value with
  | error fault => rfl
  | ok pipeline => rfl

theorem prependLiteral_relocate (move : Relocation) (text : String) (nodes : List Node) :
    (prependLiteral text nodes).map (Node.relocate move) =
      prependLiteral text (nodes.map (Node.relocate move)) := by
  cases nodes with
  | nil => rfl
  | cons node nodes => cases node <;> rfl

theorem nodesOfTokens_moved {tokens : List Token} (along : ∀ token ∈ tokens, move.Along token.place) :
    nodesOfTokens (tokens.map (Token.relocate move)) =
      move.result (List.map (Node.relocate move)) (nodesOfTokens tokens) := by
  induction tokens with
  | nil => rfl
  | cons token tokens inductionHypothesis =>
      have later := inductionHypothesis fun other member => along other (List.mem_cons_of_mem token member)
      have node := Node.ofExpression_moved (along token List.mem_cons_self)
      have kind : (token.relocate move).kind = token.kind := rfl
      rw [List.map_cons, nodesOfTokens, nodesOfTokens, later, node, kind]
      cases token.kind with
      | text =>
          cases nodesOfTokens tokens with
          | error fault => rfl
          | ok nodes => exact congrArg Except.ok (prependLiteral_relocate move token.value nodes).symm
      | expression =>
          cases Node.ofExpression token with
          | error fault => rfl
          | ok node => cases nodesOfTokens tokens <;> rfl
      | _ => rfl

theorem pieces_of_unclosed {rest : List Char} {cause : SyntaxCause}
    (unclosed : spanExpression none 0 rest = .error cause) :
    pieces place ('{' :: '{' :: rest) = .error (.of cause place) := by
  rw [pieces]
  split
  · rename_i cause' failed
    cases unclosed.symm.trans failed
    rfl
  · rename_i found
    cases unclosed.symm.trans found

/-- Whether the delimiter of an expression stands in front. -/
def isOpening (char : Char) (rest : List Char) : Bool :=
  char == '{' && rest.head? == some '{'

theorem isOpening_iff {char : Char} {rest : List Char} :
    isOpening char rest = true ↔ char = '{' ∧ ∃ tail, rest = '{' :: tail := by
  simp [isOpening, List.head?_eq_some_iff]

theorem pieces_of_literal {char : Char} {rest : List Char} (literal : isOpening char rest = false) :
    pieces place (char :: rest) =
      (pieces (place.past (char :: (spanLiteral rest).1)) (spanLiteral rest).2).map
        (⟨.text, String.ofList (char :: (spanLiteral rest).1), place⟩ :: ·) := by
  rw [pieces]
  · cases pieces (place.past (char :: (spanLiteral rest).1)) (spanLiteral rest).2 with
    | error error => rfl
    | ok tokens => rfl
  · rintro tail rfl rfl
    cases literal

theorem Relocation.tokens_cons (move : Relocation) (token : Token)
    (tokens : Except SyntaxError (List Token)) :
    move.tokens (tokens.map (token :: ·)) = (move.tokens tokens).map (token.relocate move :: ·) := by
  cases tokens <;> rfl

/-- Where a text starts does not matter for how it is cut. The induction is on its length, since behind an
expression or a literal the cutting goes on with what is left. -/
theorem pieces_moved (along : move.Along place) (chars : List Char) :
    pieces (move.apply place) chars = move.tokens (pieces place chars) := by
  induction size : chars.length using Nat.strongRecOn generalizing place chars with
  | ind size inductionHypothesis =>
      cases chars with
      | nil =>
          rw [pieces, pieces]
          rfl
      | cons char rest =>
          rw [List.length_cons] at size
          by_cases opens : isOpening char rest = true
          · obtain ⟨rfl, tail, rfl⟩ := isOpening_iff.1 opens
            rcases closed : spanExpression none 0 tail with cause | ⟨content, after⟩
            · rw [pieces_of_unclosed closed, pieces_of_unclosed closed]
              rfl
            · have whole := congrArg List.length (append_of_spanExpression closed)
              simp only [List.length_append, List.length_cons] at whole size
              have inside := along.past ['{', '{']
              have later := inductionHypothesis after.length (by omega)
                ((inside.past content).past ['}', '}']) after rfl
              rw [pieces_of_expression closed, pieces_of_expression closed, Relocation.tokens_cons, ← later,
                Token.relocate, inside.past content, inside, along]
          · rw [Bool.not_eq_true] at opens
            have whole := length_spanLiteral rest
            have later := inductionHypothesis (spanLiteral rest).2.length (by omega)
              (along.past (char :: (spanLiteral rest).1)) (spanLiteral rest).2 rfl
            rw [pieces_of_literal opens, pieces_of_literal opens, Relocation.tokens_cons, ← later, along]
            rfl

/-- The tokens of a text start where the text has got to. -/
theorem along_of_pieces {chars : List Char} {tokens : List Token} (along : move.Along place)
    (cut : pieces place chars = .ok tokens) : ∀ token ∈ tokens, move.Along token.place := by
  fun_induction pieces place chars generalizing tokens with
  | case1 place =>
      cases cut
      intro token member
      obtain rfl := List.mem_singleton.1 member
      exact along
  | case2 => cases cut
  | case3 => cases cut
  | case4 place rest content after found inner later laterCut =>
      rename_i inductionHypothesis
      cases cut
      intro token member
      rcases List.mem_cons.1 member with rfl | member
      · exact along.past ['{', '{']
      · exact inductionHypothesis (((along.past _).past _).past _) laterCut token member
  | case5 => cases cut
  | case6 place char rest notOpening text later laterCut =>
      rename_i inductionHypothesis
      cases cut
      intro token member
      rcases List.mem_cons.1 member with rfl | member
      · exact along
      · exact inductionHypothesis (along.past text) laterCut token member

/-- The nodes of a template text that starts at a place. -/
def nodesAt (place : Position) (chars : List Char) : Except Fault (List Node) :=
  match pieces place chars with
  | .ok tokens => nodesOfTokens tokens
  | .error error => .error (.malformed error)

theorem parseTemplate_eq (text : String) : parseTemplate text = nodesAt .start text.toList := rfl

/-- A template gives the same nodes wherever it starts, with other places in them. -/
theorem nodesAt_moved (along : move.Along place) (chars : List Char) :
    nodesAt (move.apply place) chars =
      move.result (List.map (Node.relocate move)) (nodesAt place chars) := by
  unfold nodesAt
  rw [pieces_moved along]
  cases cut : pieces place chars with
  | error error => rfl
  | ok tokens => exact nodesOfTokens_moved (along_of_pieces along cut)

end Moved

/-! ## Nodes from the front -/

section Front

variable {place : Position} {rest content after : List Char}

theorem prependLiteral_twice (first second : String) (nodes : List Node) :
    prependLiteral first (prependLiteral second nodes) = prependLiteral (first ++ second) nodes := by
  cases nodes with
  | nil => rfl
  | cons node nodes =>
      cases node with
      | literal text => simp [prependLiteral, String.append_assoc]
      | expression pipeline source line column => rfl

theorem nodesAt_nil (place : Position) : nodesAt place [] = .ok [] := by
  rw [nodesAt, pieces]
  rfl

theorem nodesOfTokens_text (text : String) (start : Position) (tokens : List Token) :
    nodesOfTokens (⟨.text, text, start⟩ :: tokens) =
      (nodesOfTokens tokens).map (prependLiteral text) := by
  rw [nodesOfTokens]
  cases nodesOfTokens tokens <;> rfl

theorem nodesAt_span {char : Char} (literal : isOpening char rest = false) :
    nodesAt place (char :: rest) =
      (nodesAt (place.past (char :: (spanLiteral rest).1)) (spanLiteral rest).2).map
        (prependLiteral (String.ofList (char :: (spanLiteral rest).1))) := by
  unfold nodesAt
  rw [pieces_of_literal literal]
  cases pieces (place.past (char :: (spanLiteral rest).1)) (spanLiteral rest).2 with
  | error error => rfl
  | ok tokens => exact nodesOfTokens_text _ place tokens

theorem spanLiteral_of_opening (tail : List Char) :
    spanLiteral ('{' :: '{' :: tail) = ([], '{' :: '{' :: tail) := by
  rw [spanLiteral]

theorem spanLiteral_of_literal {char : Char} (literal : isOpening char rest = false) :
    spanLiteral (char :: rest) = (char :: (spanLiteral rest).1, (spanLiteral rest).2) := by
  rw [spanLiteral]
  rintro tail rfl rfl
  cases literal

/-- Text grows by one character at its front, whatever stands behind. -/
theorem nodesAt_literal {char : Char} (literal : isOpening char rest = false) :
    nodesAt place (char :: rest) =
      (nodesAt (place.after char) rest).map (prependLiteral (String.singleton char)) := by
  rw [nodesAt_span literal]
  cases rest with
  | nil => 
      rw [spanLiteral]
      rfl
  | cons next tail =>
      by_cases opens : isOpening next tail = true
      · obtain ⟨rfl, others, rfl⟩ := isOpening_iff.1 opens
        rw [spanLiteral_of_opening]
        rfl
      · rw [Bool.not_eq_true] at opens
        rw [nodesAt_span opens, spanLiteral_of_literal opens, Position.past_cons]
        cases nodesAt ((place.after char).past (next :: (spanLiteral tail).1)) (spanLiteral tail).2 with
        | error fault => rfl
        | ok nodes =>
            refine congrArg Except.ok ?_
            rw [prependLiteral_twice, String.ofList_cons]

theorem nodesAt_unclosed {cause : SyntaxCause} (unclosed : spanExpression none 0 rest = .error cause) :
    nodesAt place ('{' :: '{' :: rest) = .error (.malformed (.of cause place)) := by
  rw [nodesAt, pieces_of_unclosed unclosed]

/-- An expression that can be read comes in front of the nodes behind it, whatever they are. -/
theorem nodesAt_expression (found : spanExpression none 0 rest = .ok (content, after)) {node : Node}
    (read : Node.ofExpression ⟨.expression, String.ofList content, place.past ['{', '{']⟩ = .ok node) :
    nodesAt place ('{' :: '{' :: rest) =
      (nodesAt (((place.past ['{', '{']).past content).past ['}', '}']) after).map (node :: ·) := by
  unfold nodesAt
  rw [pieces_of_expression found]
  cases pieces (((place.past ['{', '{']).past content).past ['}', '}']) after with
  | error error => rfl
  | ok tokens =>
      change nodesOfTokens (_ :: tokens) = (nodesOfTokens tokens).map (node :: ·)
      rw [nodesOfTokens]
      dsimp only
      rw [read]
      cases nodesOfTokens tokens <;> rfl

/-- The first expression of a template that can be read can be read itself. -/
theorem ofExpression_of_nodesAt (found : spanExpression none 0 rest = .ok (content, after))
    {nodes : List Node} (read : nodesAt place ('{' :: '{' :: rest) = .ok nodes) :
    ∃ node, Node.ofExpression ⟨.expression, String.ofList content, place.past ['{', '{']⟩ = .ok node := by
  unfold nodesAt at read
  rw [pieces_of_expression found] at read
  generalize pieces (((place.past ['{', '{']).past content).past ['}', '}']) after = later at read
  cases later with
  | error error => cases read
  | ok tokens =>
      change nodesOfTokens (_ :: tokens) = _ at read
      rw [nodesOfTokens] at read
      obtain ⟨node, nodeRead, -⟩ := bind_eq_ok.1 read
      exact ⟨node, nodeRead⟩

end Front

/-! ## Joining -/

/-- Two rows of nodes, one behind the other; two literals that meet become one. -/
def joinRows : List Node → List Node → List Node
  | [], back => back
  | [.literal text], back => prependLiteral text back
  | node :: front, back => node :: joinRows front back

theorem joinRows_expression (pipeline : Pipeline) (source : String) (line column : Int)
    (front back : List Node) :
    joinRows (.expression pipeline source line column :: front) back =
      .expression pipeline source line column :: joinRows front back := by
  rw [joinRows]
  intro text isLiteral
  cases isLiteral

theorem joinRows_ofExpression {token : Token} {node : Node} (read : Node.ofExpression token = .ok node)
    (front back : List Node) : joinRows (node :: front) back = node :: joinRows front back := by
  unfold Node.ofExpression at read
  split at read
  · cases read
    exact joinRows_expression _ _ _ _ front back
  · cases read

theorem joinRows_prependLiteral (text : String) (front back : List Node) :
    joinRows (prependLiteral text front) back = prependLiteral text (joinRows front back) := by
  cases front with
  | nil => rfl
  | cons node front =>
      cases node with
      | expression pipeline source line column =>
          rw [joinRows_expression]
          change joinRows (.literal text :: .expression pipeline source line column :: front) back = _
          rw [joinRows, joinRows_expression]
          · rfl
          · intro _ _ isEmpty
            cases isEmpty
      | literal next =>
          cases front with
          | nil => exact (prependLiteral_twice text next back).symm
          | cons other front => rfl

/-! ## Cutting -/

theorem spanExpression_nil (quote : Option Char) (depth : Nat) (split : List Char × List Char) :
    spanExpression quote depth [] ≠ .ok split := by
  intro found
  cases quote <;> cases found

/-- The end of an expression that is found in a text is found whatever follows the text. -/
theorem spanExpression_append {quote : Option Char} {depth : Nat} {chars content rest : List Char}
    (found : spanExpression quote depth chars = .ok (content, rest)) (back : List Char) :
    spanExpression quote depth (chars ++ back) = .ok (content, rest ++ back) := by
  fun_induction spanExpression quote depth chars generalizing content with
  | case1 => cases found
  | case2 => cases found
  | case3 quote depth shielded tail inductionHypothesis =>
      obtain ⟨_, rfl, shieldedFound⟩ := keepChar_eq_ok.1 found
      obtain ⟨_, rfl, tailFound⟩ := keepChar_eq_ok.1 shieldedFound
      rw [List.cons_append, List.cons_append, spanExpression]
      exact keepChar_eq_ok.2 ⟨_, rfl, keepChar_eq_ok.2 ⟨_, rfl, inductionHypothesis tailFound⟩⟩
  | case4 quote depth char tail notEscape inductionHypothesis =>
      obtain ⟨inside, rfl, tailFound⟩ := keepChar_eq_ok.1 found
      rw [List.cons_append, spanExpression]
      · exact keepChar_eq_ok.2 ⟨inside, rfl, inductionHypothesis tailFound⟩
      · intro shielded others isBackslash isTail
        cases tail with
        | nil => exact spanExpression_nil _ depth _ tailFound
        | cons next tail => exact notEscape next tail isBackslash rfl
  | case5 tail =>
      cases found
      rfl
  | case6 depth char tail notClosing inductionHypothesis =>
      obtain ⟨inside, rfl, tailFound⟩ := keepChar_eq_ok.1 found
      rw [List.cons_append, spanExpression]
      · exact keepChar_eq_ok.2 ⟨inside, rfl, inductionHypothesis tailFound⟩
      · intro others isOutside isBrace isTail
        cases tail with
        | nil => exact spanExpression_nil _ _ _ tailFound
        | cons next tail =>
            cases isTail
            exact notClosing tail isOutside isBrace rfl

/-- A cut goes through the delimiter of an expression if one of its braces stands on either side. -/
def CutsDelimiter (front back : List Char) : Prop :=
  front.getLast? = some '{' ∧ back.head? = some '{'

theorem CutsDelimiter.append {front back : List Char} (ahead : List Char)
    (cuts : CutsDelimiter front back) : CutsDelimiter (ahead ++ front) back := by
  refine ⟨?_, cuts.2⟩
  rw [List.getLast?_append, cuts.1]
  rfl

theorem isOpening_append {char : Char} {rest back : List Char} (literal : isOpening char rest = false)
    (uncut : ¬CutsDelimiter (char :: rest) back) : isOpening char (rest ++ back) = false := by
  cases rest with
  | nil =>
      rw [Bool.eq_false_iff]
      intro opens
      obtain ⟨rfl, tail, isBack⟩ := isOpening_iff.1 opens
      refine uncut ⟨rfl, ?_⟩
      rw [List.nil_append] at isBack
      rw [isBack]
      rfl
  | cons next rest => exact literal

/-- Behind a text that can be read, the nodes of what follows are those that it has there by itself. -/
theorem nodesAt_append {place : Position} {front back : List Char} {nodes : List Node}
    (read : nodesAt place front = .ok nodes) (uncut : ¬CutsDelimiter front back) :
    nodesAt place (front ++ back) = (nodesAt (place.past front) back).map (joinRows nodes) := by
  induction size : front.length using Nat.strongRecOn generalizing place front nodes with
  | ind size inductionHypothesis =>
      cases front with
      | nil =>
          rw [nodesAt_nil] at read
          cases read
          rw [List.nil_append, Position.past_nil]
          cases nodesAt place back <;> rfl
      | cons char rest =>
          rw [List.length_cons] at size
          by_cases opens : isOpening char rest = true
          · obtain ⟨rfl, tail, rfl⟩ := isOpening_iff.1 opens
            rcases closed : spanExpression none 0 tail with cause | ⟨content, after⟩
            · rw [nodesAt_unclosed closed] at read
              cases read
            · obtain ⟨node, nodeRead⟩ := ofExpression_of_nodesAt closed read
              have isTail := append_of_spanExpression closed
              have whole := congrArg List.length isTail
              simp only [List.length_append, List.length_cons] at whole size
              have laterUncut : ¬CutsDelimiter after back := by
                intro cuts
                apply uncut
                have cutsTail := cuts.append ('{' :: '{' :: (content ++ ['}', '}']))
                rw [← isTail]
                simpa using cutsTail
              have ends : place.past ('{' :: '{' :: tail) =
                  (((place.past ['{', '{']).past content).past ['}', '}']).past after := by
                rw [← isTail, ← Position.past_append, ← Position.past_append, ← Position.past_append]
                simp only [List.cons_append, List.nil_append]
              have closedToo := spanExpression_append closed back
              rw [nodesAt_expression closed nodeRead] at read
              obtain ⟨others, othersRead, rfl⟩ := map_eq_ok.1 read
              have later := inductionHypothesis after.length (by omega) othersRead laterUncut rfl
              rw [List.cons_append, List.cons_append, nodesAt_expression closedToo nodeRead, later, ends]
              have same := joinRows_ofExpression nodeRead others
              generalize nodesAt _ back = behind
              cases behind with
              | error fault => rfl
              | ok found => exact congrArg Except.ok (same found).symm
          · rw [Bool.not_eq_true] at opens
            have laterUncut : ¬CutsDelimiter rest back := fun cuts => uncut (cuts.append [char])
            rw [nodesAt_literal opens] at read
            obtain ⟨others, othersRead, rfl⟩ := map_eq_ok.1 read
            have later := inductionHypothesis rest.length (by omega) othersRead laterUncut rfl
            rw [List.cons_append, nodesAt_literal (isOpening_append opens uncut), later, Position.past_cons]
            generalize nodesAt _ back = behind
            cases behind with
            | error fault => rfl
            | ok found => exact congrArg Except.ok (joinRows_prependLiteral _ others found).symm

/-- Cutting a template in two commutes with reading it, unless the cut goes through a delimiter. Behind a
front that can be read, the nodes of the back follow, moved to where the front ends, with two literals that
meet at the cut joined; and what is wrong with the back is wrong with the whole, at the moved place. -/
theorem parseTemplate_append {front back : String} {nodes : List Node}
    (read : parseTemplate front = .ok nodes) (uncut : ¬CutsDelimiter front.toList back.toList) :
    (∀ found, parseTemplate back = .ok found → parseTemplate (front ++ back) =
        .ok (joinRows nodes (found.map (Node.relocate (.behind (Position.start.past front.toList)))))) ∧
      ∀ fault, parseTemplate back = .error fault → parseTemplate (front ++ back) =
        .error (relocateFault (.behind (Position.start.past front.toList)) fault) := by
  have along : (Relocation.behind (Position.start.past front.toList)).Along .start :=
    Relocation.along_behind _ (Int.le_refl 1)
  have moved := nodesAt_moved along back.toList
  rw [Relocation.behind_start] at moved
  have whole := nodesAt_append read uncut
  rw [moved, ← String.toList_append, ← parseTemplate_eq] at whole
  constructor
  · intro found backRead
    rw [parseTemplate_eq] at backRead
    rw [whole, backRead]
    rfl
  · intro fault backFailed
    rw [parseTemplate_eq] at backFailed
    rw [whole, backFailed]
    rfl

/-- The law where a brace ends the front: behind it, text goes on and the places of an expression on the
first line are moved to the right; and an expression on the second line of another back is not closed. -/
theorem parseTemplate_append_at_brace :
    parseTemplate ("a\n\x7b\x7b x \x7d\x7db\x7b" ++ "c\x7b\x7b y|f \x7d\x7d") =
        .ok [.literal "a\n", .expression ⟨.path "x" [], []⟩ "x" 2 3, .literal "b\x7bc",
          .expression ⟨.path "y" [], [.mk "f" [] 2 16]⟩ "y|f" 2 13] ∧
      parseTemplate ("a\n\x7b\x7b x \x7d\x7db\x7b" ++ "\n\x7b\x7b y") =
        .error (.malformed ⟨.unclosedExpression, ⟨12, 3, 1⟩, none⟩) := by
  have read : parseTemplate "a\n\x7b\x7b x \x7d\x7db\x7b" =
      .ok [.literal "a\n", .expression ⟨.path "x" [], []⟩ "x" 2 3, .literal "b\x7b"] := by
    have cut : templateTokens "a\n\x7b\x7b x \x7d\x7db\x7b" = .ok [⟨.text, "a\n", ⟨0, 1, 1⟩⟩,
        ⟨.expression, " x ", ⟨4, 2, 3⟩⟩, ⟨.text, "b\x7b", ⟨9, 2, 8⟩⟩, ⟨.finish, "", ⟨11, 2, 10⟩⟩] := by
      decide +kernel
    have lexed : expressionTokens ⟨4, 2, 3⟩ " x " =
        .ok [⟨.identifier, "x", ⟨5, 2, 4⟩⟩, ⟨.finish, "", ⟨7, 2, 6⟩⟩] := by decide +kernel
    have stripped : stripText " x " = "x" := by decide
    simp only [parseTemplate, cut, nodesOfTokens, Node.ofExpression, Pipeline.readAt, lexed, stripped]
    rfl
  have continued : parseTemplate "c\x7b\x7b y|f \x7d\x7d" =
      .ok [.literal "c", .expression ⟨.path "y" [], [.mk "f" [] 1 7]⟩ "y|f" 1 4] := by
    have cut : templateTokens "c\x7b\x7b y|f \x7d\x7d" = .ok [⟨.text, "c", ⟨0, 1, 1⟩⟩,
        ⟨.expression, " y|f ", ⟨3, 1, 4⟩⟩, ⟨.finish, "", ⟨10, 1, 11⟩⟩] := by decide +kernel
    have lexed : expressionTokens ⟨3, 1, 4⟩ " y|f " =
        .ok [⟨.identifier, "y", ⟨4, 1, 5⟩⟩, ⟨.pipe, "|", ⟨5, 1, 6⟩⟩, ⟨.identifier, "f", ⟨6, 1, 7⟩⟩,
          ⟨.finish, "", ⟨8, 1, 9⟩⟩] := by decide +kernel
    have stripped : stripText " y|f " = "y|f" := by decide
    simp only [parseTemplate, cut, nodesOfTokens, Node.ofExpression, Pipeline.readAt, lexed, stripped]
    rfl
  have unclosed : parseTemplate "\n\x7b\x7b y" =
      .error (.malformed ⟨.unclosedExpression, ⟨1, 2, 1⟩, none⟩) := by
    have cut : templateTokens "\n\x7b\x7b y" = .error ⟨.unclosedExpression, ⟨1, 2, 1⟩, none⟩ := by
      decide +kernel
    rw [parseTemplate, cut]
  constructor
  · exact (parseTemplate_append read (by simp [CutsDelimiter])).1 _ continued
  · exact (parseTemplate_append read (by simp [CutsDelimiter])).2 _ unclosed

end Folio.Template
