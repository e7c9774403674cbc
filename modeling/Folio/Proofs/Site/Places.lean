import Folio.Library
import Folio.Proofs.Page
import Folio.Proofs.Template.LongNumerals
import Folio.Proofs.Text.Split
import Folio.Proofs.Work

/-!
Contract: where errors stand in the text of a page.

Owns: rows of lines and the places behind them; that the front matter of a page and the blank lines behind it are
whole lines, as many as they are counted; and the law that a template is refused at a place of its own text, and
the body of a page at a place of the whole text of its file, under the name of the page, unless a numeral in it is
too long.

Does not own: where the template of an error came from, if it was no file.
-/

namespace Folio

open Folio.Text Folio.Template

/-! ## Lines -/

/-- Lines with their breaks. -/
def endedLines (lines : List (List Char)) : List Char :=
  lines.flatMap (· ++ ['\n'])

/-- No line has a break inside. -/
def AreLines (lines : List (List Char)) : Prop :=
  ∀ line ∈ lines, '\n' ∉ line

theorem areLines_splitOn (chars : List Char) : AreLines (splitOn '\n' chars) :=
  fun _ member => notMem_of_mem_splitOn member

theorem joinWith_append (front : List (List Char)) {back : List (List Char)} (nonempty : back ≠ []) :
    joinWith '\n' (front ++ back) = endedLines front ++ joinWith '\n' back := by
  induction front with
  | nil => rfl
  | cons line front inductionHypothesis =>
      have more : front ++ back ≠ [] := List.append_ne_nil_of_right_ne_nil front nonempty
      rw [List.cons_append, joinWith_cons _ _ more, inductionHypothesis]
      simp [endedLines]

/-- A text is its first lines with their breaks and what its other lines make up. -/
theorem chars_of_splitOn {chars : List Char} {front back : List (List Char)}
    (isSplit : splitOn '\n' chars = front ++ back) (nonempty : back ≠ []) :
    AreLines front ∧ chars = endedLines front ++ joinWith '\n' back := by
  constructor
  · intro line member
    refine areLines_splitOn chars line ?_
    rw [isSplit]
    exact List.mem_append_left back member
  · rw [← joinWith_append front nonempty, ← isSplit, joinWith_splitOn]

/-! ## Places behind lines -/

theorem placeBehind_endedLines {lines : List (List Char)} (areLines : AreLines lines) :
    placeBehind (endedLines lines) = ⟨(endedLines lines).length, 1 + lines.length, 1⟩ := by
  -- The last line decides on the column, so the row grows at its end.
  induction lines using List.reverseRecOn with
  | nil => rfl
  | append_singleton lines line inductionHypothesis =>
      have before := inductionHypothesis fun other member => areLines other (List.mem_append_left _ member)
      have unbroken : line.count '\n' = 0 :=
        List.count_eq_zero.2 (areLines line (List.mem_append_right _ List.mem_cons_self))
      have count : (endedLines lines).count '\n' = lines.length := by
        have sameLine := congrArg Position.line before
        change (1 + ((endedLines lines).count '\n' : Int)) = 1 + lines.length at sameLine
        omega
      have isEnded : endedLines (lines ++ [line]) = endedLines lines ++ line ++ ['\n'] := by
        simp [endedLines]
      have size : (lines ++ [line]).length = lines.length + 1 := List.length_append
      rw [isEnded, size]
      unfold placeBehind
      rw [lineStart_break, List.count_append, List.count_append, count, unbroken, List.count_singleton_self,
        List.length_append, List.length_singleton, Position.mk.injEq]
      omega

/-- A place of a text that stands behind whole lines: only its offset and its line move. -/
theorem past_behind_lines {lines : List (List Char)} (areLines : AreLines lines) (front : List Char) :
    Position.start.past (endedLines lines ++ front) =
      ⟨(Position.start.past front).offset + (endedLines lines).length,
        (Position.start.past front).line + lines.length, (Position.start.past front).column⟩ := by
  have counted : 1 ≤ Position.start.line := Int.le_refl 1
  have along := Relocation.along_behind (placeBehind (endedLines lines)) counted front
  rw [Relocation.behind_start] at along
  rw [Position.past_append, past_start (endedLines lines), ← along, placeBehind_endedLines areLines]
  have sameLine : 1 + (lines.length : Int) - 1 = lines.length := by omega
  have sameColumn : ∀ line column : Int, (if line = 1 then column + (1 - 1) else column) = column := by
    intro line column
    split
    · exact Int.add_zero column
    · rfl
  unfold Relocation.behind Relocation.apply
  dsimp only
  rw [sameLine, sameColumn]

/-! ## What stands in front of a body -/

/-- Whole lines, so many of them, and a rest make up a text. -/
def HasLinesBefore (text : String) (count : Nat) (rest : String) : Prop :=
  ∃ lines, AreLines lines ∧ lines.length = count ∧ text.toList = endedLines lines ++ rest.toList

theorem HasLinesBefore.trans {text middle rest : String} {count count' : Nat}
    (before : HasLinesBefore text count middle) (before' : HasLinesBefore middle count' rest) :
    HasLinesBefore text (count + count') rest := by
  obtain ⟨lines, areLines, rfl, isText⟩ := before
  obtain ⟨lines', areLines', rfl, isMiddle⟩ := before'
  refine ⟨lines ++ lines', ?_, List.length_append, ?_⟩
  · intro line member
    rcases List.mem_append.1 member with member | member
    · exact areLines line member
    · exact areLines' line member
  · rw [isText, isMiddle]
    simp [endedLines]

theorem HasLinesBefore.inside {text rest : String} {count : Nat} (before : HasLinesBefore text count rest) :
    rest.toList <:+: text.toList := by
  obtain ⟨lines, -, -, isText⟩ := before
  rw [isText]
  exact (List.suffix_append _ _).isInfix

namespace FrontMatter

theorem spanFence_split {lines inside after : List (List Char)} (found : spanFence lines = some (inside, after)) :
    ∃ closing, lines = inside ++ closing :: after := by
  induction lines generalizing inside with
  | nil => cases found
  | cons line lines inductionHypothesis =>
      rw [spanFence] at found
      split at found
      · cases found
        exact ⟨line, rfl⟩
      · obtain ⟨⟨inside', after'⟩, later, same⟩ := Option.map_eq_some_iff.1 found
        cases same
        obtain ⟨closing, rfl⟩ := inductionHypothesis later
        exact ⟨closing, rfl⟩

/-- A block is its two fences and the lines inside. -/
theorem blockLines_split {lines inside after : List (List Char)}
    (found : blockLines lines = some (inside, after)) :
    ∃ opening closing, lines = (opening :: (inside ++ [closing])) ++ after := by
  unfold blockLines at found
  split at found
  · rename_i opening first lines
    split at found
    · split at found
      · rename_i inside' after' later
        cases found
        obtain ⟨closing, rfl⟩ := spanFence_split later
        exact ⟨opening, closing, by simp⟩
      · split at found
        · cases found
          exact ⟨opening, first, rfl⟩
        · cases found
    · cases found
  · cases found

/-- Front matter keeps the size of its block. -/
theorem size_of_ofBlock {block : Block} {page : Option String} {matter : FrontMatter}
    (read : ofBlock block page = .ok matter) :
    matter.lineCount = block.lineCount ∧ matter.length = block.length := by
  unfold ofBlock at read
  split at read
  · cases read
    exact ⟨rfl, rfl⟩
  · obtain ⟨layout, -, isMatter⟩ := bind_eq_ok.1 (mapError_eq_ok.1 read)
    cases isMatter
    exact ⟨rfl, rfl⟩
  · cases read
  · cases read
  · cases read

/-- The front matter of a page is whole lines, as many as it counts. Where nothing follows the block there is no
body. -/
theorem linesBefore_of_parse {text rest : String} {page : Option String} {matter : Option FrontMatter}
    (parsed : FrontMatter.parse text page = .ok (matter, rest)) :
    rest = "" ∨ HasLinesBefore text (matter.elim 0 lineCount) rest := by
  unfold FrontMatter.parse at parsed
  split at parsed
  · cases parsed
    exact .inr ⟨[], fun _ member => absurd member List.not_mem_nil, rfl, rfl⟩
  · rename_i block found
    obtain ⟨matter', isMatter, same⟩ := bind_eq_ok.1 parsed
    cases same
    obtain ⟨⟨inside, after⟩, isBlock, rfl⟩ := Option.map_eq_some_iff.1 found
    obtain ⟨opening, closing, isSplit⟩ := blockLines_split isBlock
    cases after with
    | nil => exact .inl rfl
    | cons next after =>
        obtain ⟨areLines, isText⟩ := chars_of_splitOn isSplit (List.cons_ne_nil next after)
        refine .inr ⟨_, areLines, ?_, ?_⟩
        · change _ = matter'.lineCount
          rw [(size_of_ofBlock isMatter).1]
          simp
        · rw [String.toList_ofList]
          exact isText

/-- Front matter that is malformed is refused at the start of the text. -/
theorem place_of_malformed {text : String} {page : Option String} {error : SyntaxError}
    (failed : FrontMatter.parse text page = .error (.malformed error)) :
    error.place = .start ∧ error.page = page := by
  unfold FrontMatter.parse at failed
  split at failed
  · cases failed
  · rename_i block found
    rcases bind_eq_error.1 failed with unread | ⟨matter, -, read⟩
    · unfold ofBlock at unread
      split at unread
      · cases unread
      · obtain ⟨cause, -, isMishap⟩ := mapError_eq_error.1 unread
        cases isMishap
      · cases unread
        exact ⟨rfl, rfl⟩
      · cases unread
      · cases unread
        exact ⟨rfl, rfl⟩
    · cases read

end FrontMatter

namespace Page

theorem spanBlankLines_split {lines : List (List Char)} (nonempty : lines ≠ []) :
    ∃ dropped, lines = dropped ++ (spanBlankLines lines).2 ∧ dropped.length = (spanBlankLines lines).1 ∧
      (spanBlankLines lines).2 ≠ [] := by
  fun_induction spanBlankLines lines with
  | case1 line next lines isBlank count rest spanned inductionHypothesis =>
      obtain ⟨dropped, isRow, size, remains⟩ := inductionHypothesis (List.cons_ne_nil next lines)
      rw [spanned] at isRow size remains
      refine ⟨line :: dropped, ?_, congrArg (· + 1) size, remains⟩
      rw [isRow]
      rfl
  | case2 line next lines notBlank => exact ⟨[], rfl, rfl, List.cons_ne_nil _ _⟩
  | case3 lines => exact ⟨[], rfl, rfl, nonempty⟩

/-- The blank lines in front of a body are whole lines, as many as are counted. -/
theorem linesBefore_of_dropBlankLines (text : String) :
    HasLinesBefore text (dropBlankLines text).1 (dropBlankLines text).2 := by
  obtain ⟨dropped, isSplit, size, remains⟩ := spanBlankLines_split (splitOn_ne_nil '\n' text.toList)
  obtain ⟨areLines, isText⟩ := chars_of_splitOn isSplit remains
  refine ⟨dropped, areLines, size, ?_⟩
  unfold dropBlankLines
  rw [String.toList_ofList]
  exact isText

/-- A place of a body is moved to the place of the whole text that it is. -/
theorem isIn_of_inPage {text body id : String} {count : Nat} {error : SyntaxError}
    (before : HasLinesBefore text count body) (within : Within .start body.toList error.place) :
    (error.inPage id count (text.length - body.length : Nat)).place.IsIn text := by
  obtain ⟨lines, areLines, rfl, isText⟩ := before
  obtain ⟨front, back, isBody, isPlace⟩ := within
  have size : text.length - body.length = (endedLines lines).length := by
    rw [← String.length_toList, isText, List.length_append, String.length_toList]
    omega
  refine Within.isIn ⟨endedLines lines ++ front, back, ?_, ?_⟩
  · rw [isText, isBody, List.append_assoc]
  · rw [past_behind_lines areLines, ← isPlace, size]
    rfl

/-- A text of one line has no front matter, and none of it is dropped. -/
theorem read_of_line {text : String} (isLine : '\n' ∉ text.toList) :
    (∀ page, FrontMatter.parse text page = .ok (none, text)) ∧ dropBlankLines text = (0, text) := by
  have isSplit := splitOn_of_notMem isLine
  constructor
  · intro page
    unfold FrontMatter.parse FrontMatter.findBlock
    rw [isSplit]
    rfl
  · unfold dropBlankLines
    rw [isSplit]
    change (0, String.ofList text.toList) = _
    rw [String.ofList_toList]

theorem parse_under_matter {id path text rest : String} {matter : Option FrontMatter}
    (parsed : FrontMatter.parse text (some id) = .ok (matter, rest)) {fault : Fault}
    (failed : Page.parse id path text = .error fault) :
    ∃ fault', parseTemplate (dropBlankLines rest).2 = .error fault' ∧
      fault = locate fault' id (matter.elim 0 FrontMatter.lineCount + (dropBlankLines rest).1)
        (text.length - (dropBlankLines rest).2.length) := by
  rcases bind_eq_error.1 failed with unparsed | ⟨read, parsed', failed⟩
  · cases parsed.symm.trans unparsed
  · cases parsed.symm.trans parsed'
    rcases bind_eq_error.1 failed with refused | ⟨nodes, -, made⟩
    · obtain ⟨fault', unread, same⟩ := mapError_eq_error.1 refused
      exact ⟨fault', unread, same.symm⟩
    · cases made

/-- A page fails as its body does, with the place of the fault in the whole text. -/
theorem parse_of_unread {id text rest : String} {matter : Option FrontMatter}
    (parsed : FrontMatter.parse text (some id) = .ok (matter, rest)) {fault : Fault}
    (unread : parseTemplate (dropBlankLines rest).2 = .error fault) (path : String) :
    Page.parse id path text =
      .error (locate fault id (matter.elim 0 FrontMatter.lineCount + (dropBlankLines rest).1)
        (text.length - (dropBlankLines rest).2.length)) := by
  refine bind_eq_error.2 (.inr ⟨(matter, rest), parsed, bind_eq_error.2 (.inl ?_)⟩)
  exact mapError_eq_error.2 ⟨fault, unread, rfl⟩

/-- The body of a page fails at a place of its whole text, under the name of the page, or at a numeral that is too
long. -/
theorem place_of_parse {id path text rest : String} {matter : Option FrontMatter} {fault : Fault}
    (parsed : FrontMatter.parse text (some id) = .ok (matter, rest))
    (failed : Page.parse id path text = .error fault) :
    (∃ error, fault = .malformed error ∧ error.place.IsIn text ∧ error.page = some id) ∨
      IsLongNumeral text.toList fault := by
  obtain ⟨fault', read, rfl⟩ := parse_under_matter parsed failed
  rcases FrontMatter.linesBefore_of_parse parsed with rfl | before
  · -- Without a body there is nothing to refuse.
    have noNodes : parseTemplate (dropBlankLines "").2 = .ok [] := nodesAt_nil .start
    cases noNodes.symm.trans read
  · have bodyBefore := before.trans (linesBefore_of_dropBlankLines rest)
    rcases isFaultAt_of_parseTemplate read with ⟨error, rfl, within⟩ | ⟨cause, rfl⟩
    · exact .inl ⟨_, rfl, isIn_of_inPage bodyBefore within, rfl⟩
    · exact .inr ((isLongNumeral_of_parseTemplate read).mono bodyBefore.inside)

/-- Whatever is malformed in a page stands in its text, and is reported under its name. -/
theorem place_of_malformed {id path text : String} {error : SyntaxError}
    (failed : Page.parse id path text = .error (.malformed error)) :
    error.place.IsIn text ∧ error.page = some id := by
  cases parsed : FrontMatter.parse text (some id) with
  | ok read => exact holds_of_malformed (place_of_parse parsed failed)
  | error fault =>
      have isFault : Page.parse id path text = .error fault := bind_eq_error.2 (.inl parsed)
      cases isFault.symm.trans failed
      obtain ⟨isPlace, isPage⟩ := FrontMatter.place_of_malformed parsed
      rw [isPlace]
      exact ⟨Within.isIn (.start _ _), isPage⟩

end Page

/-! ## Pages of a library -/

theorem Library.of_firstText {source : Source} {paths : List String} {path text : String}
    (found : firstText source paths = .ok (some (path, text))) :
    path ∈ paths ∧ source.get? path = .ok (some text) := by
  induction paths with
  | nil => cases found
  | cons first paths inductionHypothesis =>
      obtain ⟨text', got, found⟩ := bind_eq_ok.1 found
      cases text' with
      | some text' =>
          cases found
          exact ⟨List.mem_cons_self, got⟩
      | none =>
          obtain ⟨member, isText⟩ := inductionHypothesis found
          exact ⟨List.mem_cons_of_mem first member, isText⟩

theorem Library.parse_of_readPage {library : Library} {id : String} {error : SyntaxError}
    (failed : library.readPage id = .error (.malformed error)) :
    ∃ path text, path ∈ library.candidatePaths id ∧ library.source.get? path = .ok (some text) ∧
      Page.parse id path text = .error (.malformed error) := by
  unfold readPage at failed
  rcases bind_eq_error.1 failed with unread | ⟨file, found, failed⟩
  · obtain ⟨cause, -, isMishap⟩ := mapError_eq_error.1 unread
    cases isMishap
  · cases file with
    | none => cases failed
    | some file =>
        obtain ⟨path, text⟩ := file
        obtain ⟨isPath, isText⟩ := of_firstText (mapError_eq_ok.1 found)
        rcases bind_eq_error.1 failed with refused | ⟨page, -, made⟩
        · exact ⟨path, text, isPath, isText, refused⟩
        · cases made

/-- A page that is malformed when it is got comes from a file under one of its paths. -/
theorem Library.parse_of_getPage {library : Library} {name kind : String} {cache : Cache} {error : SyntaxError}
    (failed : (library.getPage name kind cache).1 = .error (.malformed error)) :
    ∃ id path text, library.pageId name = .ok id ∧ path ∈ library.candidatePaths id ∧
      library.source.get? path = .ok (some text) ∧ Page.parse id path text = .error (.malformed error) := by
  rcases Work.bind_eq_error.1 failed with notFound | ⟨result, between, -, failed⟩
  · unfold findPage at notFound
    cases isId : library.pageId name with
    | error cause =>
        rw [isId] at notFound
        cases notFound
    | ok id =>
        rw [isId] at notFound
        have unread : library.readPage id = .error (.malformed error) := by
          unfold pageWithId at notFound
          dsimp only at notFound
          split at notFound
          · cases notFound
          · split at notFound
            · cases notFound
            · cases notFound
            · rename_i fault read
              cases notFound
              exact read
        obtain ⟨path, text, isPath, isText, parsed⟩ := parse_of_readPage unread
        exact ⟨id, path, text, rfl, isPath, isText, parsed⟩
  · cases result with
    | some page => cases failed
    | none => cases failed

/-- Errors of syntax stand where they say. A template that is refused is malformed at an offset of its text, with
the line and the column of that offset. The same holds for the body of a page whose front matter is accepted or
absent, with places that count from the start of the whole text, and under the name of the page. The one fault
without a place is that of a row of digits in the text which is longer than the limit on numerals. So a page that is
malformed when a library loads it is reported at a place of the text of its file. -/
theorem syntax_errors_are_placed (text : String) :
    (∀ fault, parseTemplate text = .error fault →
        (∃ error, fault = .malformed error ∧ error.place.IsIn text) ∨ IsLongNumeral text.toList fault) ∧
      (∀ id path matter rest fault, FrontMatter.parse text (some id) = .ok (matter, rest) →
        Page.parse id path text = .error fault →
          (∃ error, fault = .malformed error ∧ error.place.IsIn text ∧ error.page = some id) ∨
            IsLongNumeral text.toList fault) ∧
      ∀ (library : Library) name kind cache error,
        (library.getPage name kind cache).1 = .error (.malformed error) →
          ∃ id path file, library.pageId name = .ok id ∧ path ∈ library.candidatePaths id ∧
            library.source.get? path = .ok (some file) ∧ error.place.IsIn file ∧ error.page = some id := by
  refine ⟨?_, ?_, ?_⟩
  · intro fault failed
    rcases isFaultAt_of_parseTemplate failed with ⟨error, isMalformed, within⟩ | ⟨cause, rfl⟩
    · exact .inl ⟨error, isMalformed, within.isIn⟩
    · exact .inr (isLongNumeral_of_parseTemplate failed)
  · intro id path matter rest fault parsed failed
    exact Page.place_of_parse parsed failed
  · intro library name kind cache error failed
    obtain ⟨id, path, file, isId, isPath, isText, parsed⟩ := Library.parse_of_getPage failed
    exact ⟨id, path, file, isId, isPath, isText, Page.place_of_malformed parsed⟩

/-- The law for a string that does not end, and for a page whose front matter and blank lines end with carriage
returns: the seventh line and the fortieth offset of its file are named. -/
theorem syntax_errors_are_placed_at_page :
    let template := "a\n \x7b\x7b 'x \x7d\x7d"
    let unterminated : SyntaxError := ⟨.unterminatedInExpression, ⟨3, 2, 2⟩, none⟩
    let text := "---\r\ntitle: A\r\n---\r\n \r\n\t\nHi\r\n \x7b\x7b user | \x7d\x7d"
    let library : Library := ⟨.memory [("p.html", text)], ".html"⟩
    let unnamed : SyntaxError := ⟨.expectedFilterName, ⟨40, 7, 12⟩, some "p"⟩
    parseTemplate template = .error (.malformed unterminated) ∧ unterminated.place.IsIn template ∧
      (∃ matter rest, FrontMatter.parse text (some "p") = .ok (matter, rest)) ∧
      Page.parse "p" "p.html" text = .error (.malformed unnamed) ∧ unnamed.place.IsIn text ∧
      (library.getPage "p" Library.pageKind .empty).1 = .error (.malformed unnamed) ∧
      ∃ path file, library.source.get? path = .ok (some file) ∧ unnamed.place.IsIn file := by
  intro template unterminated text library unnamed
  obtain ⟨-, bodies, pages⟩ := syntax_errors_are_placed text
  have isUnterminated : parseTemplate template = .error (.malformed unterminated) :=
    map_eq_error.1 (show (parseTemplate template).map (fun _ => ()) = _ by decide +kernel)
  have isUnnamed : Page.parse "p" "p.html" text = .error (.malformed unnamed) :=
    map_eq_error.1 (show (Page.parse "p" "p.html" text).map (fun _ => ()) = _ by decide +kernel)
  have isGot : (library.getPage "p" Library.pageKind .empty).1 = .error (.malformed unnamed) :=
    map_eq_error.1
      (show (library.getPage "p" Library.pageKind .empty).1.map (fun _ => ()) = _ by decide +kernel)
  have accepted : (FrontMatter.parse text (some "p")).isOk = true := by decide +kernel
  have isPlaced : unterminated.place.IsIn template :=
    holds_of_malformed ((syntax_errors_are_placed template).1 _ isUnterminated)
  cases parsed : FrontMatter.parse text (some "p") with
  | error fault =>
      rw [parsed] at accepted
      cases accepted
  | ok read =>
      obtain ⟨matter, rest⟩ := read
      have isBody : unnamed.place.IsIn text ∧ unnamed.page = some "p" :=
        holds_of_malformed (bodies "p" "p.html" matter rest _ parsed isUnnamed)
      obtain ⟨id, path, file, -, -, isText, isIn, -⟩ := pages library "p" _ _ _ isGot
      exact ⟨isUnterminated, isPlaced, ⟨matter, rest, rfl⟩, isUnnamed, isBody.1, isGot, path, file, isText, isIn⟩

/-- A numeral with one digit more than the limit is refused without a place, in a template and in the body of a page
without front matter. -/
theorem syntax_errors_are_unplaced_at_long_numeral :
    let template := "\x7b\x7b " ++ String.ofList (List.replicate 4301 '1') ++ " \x7d\x7d"
    let fault : Fault := .mishap (.numeral (.tooLongToRead 4301))
    parseTemplate template = .error fault ∧ FrontMatter.parse template (some "p") = .ok (none, template) ∧
      Page.parse "p" "p.html" template = .error fault ∧ ∀ error, fault ≠ .malformed error := by
  intro template fault
  have ones : ∀ char ∈ List.replicate 4301 '1', char = '1' := fun _ => List.eq_of_mem_replicate
  have isRow : Number.IsDigitRow (List.replicate 4301 '1') := by
    refine ⟨?_, List.cons_ne_nil _ _⟩
    intro char member
    rw [ones char member]
    decide
  have size : (List.replicate 4301 '1').length = 4301 := List.length_replicate
  have failed : parseTemplate template = _ :=
    parseTemplate_long_row isRow (by rw [size]; decide)
  have isLine : '\n' ∉ template.toList := by
    intro isBreak
    simp only [template, String.toList_append, String.toList_ofList, List.mem_append] at isBreak
    rcases isBreak with (inFront | inRow) | behind
    · exact absurd inFront (by decide)
    · exact absurd (ones _ inRow) (by decide)
    · exact absurd behind (by decide)
  rw [size] at failed
  obtain ⟨noMatter, whole⟩ := Page.read_of_line isLine
  have unread : parseTemplate (Page.dropBlankLines template).2 = .error fault := by
    rw [whole]
    exact failed
  exact ⟨failed, noMatter (some "p"), Page.parse_of_unread (noMatter (some "p")) unread "p.html", fun _ => nofun⟩

end Folio
