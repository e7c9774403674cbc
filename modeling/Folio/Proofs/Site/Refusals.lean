import Folio.CommandLine.Argument
import Folio.Proofs.Audit.Reports
import Folio.Proofs.Settings

/-!
Contract: YAML that cannot be read, at each place where a site reads some.

Owns: texts that YAML refuses, and texts in which it meets something that does not exist; that front matter,
settings and arguments of the command line report the first kind as errors of their own, or take the text as it
is; and that an audit tells each page whose front matter is refused.

A date that does not exist is of the second kind, and ends the reading as the failure that it is.
-/

namespace Folio

open Folio.Text Folio.Template

/-! ## Texts without a value -/

namespace Yaml

/-- The text is refused for its form, or for a key that stands twice. -/
def IsRefused (text : String) : Prop :=
  load text = .error .malformed ∨ load text = .error .repeatedKey

/-- The text looks right, and holds something that does not exist. -/
def FailsWith (text : String) (cause : Mishap) : Prop :=
  load text = .error (.mishap cause)

end Yaml

/-! ## Front matter -/

namespace FrontMatter

/-- YAML refuses the block, or it is no mapping. -/
def IsRefusedBlock (block : Block) (cause : SyntaxCause) : Prop :=
  (Yaml.IsRefused (String.ofList block.content) ∧ cause = .invalidFrontMatter) ∨
    ∃ value, Yaml.load (String.ofList block.content) = .ok value ∧ value ≠ .null ∧
      (∀ entries, value ≠ .map entries) ∧ cause = .frontMatterNotMapping

/-- The block holds something that does not exist, or names a layout that has no text. -/
def BlockFailsWith (block : Block) (cause : Mishap) : Prop :=
  Yaml.FailsWith (String.ofList block.content) cause ∨
    ∃ entries, Yaml.load (String.ofList block.content) = .ok (.map entries) ∧
      layoutOf ((Entries.named? entries layoutKey).getD .null) = .error cause

/-- The text has a block that is refused. -/
def IsRefused (text : String) (cause : SyntaxCause) : Prop :=
  ∃ block, findBlock text.toList = some block ∧ IsRefusedBlock block cause

/-- The text has a block that fails. -/
def FailsWith (text : String) (cause : Mishap) : Prop :=
  ∃ block, findBlock text.toList = some block ∧ BlockFailsWith block cause

theorem ofEntries_eq_error {entries : Entries} {lineCount length : Nat} {cause : Mishap} :
    ofEntries entries lineCount length = .error cause ↔
      layoutOf ((Entries.named? entries layoutKey).getD .null) = .error cause := by
  constructor
  · intro failed
    rcases bind_eq_error.1 failed with failed | ⟨layout, -, made⟩
    · exact failed
    · cases made
  · intro failed
    exact bind_eq_error.2 (.inl failed)

theorem ofBlock_eq_error {block : Block} {page : Option String} {fault : Fault} :
    ofBlock block page = .error fault ↔
      (∃ cause, IsRefusedBlock block cause ∧ fault = faultAt page cause) ∨
        ∃ cause, BlockFailsWith block cause ∧ fault = .mishap cause := by
  unfold ofBlock
  constructor
  · intro failed
    split at failed
    · cases failed
    · rename_i entries loaded
      obtain ⟨cause, unlaid, rfl⟩ := mapError_eq_error.1 failed
      exact .inr ⟨cause, .inr ⟨entries, loaded, ofEntries_eq_error.1 unlaid⟩, rfl⟩
    · rename_i value notNull notMap loaded
      cases failed
      exact .inl ⟨_, .inr ⟨value, loaded, notNull, notMap, rfl⟩, rfl⟩
    · rename_i cause loaded
      cases failed
      exact .inr ⟨cause, .inl loaded, rfl⟩
    · rename_i error notMishap loaded
      cases failed
      refine .inl ⟨_, .inl ⟨?_, rfl⟩, rfl⟩
      cases error with
      | malformed => exact .inl loaded
      | repeatedKey => exact .inr loaded
      | mishap cause => exact absurd rfl (notMishap cause)
  · rintro (⟨_, refused, rfl⟩ | ⟨cause, failed, rfl⟩)
    · rcases refused with ⟨malformed | repeatedKey, rfl⟩ | ⟨value, loaded, notNull, notMap, rfl⟩
      · rw [malformed]
      · rw [repeatedKey]
      · rw [loaded]
        cases value with
        | null => exact absurd rfl notNull
        | map entries => exact absurd rfl (notMap entries)
        | _ => rfl
    · rcases failed with failed | ⟨entries, loaded, unlaid⟩
      · rw [failed]
      · rw [loaded]
        exact mapError_eq_error.2 ⟨cause, ofEntries_eq_error.2 unlaid, rfl⟩

/-- Front matter is an error just where it is refused, which is reported for the page, or fails, which is not
renamed. -/
theorem parse_eq_error {text : String} {page : Option String} {fault : Fault} :
    FrontMatter.parse text page = .error fault ↔
      (∃ cause, IsRefused text cause ∧ fault = faultAt page cause) ∨
        ∃ cause, FailsWith text cause ∧ fault = .mishap cause := by
  unfold FrontMatter.parse IsRefused FailsWith
  cases findBlock text.toList with
  | none => simp
  | some block =>
      have isBlock (holds : Block → Prop) :
          (∃ other, some block = some other ∧ holds other) ↔ holds block := by simp
      simp only [isBlock]
      rw [← ofBlock_eq_error, bind_eq_error]
      constructor
      · rintro (failed | ⟨matter, -, made⟩)
        · exact failed
        · cases made
      · exact .inl

end FrontMatter

/-! ## Settings -/

namespace Settings

/-- The text holds something that does not exist, or the first of its keys that is not known has no text. -/
def FailsWith (text source : String) (cause : Mishap) : Prop :=
  Yaml.FailsWith text cause ∨
    ∃ front entry back, Yaml.load text = .ok (.map (front ++ entry :: back)) ∧
      (∀ known ∈ front, checkEntry source known = .ok ()) ∧ entry.1.spelled = .error cause

/-- Settings are refused as such, or fail for what does not exist. -/
theorem parse_eq_error {text source : String} {fault : Fault} (failed : parse text source = .error fault) :
    (∃ error, fault = .settings error) ∨ ∃ cause, FailsWith text source cause ∧ fault = .mishap cause := by
  unfold parse at failed
  split at failed
  · cases failed
  · rename_i entries loaded
    rcases ofEntries_eq_error failed with isSettings | ⟨front, entry, back, cause, rfl, known, unspelled, rfl⟩
    · exact .inl isSettings
    · exact .inr ⟨cause, .inr ⟨front, entry, back, loaded, known, unspelled⟩, rfl⟩
  · cases failed
    exact .inl ⟨_, rfl⟩
  · cases failed
    exact .inl ⟨_, rfl⟩
  · cases failed
    exact .inl ⟨_, rfl⟩
  · rename_i cause loaded
    cases failed
    exact .inr ⟨cause, .inl loaded, rfl⟩

theorem parse_of_failsWith {text source : String} {cause : Mishap} (fails : FailsWith text source cause) :
    parse text source = .error (.mishap cause) := by
  unfold parse
  rcases fails with failed | ⟨front, entry, back, loaded, known, unspelled⟩
  · rw [failed]
  · rw [loaded]
    have unchecked : checkEntry source entry = .error (.mishap cause) := checkEntry_eq_mishap.2 unspelled
    exact bind_eq_error.2 (.inl (forM_eq_error.2 ⟨front, entry, back, rfl, known, unchecked⟩))

/-- The settings of a file are refused as such, or fail for what does not exist, just where the text of the file
fails so. -/
theorem load_eq_error {tree : FileTree} {location : Location} :
    (∀ fault, load tree location = .error fault →
        (∃ error, fault = .settings error) ∨ ∃ cause, fault = .mishap cause) ∧
      ∀ cause, load tree location = .error (.mishap cause) ↔
        ∃ text, location.file? tree = some text ∧ FailsWith text location.text cause := by
  unfold load
  cases location.file? tree with
  | none =>
      constructor
      · intro fault failed
        cases failed
      · intro cause
        constructor
        · intro failed
          cases failed
        · rintro ⟨text, isText, -⟩
          cases isText
  | some text =>
      constructor
      · intro fault failed
        rcases parse_eq_error failed with isSettings | ⟨cause, -, isMishap⟩
        · exact .inl isSettings
        · exact .inr ⟨cause, isMishap⟩
      · intro cause
        constructor
        · intro failed
          rcases parse_eq_error failed with ⟨error, isSettings⟩ | ⟨cause', fails, same⟩
          · cases isSettings
          · cases same
            exact ⟨text, rfl, fails⟩
        · rintro ⟨_, isText, fails⟩
          cases isText
          exact parse_of_failsWith fails

end Settings

/-! ## Arguments of the command line -/

namespace CommandLine

/-- An item with a name, an equals sign, and what is given behind it. -/
def IsArgument (item name raw : String) : Prop :=
  ∃ front, '=' ∉ front ∧ item.toList = front ++ '=' :: raw.toList ∧ name = stripText (String.ofList front) ∧
    name ≠ ""

/-- What a text that is given stands for: itself where it is blank or YAML refuses it, else its value. -/
def IsGiven (raw : String) (value : Value) : Prop :=
  if isBlankText raw then value = .str raw
  else Yaml.load raw = .ok value ∨ (Yaml.IsRefused raw ∧ value = .str raw)

theorem splitArgument?_of_isArgument {item : String} {front : List Char} {raw : String} (unmarked : '=' ∉ front)
    (isItem : item.toList = front ++ '=' :: raw.toList) :
    splitArgument? item = some (String.ofList front, raw) := by
  have before : ∀ char ∈ front, decide (char ≠ '=') = true := by
    intro char member
    exact decide_eq_true fun isMark => unmarked (isMark ▸ member)
  unfold splitArgument?
  rw [isItem]
  dsimp only
  rw [List.dropWhile_append_of_pos before, List.takeWhile_append_of_pos before]
  simp

theorem parseArgument_of_isArgument {item name raw : String} (isArgument : IsArgument item name raw) :
    parseArgument item = (argumentValue raw).map fun value => (name, value) := by
  obtain ⟨front, unmarked, isItem, rfl, nonempty⟩ := isArgument
  unfold parseArgument
  rw [splitArgument?_of_isArgument unmarked isItem]
  dsimp only
  rw [if_neg (by simpa using nonempty)]

theorem argumentValue_cases (raw : String) :
    (∃ value, argumentValue raw = .ok value ∧ IsGiven raw value) ∨
      ∃ cause, argumentValue raw = .error cause ∧ isBlankText raw = false ∧ Yaml.FailsWith raw cause := by
  unfold argumentValue IsGiven Yaml.IsRefused Yaml.FailsWith
  by_cases isBlank : isBlankText raw = true
  · rw [if_pos isBlank]
    exact .inl ⟨_, rfl, by rw [if_pos isBlank]⟩
  · rw [if_neg isBlank]
    simp only [if_neg isBlank]
    cases Yaml.load raw with
    | ok value => exact .inl ⟨value, rfl, .inl rfl⟩
    | error error =>
        cases error with
        | malformed => exact .inl ⟨_, rfl, .inr ⟨.inl rfl, rfl⟩⟩
        | repeatedKey => exact .inl ⟨_, rfl, .inr ⟨.inr rfl, rfl⟩⟩
        | mishap cause => exact .inr ⟨cause, rfl, Bool.eq_false_iff.2 isBlank, rfl⟩

/-- Arguments are read one by one. All have values, or one of them fails for what does not exist. -/
theorem parseArguments_cases {items : List String}
    (areArguments : ∀ item ∈ items, ∃ name raw, IsArgument item name raw) :
    (∃ pairs : List (String × Value), parseArguments items = .ok (argumentEntries pairs) ∧
        List.Forall₂ (fun item pair => ∃ raw, IsArgument item pair.1 raw ∧ IsGiven raw pair.2) items pairs) ∨
      ∃ item ∈ items, ∃ name raw cause, IsArgument item name raw ∧ isBlankText raw = false ∧
        Yaml.FailsWith raw cause ∧ parseArguments items = .error cause := by
  cases mapped : items.mapM parseArgument with
  | ok pairs =>
      refine .inl ⟨pairs, by rw [parseArguments, mapped]; rfl, ?_⟩
      refine ((List.forall₂_and_left _ _).2 ⟨areArguments, forall₂_of_mapM mapped⟩).imp ?_
      rintro item pair ⟨⟨name, raw, isArgument⟩, parsed⟩
      rw [parseArgument_of_isArgument isArgument] at parsed
      obtain ⟨value, isValue, rfl⟩ := map_eq_ok.1 parsed
      rcases argumentValue_cases raw with ⟨value', isValue', isGiven⟩ | ⟨cause, unread, -, -⟩
      · cases isValue.symm.trans isValue'
        exact ⟨raw, isArgument, isGiven⟩
      · cases isValue.symm.trans unread
  | error cause =>
      obtain ⟨item, member, failed⟩ := exists_of_mapM_error mapped
      obtain ⟨name, raw, isArgument⟩ := areArguments item member
      rw [parseArgument_of_isArgument isArgument] at failed
      refine .inr ⟨item, member, name, raw, cause, isArgument, ?_⟩
      rcases argumentValue_cases raw with ⟨value, isValue, -⟩ | ⟨cause', unread, notBlank, fails⟩
      · rw [isValue] at failed
        cases failed
      · rw [unread] at failed
        cases failed
        exact ⟨notBlank, fails, by rw [parseArguments, mapped]; rfl⟩

end CommandLine

/-! ## Pages -/

/-- Pages under canonical identities, each with its text. -/
structure Library.HasPages (library : Library) (pages : List (String × String)) : Prop where
  listed : library.pageIds = .ok (pages.map Prod.fst)
  canonical : ∀ page ∈ pages, library.pageId page.1 = .ok page.1
  hasText : ∀ page ∈ pages, ∃ path,
    Library.firstText library.source (library.candidatePaths page.1) = .ok (some (path, page.2))

theorem Library.HasPages.readKind {library : Library} {pages : List (String × String)}
    (hasPages : library.HasPages pages) {page : String × String} (member : page ∈ pages) (kind : String) :
    ∃ path, library.readKind page.1 kind = Page.parse page.1 path page.2 := by
  obtain ⟨path, isText⟩ := hasPages.hasText page member
  exact ⟨path, Library.readKind_of_firstText isText (hasPages.canonical page member) kind⟩

/-- A page whose front matter is refused has that one problem. -/
theorem problemsFound_of_isRefused {registry : FilterRegistry} {id path text : String} {cause : SyntaxCause}
    (refused : FrontMatter.IsRefused text cause) :
    problemsFound registry id (Page.parse id path text) =
      .ok [⟨id, (FrontMatter.faultAt (some id) cause).message⟩] := by
  have unparsed : FrontMatter.parse text (some id) = .error (FrontMatter.faultAt (some id) cause) :=
    FrontMatter.parse_eq_error.2 (.inl ⟨cause, refused, rfl⟩)
  have failed : Page.parse id path text = .error (FrontMatter.faultAt (some id) cause) :=
    bind_eq_error.2 (.inl unparsed)
  rw [failed]
  rfl

/-- A page whose front matter fails cannot be looked at. -/
theorem problemsFound_of_failsWith {registry : FilterRegistry} {id path text : String} {cause : Mishap}
    (fails : FrontMatter.FailsWith text cause) :
    problemsFound registry id (Page.parse id path text) = .error (.mishap cause) := by
  have unparsed : FrontMatter.parse text (some id) = .error (.mishap cause) :=
    FrontMatter.parse_eq_error.2 (.inr ⟨cause, fails, rfl⟩)
  have failed : Page.parse id path text = .error (.mishap cause) := bind_eq_error.2 (.inl unparsed)
  rw [failed]
  rfl

/-- The front matter of a page can be read, and its body fails for a numeral, or leads to a template that does. -/
def Page.FailsForNumeral (id text : String) (cause : Mishap) : Prop :=
  ∃ matter rest, FrontMatter.parse text (some id) = .ok (matter, rest) ∧
    (Folio.FailsForNumeral (dropBlankLines rest).2 cause ∨
      ∃ nodes, parseTemplate (dropBlankLines rest).2 = .ok nodes ∧ LeadsToNumeral nodes cause)

/-- Reading a page fails for its front matter, or for a numeral of its body. -/
theorem failsWith_of_parse {id path text : String} {cause : Mishap}
    (failed : Page.parse id path text = .error (.mishap cause)) :
    FrontMatter.FailsWith text cause ∨ Page.FailsForNumeral id text cause := by
  cases parsed : FrontMatter.parse text (some id) with
  | ok read =>
      obtain ⟨matter, rest⟩ := read
      obtain ⟨fault, unread, located⟩ := Page.parse_under_matter parsed failed
      rcases isFaultAt_of_parseTemplate unread with ⟨error, rfl, -⟩ | ⟨numeral, rfl⟩
      · cases located
      · cases located
        exact .inr ⟨matter, rest, parsed, .inl ⟨⟨numeral, rfl⟩, unread⟩⟩
  | error fault =>
      have isFault : Page.parse id path text = .error fault := bind_eq_error.2 (.inl parsed)
      cases isFault.symm.trans failed
      rcases FrontMatter.parse_eq_error.1 parsed with ⟨cause', -, isMalformed⟩ | ⟨cause', fails, same⟩
      · cases isMalformed
      · cases same
        exact .inl fails

/-- Looking at a page fails for its front matter, or for a numeral of a template. -/
theorem problemsFound_eq_error {registry : FilterRegistry} {id path text : String} {fault : Fault}
    (failed : problemsFound registry id (Page.parse id path text) = .error fault) :
    ∃ cause, fault = .mishap cause ∧
      (FrontMatter.FailsWith text cause ∨ Page.FailsForNumeral id text cause) := by
  cases parsed : Page.parse id path text with
  | ok page =>
      rw [parsed] at failed
      obtain ⟨cause, rfl, leads⟩ := templateProblems_eq_error (map_eq_error.1 failed)
      obtain ⟨matter, rest, nodes, matterParsed, read, rfl⟩ := Page.parse_eq_ok.1 parsed
      exact ⟨cause, rfl, .inr ⟨matter, rest, matterParsed, .inr ⟨nodes, read, leads⟩⟩⟩
  | error fault' =>
      rw [parsed] at failed
      cases fault' with
      | mishap cause => exact ⟨cause, (Except.error.inj failed).symm, failsWith_of_parse parsed⟩
      | _ => cases failed

/-! ## Reports -/

/-- An audit reports on all pages, each page with refused front matter being told once each time that it is listed,
unless the front matter of a page fails, or a numeral of its templates. -/
theorem audit_cases {site : Site} {pages : List (String × String)} (hasPages : site.library.HasPages pages)
    (faithful : site.cache.Faithful site.library) :
    (∃ problems, (audit site).1 = .ok ⟨pages.length, problems⟩ ∧ ∀ page ∈ pages,
        (∀ cause, ¬ FrontMatter.FailsWith page.2 cause) ∧
        ∀ cause, FrontMatter.IsRefused page.2 cause →
          problems.filter (·.page = page.1) = List.replicate ((pages.map Prod.fst).count page.1)
            ⟨page.1, (FrontMatter.faultAt (some page.1) cause).message⟩) ∨
      ∃ page ∈ pages, ∃ cause, (audit site).1 = .error (.mishap cause) ∧
        (FrontMatter.FailsWith page.2 cause ∨ Page.FailsForNumeral page.1 page.2 cause) := by
  have isAudit := audit_result hasPages.listed faithful
  rw [List.length_map] at isAudit
  cases found : (pages.map Prod.fst).mapM fun id =>
      problemsFound site.registry id (site.library.readKind id Library.pageKind) with
  | ok rows =>
      rw [found] at isAudit
      refine .inl ⟨rows.flatten, isAudit, ?_⟩
      intro page member
      obtain ⟨path, isRead⟩ := hasPages.readKind member Library.pageKind
      constructor
      · intro cause fails
        obtain ⟨row, -, isRow⟩ := mem_of_mapM found (List.mem_map_of_mem member)
        rw [isRead, problemsFound_of_failsWith fails] at isRow
        cases isRow
      · intro cause refused
        apply problems_under_page (forall₂_of_mapM found)
        rw [isRead]
        exact problemsFound_of_isRefused refused
  | error fault =>
      rw [found] at isAudit
      obtain ⟨id, listed, failed⟩ := exists_of_mapM_error found
      obtain ⟨page, member, rfl⟩ := List.mem_map.1 listed
      obtain ⟨path, isRead⟩ := hasPages.readKind member Library.pageKind
      rw [isRead] at failed
      obtain ⟨cause, rfl, isFailure⟩ := problemsFound_eq_error failed
      exact .inr ⟨page, member, cause, isAudit, isFailure⟩

/-- What YAML refuses is told where it is read. Front matter is an error just where it is refused, and then the page
is malformed, or where it fails. Settings are refused as such, unless they fail. Arguments of the command line are
all read, those that YAML refuses as the texts that they are, unless one of them fails. An audit reports on all
pages, and tells each page with refused front matter once each time that it is listed, unless the front matter of a
page fails, or a numeral of its templates. -/
theorem yaml_failures_are_told (text : String) (page : Option String) (tree : FileTree) (location : Location)
    (items : List String) (site : Site) (pages : List (String × String)) :
    (∀ fault, FrontMatter.parse text page = .error fault ↔
      (∃ cause, FrontMatter.IsRefused text cause ∧ fault = FrontMatter.faultAt page cause) ∨
        ∃ cause, FrontMatter.FailsWith text cause ∧ fault = .mishap cause) ∧
    ((∀ fault, Settings.load tree location = .error fault →
        (∃ error, fault = .settings error) ∨ ∃ cause, fault = .mishap cause) ∧
      ∀ cause, Settings.load tree location = .error (.mishap cause) ↔
        ∃ text, location.file? tree = some text ∧ Settings.FailsWith text location.text cause) ∧
    ((∀ item ∈ items, ∃ name raw, CommandLine.IsArgument item name raw) →
      (∃ pairs : List (String × Value),
        CommandLine.parseArguments items = .ok (CommandLine.argumentEntries pairs) ∧
        List.Forall₂ (fun item pair => ∃ raw, CommandLine.IsArgument item pair.1 raw ∧
          CommandLine.IsGiven raw pair.2) items pairs) ∨
      ∃ item ∈ items, ∃ name raw cause, CommandLine.IsArgument item name raw ∧ isBlankText raw = false ∧
        Yaml.FailsWith raw cause ∧ CommandLine.parseArguments items = .error cause) ∧
    (site.library.HasPages pages → site.cache.Faithful site.library →
      (∃ problems, (audit site).1 = .ok ⟨pages.length, problems⟩ ∧ ∀ page ∈ pages,
        (∀ cause, ¬ FrontMatter.FailsWith page.2 cause) ∧
        ∀ cause, FrontMatter.IsRefused page.2 cause →
          problems.filter (·.page = page.1) = List.replicate ((pages.map Prod.fst).count page.1)
            ⟨page.1, (FrontMatter.faultAt (some page.1) cause).message⟩) ∨
      ∃ page ∈ pages, ∃ cause, (audit site).1 = .error (.mishap cause) ∧
        (FrontMatter.FailsWith page.2 cause ∨ Page.FailsForNumeral page.1 page.2 cause)) := by
  refine ⟨?_, Settings.load_eq_error, ?_, ?_⟩
  · intro fault
    exact FrontMatter.parse_eq_error
  · intro areArguments
    exact CommandLine.parseArguments_cases areArguments
  · intro hasPages faithful
    exact audit_cases hasPages faithful

/-- The law for arguments of which YAML refuses one, and for an audit of a page with refused front matter and a page
without. -/
theorem yaml_failures_are_told_beside_fine_page :
    let items := ["n=3", " d =[1"]
    let pages := [("bad", "---\na: [\n---\nx"), ("good", "fine")]
    let files := [("bad.html", "---\na: [\n---\nx"), ("good.html", "fine")]
    let site := Site.new .default (.memory files) .standard
    (∀ item ∈ items, ∃ name raw, CommandLine.IsArgument item name raw) ∧
      (∃ pairs : List (String × Value),
        CommandLine.parseArguments items = .ok (CommandLine.argumentEntries pairs) ∧
        List.Forall₂ (fun item pair => ∃ raw, CommandLine.IsArgument item pair.1 raw ∧
          CommandLine.IsGiven raw pair.2) items pairs) ∧
      site.library.HasPages pages ∧ site.cache.Faithful site.library ∧
      ∃ problems, (audit site).1 = .ok ⟨2, problems⟩ ∧
        problems.filter (·.page = "bad") = [⟨"bad", "Invalid frontmatter at bad:1:1"⟩] := by
  intro items pages files site
  obtain ⟨-, -, arguments, reports⟩ :=
    yaml_failures_are_told "" none ⟨[]⟩ (.parse "tpages.yaml") items site pages
  have areArguments : ∀ item ∈ items, ∃ name raw, CommandLine.IsArgument item name raw := by
    intro item member
    rcases List.mem_cons.1 member with rfl | member
    · exact ⟨"n", "3", ['n'], by decide, rfl, by decide +kernel, by decide⟩
    · obtain rfl := List.mem_singleton.1 member
      exact ⟨"d", "[1", [' ', 'd', ' '], by decide, rfl, by decide +kernel, by decide⟩
  have hasPages : site.library.HasPages pages := by
    refine ⟨by decide +kernel, by decide +kernel, ?_⟩
    intro page member
    rcases List.mem_cons.1 member with rfl | member
    · exact ⟨"bad.html", by decide +kernel⟩
    · obtain rfl := List.mem_singleton.1 member
      exact ⟨"good.html", by decide +kernel⟩
  have faithful : site.cache.Faithful site.library := .empty site.library
  refine ⟨areArguments, ?_, hasPages, faithful, ?_⟩
  · have returns : (CommandLine.parseArguments items).isOk = true := by decide +kernel
    rcases arguments areArguments with given | ⟨item, -, name, raw, cause, -, -, -, failed⟩
    · exact given
    · rw [failed] at returns
      cases returns
  · have returns : (audit site).1.isOk = true := by decide +kernel
    rcases reports hasPages faithful with ⟨problems, isAudit, told⟩ | ⟨page, -, cause, failed, -⟩
    · have malformed : (Yaml.load "a: [").map (fun _ => ()) = .error .malformed := by decide +kernel
      have refused : FrontMatter.IsRefused "---\na: [\n---\nx" .invalidFrontMatter :=
        ⟨⟨['a', ':', ' ', '['], 3, 13, ['x']⟩, by rfl, .inl ⟨.inl (map_eq_error.1 malformed), rfl⟩⟩
      have isMessage : (FrontMatter.faultAt (some "bad") .invalidFrontMatter).message =
          "Invalid frontmatter at bad:1:1" := by decide +kernel
      have once : (pages.map Prod.fst).count "bad" = 1 := by decide +kernel
      have isTold := (told ("bad", _) List.mem_cons_self).2 _ refused
      rw [isMessage, once] at isTold
      exact ⟨problems, isAudit, isTold⟩
    · rw [failed] at returns
      cases returns

/-- A date that does not exist is not told: it ends the reading of front matter, of settings and of arguments as the
failure that it is, and the audit of all pages. -/
theorem impossible_date_is_not_told :
    FrontMatter.parse "---\nd: 2024-13-45\n---\nx" (some "a") = .error (.mishap (.calendar .month)) ∧
      Settings.load ⟨[(["tpages.yaml"], "layout_name: 2024-13-45")]⟩ (.parse "tpages.yaml") =
        .error (.mishap (.calendar .month)) ∧
      CommandLine.parseArguments ["d=2024-13-45"] = .error (.calendar .month) ∧
      (audit (Site.new .default (.memory [("a.html", "---\nd: 2024-13-45\n---\nx"), ("b.html", "fine")])
        .standard)).1 = .error (.mishap (.calendar .month)) := by
  -- Only whether there is a result can be decided, since values are not compared.
  have matter : (FrontMatter.parse "---\nd: 2024-13-45\n---\nx" (some "a")).map (fun _ => ()) =
      .error (.mishap (.calendar .month)) := by decide +kernel
  have settings : (Settings.load ⟨[(["tpages.yaml"], "layout_name: 2024-13-45")]⟩ (.parse "tpages.yaml")).map
      (fun _ => ()) = .error (.mishap (.calendar .month)) := by decide +kernel
  have arguments : (CommandLine.parseArguments ["d=2024-13-45"]).map (fun _ => ()) =
      .error (.calendar .month) := by decide +kernel
  exact ⟨map_eq_error.1 matter, map_eq_error.1 settings, map_eq_error.1 arguments, by decide +kernel⟩

end Folio
