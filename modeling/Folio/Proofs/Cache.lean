import Folio.Library
import Folio.Proofs.Page
import Folio.Proofs.Work

/-!
Contract: caches that hold what reading afresh would give.

Owns: faithful caches; that finding pages, layouts and inline templates keeps a cache faithful; that what is
found in a faithful cache is what the source gives; and caches by way of which the same is found.

Does not own: caches over files that have changed since.
-/

namespace Folio

open Folio.Template

/-! ## Faithful caches -/

/-- Every page and every inline template in the cache is the one that would be read now. -/
structure Cache.Faithful (library : Library) (cache : Cache) : Prop where
  page : ∀ id page, cache.page? id = some page → library.readPage id = .ok (some page)
  inline : ∀ text nodes, cache.inline? text = some nodes → parseTemplate text = .ok nodes

/-- A page is read under its identity. -/
theorem Library.id_of_readPage {library : Library} {id : String} {page : Page}
    (read : library.readPage id = .ok (some page)) : page.id = id := by
  unfold readPage at read
  obtain ⟨found, -, read⟩ := bind_eq_ok.1 read
  cases found with
  | none => cases read
  | some file =>
      obtain ⟨path, text⟩ := file
      obtain ⟨parsed, parse, read⟩ := bind_eq_ok.1 read
      cases read
      obtain ⟨_, _, _, -, -, rfl⟩ := Page.parse_eq_ok.1 parse
      rfl

/-! ## Finding in a cache -/

namespace Cache

theorem lookup_cons_eq {value : Type} (key other : String) (first : value)
    (entries : List (String × value)) :
    ((key, first) :: entries).lookup other =
      if other = key then some first else entries.lookup other := by
  rw [List.lookup_cons]
  by_cases same : other = key
  · rw [if_pos same, beq_iff_eq.2 same]
  · rw [if_neg same, beq_eq_false_iff_ne.2 same]

theorem lookup_filter_ne {value : Type} (key other : String) (entries : List (String × value)) :
    (entries.filter fun entry => entry.1 != key).lookup other =
      if other = key then none else entries.lookup other := by
  induction entries with
  | nil => simp
  | cons entry entries inductionHypothesis =>
      obtain ⟨name, first⟩ := entry
      rw [lookup_cons_eq]
      by_cases given : name = key
      · rw [List.filter_cons_of_neg (by simpa using given), inductionHypothesis, given]
        by_cases same : other = key
        · rw [if_pos same, if_pos same]
        · rw [if_neg same, if_neg same, if_neg same]
      · rw [List.filter_cons_of_pos (by simpa using given), lookup_cons_eq, inductionHypothesis]
        by_cases same : other = key
        · have differs : other ≠ name := fun isName => given (isName.symm.trans same)
          rw [if_neg differs, if_pos same, if_pos same]
        · rw [if_neg same, if_neg same]

theorem page?_addPage (cache : Cache) (page : Page) (id : String) :
    (cache.addPage page).page? id = if id = page.id then some page else cache.page? id :=
  lookup_cons_eq page.id id page cache.pages

theorem page?_withoutPage (cache : Cache) (id other : String) :
    (cache.withoutPage id).page? other = if other = id then none else cache.page? other :=
  lookup_filter_ne id other cache.pages

theorem inline?_addInline (cache : Cache) (text other : String) (nodes : List Node) :
    (cache.addInline text nodes).inline? other =
      if other = text then some nodes else cache.inline? other :=
  lookup_cons_eq text other nodes cache.inlines

namespace Faithful

variable {library : Library} {cache : Cache}

theorem empty (library : Library) : Faithful library .empty where
  page := nofun
  inline := nofun

theorem addPage (faithful : Faithful library cache) {id : String} {page : Page}
    (read : library.readPage id = .ok (some page)) : Faithful library (cache.addPage page) where
  page := by
    intro other found isFound
    rw [page?_addPage, Library.id_of_readPage read] at isFound
    by_cases same : other = id
    · rw [if_pos same] at isFound
      cases isFound
      rwa [same]
    · rw [if_neg same] at isFound
      exact faithful.page other found isFound
  inline := faithful.inline

theorem addInline (faithful : Faithful library cache) {text : String} {nodes : List Node}
    (read : parseTemplate text = .ok nodes) : Faithful library (cache.addInline text nodes) where
  page := faithful.page
  inline := by
    intro other found isFound
    rw [inline?_addInline] at isFound
    by_cases same : other = text
    · rw [if_pos same] at isFound
      cases isFound
      rwa [same]
    · rw [if_neg same] at isFound
      exact faithful.inline other found isFound

theorem withoutPage (faithful : Faithful library cache) (id : String) :
    Faithful library (cache.withoutPage id) where
  page := by
    intro other found isFound
    rw [page?_withoutPage] at isFound
    by_cases same : other = id
    · rw [if_pos same] at isFound
      cases isFound
    · rw [if_neg same] at isFound
      exact faithful.page other found isFound
  inline := faithful.inline

end Faithful

end Cache

/-! ## Reading through a faithful cache -/

/-- Work that keeps caches faithful and has the same result on each of them. -/
def Settled {α : Type} (library : Library) (work : Work Cache α) (result : Except Fault α) : Prop :=
  ∀ cache, cache.Faithful library →
    (work cache).1 = result ∧ (work cache).2.Faithful library

namespace Settled

variable {library : Library} {α β : Type}

theorem ofExcept (result : Except Fault α) : Settled library (Work.ofExcept result) result :=
  fun _ faithful => ⟨rfl, faithful⟩

theorem pure (result : α) : Settled library (Pure.pure result) (.ok result) :=
  fun _ faithful => ⟨rfl, faithful⟩

theorem throw (fault : Fault) :
    Settled library (throw fault : Work Cache α) (.error fault) :=
  fun _ faithful => ⟨rfl, faithful⟩

theorem bind {work : Work Cache α} {result : Except Fault α} {next : α → Work Cache β}
    {outcome : α → Except Fault β} (settled : Settled library work result)
    (nextSettled : ∀ value, result = .ok value → Settled library (next value) (outcome value)) :
    Settled library (work >>= next) (result >>= outcome) := by
  intro cache faithful
  rw [Work.bind_apply]
  obtain ⟨isResult, stillFaithful⟩ := settled cache faithful
  rcases isWork : work cache with ⟨found, after⟩
  rw [isWork] at isResult stillFaithful
  cases isResult
  cases found with
  | ok value => exact nextSettled value rfl after stillFaithful
  | error fault => exact ⟨rfl, stillFaithful⟩

end Settled

/-- Work whose result no faithful cache changes, and that keeps caches faithful. -/
def Blind {α : Type} (library : Library) (work : Work Cache α) : Prop :=
  Settled library work (work .empty).1

namespace Blind

variable {library : Library} {α β : Type}

theorem of_settled {work : Work Cache α} {result : Except Fault α}
    (settled : Settled library work result) : Blind library work := by
  have isResult := (settled .empty (.empty library)).1
  unfold Blind
  rwa [isResult]

theorem bind {work : Work Cache α} {next : α → Work Cache β} (blind : Blind library work)
    (nextBlind : ∀ value, Blind library (next value)) : Blind library (work >>= next) :=
  .of_settled (Settled.bind blind fun value _ => nextBlind value)

end Blind

/-- An inline template is what its text says. -/
theorem inlineNodes_settled (library : Library) (text : String) :
    Settled library (inlineNodes text) (parseTemplate text) := by
  intro cache faithful
  unfold inlineNodes
  cases isCached : cache.inline? text with
  | some nodes => exact ⟨(faithful.inline text nodes isCached).symm, faithful⟩
  | none =>
      cases read : parseTemplate text with
      | ok nodes => exact ⟨rfl, faithful.addInline read⟩
      | error fault => exact ⟨rfl, faithful⟩

namespace Library

/-- The page that a name stands for, read from the source. -/
def readNamed (library : Library) (name : String) : Except Fault (Option Page) :=
  match library.pageId name with
  | .ok id => library.readPage id
  | .error _ => .ok none

theorem pageWithId_settled (library : Library) (id : String) :
    Settled library (library.pageWithId id) (library.readPage id) := by
  intro cache faithful
  unfold pageWithId
  cases isCached : cache.page? id with
  | some page => exact ⟨(faithful.page id page isCached).symm, faithful⟩
  | none =>
      cases read : library.readPage id with
      | error fault => exact ⟨rfl, faithful⟩
      | ok found =>
          cases found with
          | none => exact ⟨rfl, faithful⟩
          | some page => exact ⟨rfl, faithful.addPage read⟩

theorem findPage_settled (library : Library) (name : String) :
    Settled library (library.findPage name) (library.readNamed name) := by
  unfold findPage readNamed
  cases library.pageId name with
  | ok id => exact library.pageWithId_settled id
  | error cause => exact .pure none

/-- The page that a name stands for, read from the source, or the fault that says what is missing. -/
def readKind (library : Library) (name kind : String) : Except Fault Page := do
  match ← library.readNamed name with
  | some page => .ok page
  | none => .error (.notFound kind name)

theorem getPage_settled (library : Library) (name kind : String) :
    Settled library (library.getPage name kind) (library.readKind name kind) := by
  refine .bind (library.findPage_settled name) ?_
  intro found _
  cases found with
  | some page => exact .pure page
  | none => exact .throw _

theorem firstPage_blind (library : Library) (names : List String) :
    Blind library (library.firstPage names) := by
  induction names with
  | nil => exact .of_settled (.pure none)
  | cons name names inductionHypothesis =>
      refine .bind (.of_settled (library.findPage_settled name)) ?_
      intro found
      cases found with
      | some page => exact .of_settled (.pure (some page))
      | none => exact inductionHypothesis

theorem firstOtherPage_blind (library : Library) (id : String) (names : List String) :
    Blind library (library.firstOtherPage id names) := by
  induction names with
  | nil => exact .of_settled (.pure none)
  | cons name names inductionHypothesis =>
      refine .bind (.of_settled (library.findPage_settled name)) ?_
      intro found
      cases found with
      | none => exact inductionHypothesis
      | some page =>
          dsimp only
          by_cases differs : page.id != id
          · rw [if_pos differs]
            exact .of_settled (.pure (some page))
          · rw [if_neg differs]
            exact inductionHypothesis

theorem findLayout_blind (library : Library) (page : Page) (layoutName : String) :
    Blind library (library.findLayout page layoutName) := by
  unfold findLayout
  cases page.layout with
  | none => exact library.firstOtherPage_blind _ _
  | some name =>
      dsimp only
      by_cases isNone : name == FrontMatter.noLayout
      · rw [if_pos isNone]
        exact .of_settled (.pure none)
      · rw [if_neg isNone]
        refine .bind (library.firstPage_blind (layoutNames page.folder name)) ?_
        intro found
        cases found with
        | some layout => exact .of_settled (.pure (some layout))
        | none => exact .of_settled (.throw _)

end Library

/-! ## Caches that cannot be told apart -/

/-- What is found as a page: what the cache has, or else what is read. -/
theorem Library.pageWithId_result (library : Library) (id : String) (cache : Cache) :
    (library.pageWithId id cache).1 =
      match cache.page? id with
      | some page => .ok (some page)
      | none => library.readPage id := by
  unfold pageWithId
  cases cache.page? id with
  | some page => rfl
  | none =>
      dsimp only
      rcases library.readPage id with fault | found
      · rfl
      · cases found <;> rfl

theorem inlineNodes_result (text : String) (cache : Cache) :
    (inlineNodes text cache).1 =
      match cache.inline? text with
      | some nodes => .ok nodes
      | none => parseTemplate text := by
  unfold inlineNodes
  cases cache.inline? text with
  | some nodes => rfl
  | none =>
      dsimp only
      cases parseTemplate text <;> rfl

/-- Whatever is looked for, the same is found by way of either cache. Nothing is said about the files, so
this may also hold of caches that are out of date. -/
structure Cache.Alike (library : Library) (left right : Cache) : Prop where
  page : ∀ id, (library.pageWithId id left).1 = (library.pageWithId id right).1
  inline : ∀ text, (inlineNodes text left).1 = (inlineNodes text right).1

namespace Cache.Alike

variable {library : Library} {left right other : Cache} {excused : Fault → Prop}

theorem refl (library : Library) (cache : Cache) : Alike library cache cache :=
  ⟨fun _ => rfl, fun _ => rfl⟩

theorem symm (alike : Alike library left right) : Alike library right left :=
  ⟨fun id => (alike.page id).symm, fun text => (alike.inline text).symm⟩

theorem trans (alike : Alike library left right) (alike' : Alike library right other) :
    Alike library left other :=
  ⟨fun id => (alike.page id).trans (alike'.page id),
    fun text => (alike.inline text).trans (alike'.inline text)⟩

/-- A page may be kept where it would be read anyway. -/
theorem addPage {cache : Cache} {id : String} {page : Page} (isNew : cache.page? id = none)
    (read : library.readPage id = .ok (some page)) :
    Alike library (cache.addPage page) cache where
  page wanted := by
    have isKept := Cache.page?_addPage cache page wanted
    rw [Library.id_of_readPage read] at isKept
    rw [library.pageWithId_result, library.pageWithId_result, isKept]
    by_cases same : wanted = id
    · rw [if_pos same, same, isNew, read]
    · rw [if_neg same]
  inline text := by
    rw [inlineNodes_result, inlineNodes_result]
    rfl

theorem addInline {cache : Cache} {text : String} {nodes : List Node}
    (isNew : cache.inline? text = none) (read : parseTemplate text = .ok nodes) :
    Alike library (cache.addInline text nodes) cache where
  page id := by
    rw [library.pageWithId_result, library.pageWithId_result]
    rfl
  inline wanted := by
    have isKept := Cache.inline?_addInline cache text wanted nodes
    rw [inlineNodes_result, inlineNodes_result, isKept]
    by_cases same : wanted = text
    · rw [if_pos same, same, isNew, read]
    · rw [if_neg same]

/-- Looking for a page leaves no trace but what would be found anyway. -/
theorem of_pageWithId (library : Library) (id : String) (cache : Cache) :
    Alike library (library.pageWithId id cache).2 cache := by
  unfold Library.pageWithId
  cases isCached : cache.page? id with
  | some page => exact refl library cache
  | none =>
      cases read : library.readPage id with
      | error fault => exact refl library cache
      | ok found =>
          cases found with
          | none => exact refl library cache
          | some page => exact addPage isCached read

theorem of_inlineNodes (library : Library) (text : String) (cache : Cache) :
    Alike library (inlineNodes text cache).2 cache := by
  unfold inlineNodes
  cases isCached : cache.inline? text with
  | some nodes => exact refl library cache
  | none =>
      cases read : parseTemplate text with
      | error fault => exact refl library cache
      | ok nodes => exact addInline isCached read

theorem pageWithId (id : String) :
    Work.Agrees (Alike library) excused (library.pageWithId id) (library.pageWithId id) := by
  intro cache cache' alike
  refine .inr ⟨alike.page id, ?_⟩
  exact (of_pageWithId library id cache).trans (alike.trans (of_pageWithId library id cache').symm)

theorem inlineNodes (text : String) :
    Work.Agrees (Alike library) excused (Folio.inlineNodes text) (Folio.inlineNodes text) := by
  intro cache cache' alike
  refine .inr ⟨alike.inline text, ?_⟩
  exact (of_inlineNodes library text cache).trans (alike.trans (of_inlineNodes library text cache').symm)

theorem findPage (name : String) :
    Work.Agrees (Alike library) excused (library.findPage name) (library.findPage name) := by
  unfold Library.findPage
  cases library.pageId name with
  | ok id => exact pageWithId id
  | error cause => exact .pure none

theorem getPage (name kind : String) :
    Work.Agrees (Alike library) excused (library.getPage name kind) (library.getPage name kind) := by
  refine .bind (findPage name) ?_
  intro found
  cases found with
  | some page => exact .pure page
  | none => exact .throw _

/-- Finding a page leaves no trace but what would be found anyway. -/
theorem of_findPage (library : Library) (name : String) (cache : Cache) :
    Alike library (library.findPage name cache).2 cache := by
  unfold Library.findPage
  cases library.pageId name with
  | ok id => exact of_pageWithId library id cache
  | error cause => exact refl library cache

theorem of_getPage (library : Library) (name kind : String) (cache : Cache) :
    Alike library (library.getPage name kind cache).2 cache := by
  have finding := of_findPage library name cache
  unfold Library.getPage
  rw [Work.bind_apply]
  rcases isFound : library.findPage name cache with ⟨outcome, after⟩
  rw [isFound] at finding
  cases outcome with
  | error fault => exact finding
  | ok found => cases found <;> exact finding

end Cache.Alike

end Folio
