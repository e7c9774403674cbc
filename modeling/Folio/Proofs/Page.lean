import Folio.Page
import Folio.Proofs.Outcome

/-!
Contract: pages under other names.

Owns: when a text can be read as a page, and that the name and the path of the page do not matter for that.
-/

namespace Folio

open Folio.Template

/-- The name of a page is in the errors about its front matter only. -/
theorem FrontMatter.parse_under {text : String} {page : Option String}
    {read : Option FrontMatter × String} (parsed : FrontMatter.parse text page = .ok read)
    (other : Option String) : FrontMatter.parse text other = .ok read := by
  unfold FrontMatter.parse at parsed ⊢
  split at parsed
  · exact parsed
  · rename_i block found
    obtain ⟨matter, ofBlock, parsed⟩ := bind_eq_ok.1 parsed
    refine bind_eq_ok.2 ⟨matter, ?_, parsed⟩
    unfold FrontMatter.ofBlock at ofBlock ⊢
    split at ofBlock
    · exact ofBlock
    · exact ofBlock
    · cases ofBlock
    · cases ofBlock
    · cases ofBlock

/-- When a text can be read as a page, and as which. -/
theorem Page.parse_eq_ok {id path text : String} {page : Page} :
    Page.parse id path text = .ok page ↔ ∃ matter rest nodes,
      FrontMatter.parse text (some id) = .ok (matter, rest) ∧
        parseTemplate (dropBlankLines rest).2 = .ok nodes ∧
          page = ⟨id, path, matter.elim [] FrontMatter.arguments, matter.bind FrontMatter.layout,
            nodes⟩ := by
  constructor
  · intro parsed
    obtain ⟨⟨matter, rest⟩, matterParsed, parsed⟩ := bind_eq_ok.1 parsed
    obtain ⟨nodes, nodesRead, parsed⟩ := bind_eq_ok.1 parsed
    cases parsed
    exact ⟨matter, rest, nodes, matterParsed, mapError_eq_ok.1 nodesRead, rfl⟩
  · rintro ⟨matter, rest, nodes, matterParsed, nodesRead, rfl⟩
    exact bind_eq_ok.2 ⟨(matter, rest), matterParsed,
      bind_eq_ok.2 ⟨nodes, mapError_eq_ok.2 nodesRead, rfl⟩⟩

/-- A text that can be read as one page can be read as any page, with the same nodes. -/
theorem Page.parse_under {id path text : String} {page : Page}
    (parsed : Page.parse id path text = .ok page) (id' path' : String) :
    ∃ page', Page.parse id' path' text = .ok page' ∧ page'.nodes = page.nodes := by
  obtain ⟨matter, rest, nodes, matterParsed, nodesRead, rfl⟩ := Page.parse_eq_ok.1 parsed
  have matterParsed' := FrontMatter.parse_under matterParsed (some id')
  exact ⟨_, Page.parse_eq_ok.2 ⟨matter, rest, nodes, matterParsed', nodesRead, rfl⟩, rfl⟩

end Folio
