/-!
Contract: texts in ascending order of their code points.

Owns: sorting a list of texts.
-/

namespace Folio.Text

/-- Puts a text in front of the first one that is not smaller. -/
def insertText (text : String) : List String → List String
  | [] => [text]
  | next :: rest => if next < text then next :: insertText text rest else text :: next :: rest

def sortTexts (texts : List String) : List String :=
  texts.foldr insertText []

end Folio.Text
