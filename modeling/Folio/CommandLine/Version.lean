/-!
Contract: the version that the program calls itself.
-/

namespace Folio.CommandLine

/-- The version of a program that runs from its sources. -/
def uninstalledVersion : String := "0.0.0+source"

def version (installed : Option String) : String :=
  installed.getD uninstalledVersion

end Folio.CommandLine
