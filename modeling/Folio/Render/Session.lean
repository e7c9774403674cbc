import Folio.Library
import Folio.Scope

/-!
Contract: what a render changes while it runs.

Owns: the session of a render, which is its scope and the pages that have been read; reading names; work on
the cache alone; and work in a child of the scope, which is left again whether the work is done or fails.
-/

namespace Folio

structure Session where
  scope : Scope
  cache : Cache
deriving Repr

abbrev Render := Work Session

namespace Render

/-- The binding of a name, if the scope has one. -/
def resolve (name : String) : Render (Option Value) :=
  fun session => (.ok (session.scope.resolve name), session)

def scope : Render Scope :=
  fun session => (.ok session.scope, session)

/-- Work that needs the cache only. -/
def withCache {α : Type} (work : Work Cache α) : Render α :=
  Work.within Session.cache (fun cache session => { session with cache := cache }) work

/-- Work in a child of the scope. -/
def inChild {α : Type} (bindings : Entries) (label : String) (work : Render α) : Render α :=
  fun session =>
    let (child, scope) := session.scope.enter bindings label
    let (result, after) := work { session with scope := scope }
    (result, { after with scope := after.scope.leave child })

end Render

end Folio
