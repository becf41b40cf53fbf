import VolunteerApi.Effects.ServerAreas

/-!
# Nothing is lost

Any number of calls are under way at once, and their statements interleave in any order.  Rows
are loaded, changed in memory and saved as a whole, so that one call may overwrite what another
has just written; who made a row and what it is about is out of reach of all of them.
-/

set_option autoImplicit false

namespace VolunteerApi

open Programs

variable {ι : Type} [DecidableEq ι]

/-- From any moment of the interleaving to any later one, no user, request, task, assignment, chat
or message disappears, and each keeps the columns that `Db.Evolves` names. -/
theorem nothing_lost (env : ServerEnv) (db : Db) (calls : ι → Route) (first second : List ι) :
    (execute Sessions.step (serve env db calls) first).store.Evolves
      (execute Sessions.step (serve env db calls) (first ++ second)).store :=
  serve_along Db.Evolves.refl Db.Evolves.trans env db calls first second
    fun _ _ _ _ area => area.evolves

end VolunteerApi
