import VolunteerApi.Effects.TasksOutcomes

/-!
# The clearance gate of `assignVolunteer`

A volunteer below `FRONTLINE` may take a task of a `FRONTLINE` request when
enough vouches stand behind them.  `recalculateClearance` counts the vouches that
are not suspended; the gate counts all of them.
-/

set_option autoImplicit false

namespace VolunteerApi

open Relational Programs
open TasksService

end VolunteerApi
