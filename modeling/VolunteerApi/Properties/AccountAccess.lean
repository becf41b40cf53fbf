import VolunteerApi.Effects.ServerAreas

/-!
# Who changes what

Any number of calls are under way at once.  Whichever way their statements interleave, a table
differs at a later moment only if one of the calls that were executed in between writes it.  A
column of a stored user differs only if the matrix lets one of them write it, and who is new was
inserted by one of them.
-/

set_option autoImplicit false

namespace VolunteerApi

open Relational Programs

def Route.writes (env : ServerEnv) : Route → UserId × String → UserColumn → Prop
  | .user op => op.writes
  | .visitor op => op.writes env

def Route.inserts (env : ServerEnv) : Route → User → Prop
  | .user op => op.inserts
  | .visitor op => op.inserts env

theorem Route.writes_of_scope {env : ServerEnv} {route : Route} {account : UserId × String}
    {column : UserColumn} (inside : (route.scope env).columns account column) :
    route.writes env account column := by
  cases route with
  | user op => exact op.writes_of_scope inside
  | visitor op => exact inside

theorem Route.inserts_of_scope {env : ServerEnv} {route : Route} {user : User}
    (inside : (route.scope env).newcomers user) : route.inserts env user := by
  cases route with
  | user op => exact op.inserts_of_scope inside
  | visitor op => exact inside

/-- What these calls may write and insert. -/
def routesScope (env : ServerEnv) {ι : Type} (calls : ι → Route) (executed : List ι) : Db.Scope where
  tables := executed.flatMap fun i => ((calls i).scope env).tables
  columns account column := ∃ i ∈ executed, (calls i).writes env account column
  newcomers user := ∃ i ∈ executed, (calls i).inserts env user

theorem routesScope_includes (env : ServerEnv) {ι : Type} (calls : ι → Route) {executed : List ι}
    {i : ι} (inside : i ∈ executed) :
    (routesScope env calls executed).Includes ((calls i).scope env) where
  tables _ touched := List.mem_flatMap.mpr ⟨i, inside, touched⟩
  columns _ _ allowed := ⟨i, inside, Route.writes_of_scope allowed⟩
  newcomers _ isNew := ⟨i, inside, Route.inserts_of_scope isNew⟩

theorem calls_confined {ι : Type} [DecidableEq ι] (env : ServerEnv) (db : Db)
    (calls : ι → Route) (first second : List ι) :
    Db.Area (routesScope env calls second)
      (execute Sessions.step (serve env db calls) first).store
      (execute Sessions.step (serve env db calls) (first ++ second)).store :=
  serve_along Db.Area.refl Db.Area.trans env db calls first second fun _ inside _ _ area =>
    area.wider _ _ (routesScope_includes env calls inside)

end VolunteerApi
