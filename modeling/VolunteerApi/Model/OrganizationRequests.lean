import VolunteerApi.Model.OrganizationsService
import VolunteerApi.Model.RequestsReading

/-!
# The requests of an organization

The methods of `modules/organizations/organizations.service.ts` that answer with the tasks
delegated to an organization and with the requests it coordinates or carries out.
-/

set_option autoImplicit false

namespace VolunteerApi

open Relational Programs

namespace OrganizationsService

def ensureMemberOrAdmin (organizationId : OrgId) (user : User) : Service Unit := do
  let membership ← Prog.query fun db => db.members.findOne fun member =>
    member.organizationId = organizationId ∧ member.userId = user.id ∧ member.isActive = true
  Prog.throwIf (user.systemRole ≠ .admin ∧ membership = none)
    (.forbidden "Потрібно бути учасником організації")

/-- A task with the delegation that brought it, and what else is loaded with it. -/
structure DelegatedTask where
  task : Task
  request : Option Request
  assignments : List TaskAssignment
  delegation : TaskDelegation
  deriving DecidableEq, Repr

/-- A request, with its tasks where they are loaded. -/
structure OrganizationRequest where
  request : Request
  tasks : Option (List Task)
  deriving DecidableEq, Repr

variable (pg : Postgres)

-- `createdAt DESC`, of a column the model does not have
variable (byNews : OrderBy fun _ _ : TaskDelegation => True)

/-- A delegation of a deleted task is dropped. -/
def delegatedTasks (organizationId : OrgId) (db : Db) : List DelegatedTask :=
  (byNews.run (db.delegations.find fun delegation =>
      delegation.organizationId = organizationId)).filterMap fun delegation =>
    (db.findTask delegation.taskId).map fun task =>
      { task := task
        request := db.findRequest task.requestId
        assignments := db.assignmentsOf task.id
        delegation := delegation }

def getOrganizationTasks (organizationId : OrgId) (user : User) : Service (List DelegatedTask) := do
  ensureMemberOrAdmin organizationId user
  Prog.query (delegatedTasks byNews organizationId)

def managedRequests (organizationId : OrgId) (db : Db) : List OrganizationRequest :=
  (pg.byCreation.run (db.requests.find fun request =>
      request.managingOrganizationId = some organizationId ∧ request.deletedAt = none)).map
    fun request => { request := request, tasks := some (db.liveTasks request.id) }

/-- The request of a delegated task, unless it is deleted. -/
def requestOf (delegated : DelegatedTask) : Option OrganizationRequest :=
  delegated.request.map fun request => { request := request, tasks := none }

/-- The map by the number of the request, then the newest first. -/
def mergedRequests (managed : List OrganizationRequest) (delegated : List DelegatedTask) :
    List OrganizationRequest :=
  ((managed ++ delegated.filterMap requestOf).foldl
      (fun rows row => setKey (fun row => row.request.id) row rows) []).mergeSort
    fun left right => decide (right.request.createdAt ≤ left.request.createdAt)

def getOrganizationRequests (organizationId : OrgId) (user : User) :
    Service (List OrganizationRequest) := do
  ensureMemberOrAdmin organizationId user
  let managed ← Prog.query (managedRequests pg organizationId)
  let delegated ← getOrganizationTasks byNews organizationId user
  return mergedRequests managed delegated

end OrganizationsService

end VolunteerApi
