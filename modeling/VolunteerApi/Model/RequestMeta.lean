import VolunteerApi.Model.RequestContent
import VolunteerApi.Model.RequestsReading
import VolunteerApi.Relational.Joins

/-!
# The entries of the request list

`getRequestsWithPriority` of `modules/requests/requests.service.ts` past its query: the entries
that it makes of the raw rows, and `enrichRequestMeta`, which adds what the tasks of each
request say about organizations and about the user.  Both queries are raw SQL, to which the
columns and tables are as they are stored.
-/

set_option autoImplicit false

namespace VolunteerApi

open Relational Programs

/-! ## Entries -/

/-- What `enrichRequestMeta` adds to an entry. -/
structure RequestMeta where
  delegatedOrgNames : List String := []
  myDelegatedOrgNames : List String := []
  isUserAssigned : Bool := false
  isMyOrgDelegating : Bool := false
  deriving DecidableEq, Repr

/-- An entry of the list: the columns of its row, with the tags as an array. -/
structure ListedRequest where
  row : Request
  tags : List String
  taskCount : Nat
  added : Option RequestMeta := none
  deriving DecidableEq, Repr

/-- A row of the query in `enrichRequestMeta`, before it is grouped. -/
structure MetaRow where
  requestId : RequestId
  task : Task
  delegation : Option TaskDelegation
  org : Option Organization
  assignment : Option TaskAssignment
  member : Option OrganizationMember
  deriving DecidableEq, Repr

namespace RequestsService

/-- `typeof r.tags === 'string' ? r.tags.split(',').filter(Boolean) : r.tags ?? []` -/
def rawTags : Option String → List String
  | some text => (split text ',').filter fun tag => tag ≠ ""
  | none => []

/-- `_mapped`, with the number of the tasks that are not deleted. -/
def listedRequest (db : Db) (row : Request) : ListedRequest where
  row := row
  tags := rawTags row.tags
  taskCount := (db.liveTasks row.id).length

/-! ## `enrichRequestMeta` -/

/-- `td.task_id = t.id AND td.is_accepted = true` -/
def joinsDelegation (task : Task) (delegation : TaskDelegation) : Bool :=
  delegation.taskId = task.id ∧ delegation.isAccepted = some true

/-- `org.id = td.organization_id` -/
def joinsOrg (delegation : Option TaskDelegation) (org : Organization) : Bool :=
  delegation.any fun delegation => org.id = delegation.organizationId

/-- `ta.task_id = t.id AND ta.user_id = $2 AND ta.status NOT IN ('withdrawn', 'completed')` -/
def joinsAssignment (userId : UserId) (task : Task) (assignment : TaskAssignment) : Bool :=
  assignment.taskId = task.id ∧ assignment.userId = userId ∧
    ¬ (assignment.status = .withdrawn ∨ assignment.status = .completed)

/-- `om.organization_id = td.organization_id AND om.user_id = $2` -/
def joinsMember (userId : UserId) (delegation : Option TaskDelegation)
    (member : OrganizationMember) : Bool :=
  (delegation.any fun delegation => member.organizationId = delegation.organizationId) ∧
    member.userId = userId

/-- The five joins.  No clause asks whether a task is deleted. -/
def metaRows (requestIds : List RequestId) (userId : UserId) (db : Db) : List MetaRow :=
  let tasks := innerJoin requestIds db.tasks.rows fun id task => task.requestId = id
  let delegated := leftJoin tasks db.delegations.rows fun row => joinsDelegation row.2
  let named := leftJoin delegated db.organizations.rows fun row => joinsOrg row.2
  let assigned := leftJoin named db.assignments.rows fun row => joinsAssignment userId row.1.1.2
  let mine := leftJoin assigned db.members.rows fun row => joinsMember userId row.1.1.2
  mine.map fun row =>
    { requestId := row.1.1.1.1.1
      task := row.1.1.1.1.2
      delegation := row.1.1.1.2
      org := row.1.1.2
      assignment := row.1.2
      member := row.2 }

/-- The aggregates of a group, each with the value that stands in for a `NULL`; a request
without a group gets the same values. -/
def metaOf (names : OrderBy fun _ _ : String => True) (group : List MetaRow) : RequestMeta where
  delegatedOrgNames :=
    (arrayAggDistinct names (fun row => row.org.map Organization.name) group).getD []
  myDelegatedOrgNames :=
    (arrayAggDistinct names
      (fun row => if row.member ≠ none then row.org.map Organization.name else none) group).getD []
  isUserAssigned := (boolOr (fun row => row.assignment ≠ none) group).getD false
  isMyOrgDelegating :=
    (boolOr (fun row => row.delegation ≠ none ∧ row.member ≠ none) group).getD false

/-- `names` is the order in which the server sorts texts. -/
def enrichRequestMeta (names : OrderBy fun _ _ : String => True) (requests : List ListedRequest)
    (userId : Option UserId) : Service (List ListedRequest) :=
  match userId with
  | none => pure requests
  | some userId =>
      if requests = [] then pure requests
      else do
        let groups ← Prog.query fun db =>
          groupBy MetaRow.requestId (metaRows (requests.map fun entry => entry.row.id) userId db)
        return requests.map fun entry =>
          { entry with added := some (metaOf names (groupOf groups entry.row.id)) }

/-! ## The list -/

/-- `getRequestsWithPriority`, from the rows of its query to the entries of its answer. -/
def listRequestsWithPriority (pg : Postgres) (names : OrderBy fun _ _ : String => True)
    (params : PriorityParams) (userId : Option UserId) : Service (List ListedRequest) := do
  let results ← getRequestsWithPriority pg params
  let mapped ← Prog.query fun db => results.requests.map (listedRequest db)
  enrichRequestMeta names mapped userId

end RequestsService

end VolunteerApi
