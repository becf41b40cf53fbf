import VolunteerApi.Effects.OrganizationsOutcomes
import VolunteerApi.Programs.Runs

/-!
# Handling a join request in two writes

`handleJoinRequest` saves the request and then inserts the member.  Where somebody has added
the user in the meantime, the insert fails and the request stays approved.
-/

set_option autoImplicit false

namespace VolunteerApi

open Relational Programs OrganizationsService OrganizationsOp

/-! ## Runs -/

/-- The calls that write memberships and join requests. -/
inductive MembershipCall where
  | addMember (id : OrgId) (userId : UserId) (role : OrgRole) (user : User)
  | removeMember (id : OrgId) (userId : UserId) (user : User)
  | leave (id : OrgId) (user : User)
  | createJoinRequest (id : OrgId) (user : User) (message : Option String)
  | handleJoinRequest (requestId : JoinRequestId) (approve : Bool) (reviewer : User)
      (comment : Option (Option String)) (now : Time)

namespace MembershipCall

def run (db : Db) : MembershipCall → Outcome × Db
  | .addMember id userId role user =>
      ended ((OrganizationsService.addMember id userId role user).run db)
  | .removeMember id userId user =>
      ended ((OrganizationsService.removeMember id userId user).run db)
  | .leave id user => ended ((OrganizationsService.leave id user).run db)
  | .createJoinRequest id user message =>
      ended ((OrganizationsService.createJoinRequest id user message).run db)
  | .handleJoinRequest requestId approve reviewer comment now =>
      ended ((OrganizationsService.handleJoinRequest requestId approve reviewer comment now).run db)

def step (db : Db) (call : MembershipCall) : Db := (call.run db).2

end MembershipCall

/-- The foreign keys of the join requests. -/
def JoinRequestsLinked (db : Db) : Prop :=
  ∀ request ∈ db.joinRequests.rows,
    db.hasOrganization request.organizationId = true ∧ db.hasUser request.userId = true

/-- The request is approved, and its user is a member, once. -/
def AdmittedOnce (db : Db) (requestId : JoinRequestId) : Prop :=
  ∃ request, db.findJoinRequest requestId = some request ∧ request.status = .approved ∧
    (db.members.count fun member =>
      member.organizationId = request.organizationId ∧ member.userId = request.userId) = 1

/-- A call that fails changes neither the join requests nor the members, and one that approves
admits the user. -/
def HandlesWhole (db : Db) (call : MembershipCall) : Prop :=
  match call with
  | .handleJoinRequest requestId approve _ _ _ =>
      ((call.run db).1.succeeded = false →
          (call.step db).joinRequests = db.joinRequests ∧ (call.step db).members = db.members) ∧
        ((call.run db).1.succeeded = true → approve = true → AdmittedOnce (call.step db) requestId)
  | _ => True

/-- Whoever is approved is no member yet. -/
def ApprovesOutsiders (db : Db) : MembershipCall → Prop
  | .handleJoinRequest requestId approve reviewer _ _ =>
      approve = true → ∀ request, reviewable db requestId reviewer = some request →
        db.findMember request.organizationId request.userId = none
  | _ => True

/-! ## One review -/

section Review

variable {db : Db} {requestId : JoinRequestId} {reviewer : User}
  {request : OrganizationJoinRequest}

def Db.withJoinRequest (db : Db) (request : OrganizationJoinRequest) : Db :=
  { db with joinRequests := db.joinRequests.saveAll [request] }

theorem reviewable_some (found : reviewable db requestId reviewer = some request) :
    db.findJoinRequest requestId = some request ∧ request.status = .pending ∧
      db.hasUser reviewer.id = true := by
  obtain ⟨found, passes⟩ := Option.filter_eq_some_iff.mp found
  exact ⟨found, of_decide_eq_true passes⟩

theorem saveJoinRequestRow_reviewed {approve : Bool} {comment : Option (Option String)}
    {now : Time} (known : db.hasUser reviewer.id = true) :
    (saveJoinRequestRow (reviewed approve reviewer comment now request)).run db =
      (.ok (), db.withJoinRequest (reviewed approve reviewer comment now request)) := by
  have linked : (reviewed approve reviewer comment now request).reviewedById.all db.hasUser =
      true := known
  rw [saveJoinRequestRow, Prog.run_execOr, if_pos linked]
  rfl

/-- The run after the checks: the save, and on approval the insert. -/
theorem handleJoinRequest_run (found : reviewable db requestId reviewer = some request)
    (approve : Bool) (comment : Option (Option String)) (now : Time) :
    (handleJoinRequest requestId approve reviewer comment now).run db =
      (if approve = true then
          (insertMember request.organizationId request.userId .member).bind fun _ => .ret ()
        else .ret () : Service Unit).run
        (db.withJoinRequest (reviewed approve reviewer comment now request)) := by
  obtain ⟨stored, isPending, known⟩ := reviewable_some found
  have saved : (saveJoinRequestRow (reviewed approve reviewer comment now request)).run db =
      (.ok (), db.withJoinRequest (reviewed approve reviewer comment now request)) :=
    saveJoinRequestRow_reviewed known
  simp only [handleJoinRequest, Prog.bind_eq, Prog.run_query_bind, stored, Prog.run_orThrow_bind,
    Prog.run_throwIf_bind, isPending, ne_eq, not_true_eq_false, if_false]
  rw [Prog.run_bind_of_ok saved]
  rfl

theorem handleJoinRequest_refused (refused : reviewable db requestId reviewer = none)
    (approve : Bool) (comment : Option (Option String)) (now : Time) :
    ∃ error, (handleJoinRequest requestId approve reviewer comment now).run db =
      (.error error, db) := by
  simp only [handleJoinRequest, Prog.bind_eq, Prog.run_query_bind, Prog.run_orThrow_bind,
    Prog.run_throwIf_bind]
  cases found : db.findJoinRequest requestId with
  | none => exact ⟨_, rfl⟩
  | some request =>
      by_cases closed : request.status ≠ .pending
      · simp only [if_pos closed]
        exact ⟨_, rfl⟩
      · have unknown : ¬ (reviewed approve reviewer comment now request).reviewedById.all
            db.hasUser = true := by
          intro known
          have passes : reviewable db requestId reviewer = some request := by
            rw [reviewable, found, Option.filter_eq_some_iff]
            exact ⟨rfl, decide_eq_true ⟨not_not.mp closed, known⟩⟩
          rw [refused] at passes
          cases passes
        simp only [if_neg closed]
        rw [Prog.run_bind, saveJoinRequestRow, Prog.run_execOr, if_neg unknown]
        exact ⟨_, rfl⟩

theorem insertMember_run (db : Db) {organizationId : OrgId} {userId : UserId} (role : OrgRole)
    (linked : db.hasOrganization organizationId = true ∧ db.hasUser userId = true)
    (free : db.findMember organizationId userId = none) :
    ∃ members, db.members.insert (newMember organizationId userId role)
        (newMember_id organizationId userId role) = some members ∧
      (insertMember organizationId userId role).run db =
        (.ok (newMember organizationId userId role db.members.next),
          { db with members := members }) := by
  obtain ⟨members, inserted⟩ := Table.insert_isSome (newMember_id organizationId userId role)
    (Db.findMember_none_iff_free.mp free)
  refine ⟨members, inserted, ?_⟩
  rw [insertMember, Prog.run_execOr, if_pos linked, inserted]
  rfl

theorem insertMember_taken (db : Db) {organizationId : OrgId} {userId : UserId} (role : OrgRole)
    (taken : db.findMember organizationId userId ≠ none) :
    ∃ error, (insertMember organizationId userId role).run db = (.error error, db) := by
  have refused : db.members.insert (newMember organizationId userId role)
      (newMember_id organizationId userId role) = none := by
    rw [← Option.not_isSome_iff_eq_none, Option.isSome_iff_exists]
    rintro ⟨members, inserted⟩
    exact taken (Db.findMember_none_iff_free.mpr (Table.insert_free inserted))
  refine ⟨.queryFailed "insert on table organization_members violates a constraint", ?_⟩
  rw [insertMember, Prog.run_execOr, refused, Option.map_none, ite_self]

theorem count_inserted {db : Db} {organizationId : OrgId} {userId : UserId} {role : OrgRole}
    {members : Table OrganizationMember.id OrganizationMember.slot}
    (inserted : db.members.insert (newMember organizationId userId role)
      (newMember_id organizationId userId role) = some members)
    (free : db.findMember organizationId userId = none) :
    (members.count fun member =>
      member.organizationId = organizationId ∧ member.userId = userId) = 1 := by
  have before : (db.members.count fun member =>
      member.organizationId = organizationId ∧ member.userId = userId) = 0 := by
    rw [Table.count_eq_zero]
    intro member stored
    rw [decide_eq_false_iff_not]
    rintro ⟨here, self⟩
    exact Db.findMember_none.mp free member stored here self
  rw [Table.count_insert inserted, before]
  simp [newMember]

end Review

/-! ## One call -/

section Calls

variable {db : Db}

theorem replaced_withJoinRequest {request : OrganizationJoinRequest}
    (stored : request ∈ db.joinRequests.rows) (approve : Bool) (reviewer : User)
    (comment : Option (Option String)) (now : Time) :
    db.joinRequests.Replaced request (reviewed approve reviewer comment now request)
      (db.withJoinRequest (reviewed approve reviewer comment now request)).joinRequests :=
  Table.replaced_save _ stored (reviewed_id _ _ _ _ _) (reviewed_id _ _ _ _ _)

theorem withJoinRequest_ne {request : OrganizationJoinRequest}
    (stored : request ∈ db.joinRequests.rows) (isPending : request.status = .pending)
    (approve : Bool) (reviewer : User) (comment : Option (Option String)) (now : Time) :
    (db.withJoinRequest (reviewed approve reviewer comment now request)).joinRequests ≠
      db.joinRequests := by
  have replaced := replaced_withJoinRequest stored approve reviewer comment now
  intro same
  have member : reviewed approve reviewer comment now request ∈ db.joinRequests.rows := by
    rw [← same]
    exact replaced.new_mem
  exact reviewed_ne isPending approve reviewer comment now
    (Table.eq_of_key member stored (reviewed_id _ _ _ _ _))

theorem findJoinRequest_withJoinRequest {request : OrganizationJoinRequest}
    (stored : request ∈ db.joinRequests.rows) (approve : Bool) (reviewer : User)
    (comment : Option (Option String)) (now : Time) :
    (db.withJoinRequest (reviewed approve reviewer comment now request)).findJoinRequest
        request.id = some (reviewed approve reviewer comment now request) := by
  have replaced := replaced_withJoinRequest stored approve reviewer comment now
  exact Table.findOne_key replaced.new_mem

/-- An approval that finds no membership admits the user. -/
theorem approval_admits (linked : JoinRequestsLinked db) {requestId : JoinRequestId}
    {reviewer : User} {request : OrganizationJoinRequest}
    (found : reviewable db requestId reviewer = some request)
    (free : db.findMember request.organizationId request.userId = none)
    (comment : Option (Option String)) (now : Time) :
    ∃ after, (handleJoinRequest requestId true reviewer comment now).run db = (.ok (), after) ∧
      AdmittedOnce after requestId := by
  obtain ⟨stored, _, _⟩ := reviewable_some found
  obtain ⟨member, rfl⟩ := Db.findJoinRequest_some stored
  obtain ⟨members, inserted, ran⟩ :=
    insertMember_run (db.withJoinRequest (reviewed true reviewer comment now request))
      .member (linked request member) free
  refine ⟨{ db.withJoinRequest (reviewed true reviewer comment now request) with
    members := members }, ?_, reviewed true reviewer comment now request, ?_, rfl, ?_⟩
  · rw [handleJoinRequest_run found, if_pos rfl, Prog.run_bind_of_ok ran]
    rfl
  · exact findJoinRequest_withJoinRequest member true reviewer comment now
  · exact count_inserted inserted free

/-- One that finds a membership fails with the request approved. -/
theorem approval_collides {requestId : JoinRequestId} {reviewer : User}
    {request : OrganizationJoinRequest}
    (found : reviewable db requestId reviewer = some request)
    (taken : db.findMember request.organizationId request.userId ≠ none)
    (comment : Option (Option String)) (now : Time) :
    ∃ error, (handleJoinRequest requestId true reviewer comment now).run db =
      (.error error, db.withJoinRequest (reviewed true reviewer comment now request)) := by
  obtain ⟨error, refused⟩ := insertMember_taken
    (db.withJoinRequest (reviewed true reviewer comment now request)) .member taken
  refine ⟨error, ?_⟩
  rw [handleJoinRequest_run found, if_pos rfl, Prog.run_bind, refused]

theorem handlesWhole_iff (linked : JoinRequestsLinked db) (call : MembershipCall) :
    HandlesWhole db call ↔ ApprovesOutsiders db call := by
  cases call with
  | handleJoinRequest requestId approve reviewer comment now =>
      simp only [HandlesWhole, ApprovesOutsiders, MembershipCall.step, MembershipCall.run]
      cases found : reviewable db requestId reviewer with
      | none =>
          obtain ⟨error, ran⟩ := handleJoinRequest_refused found approve comment now
          rw [ran]
          refine iff_of_true ⟨fun _ => ⟨rfl, rfl⟩, ?_⟩ ?_
          · intro succeeded
            cases succeeded
          · rintro _ request ⟨⟩
      | some request =>
          cases approve with
          | false =>
              rw [handleJoinRequest_run found]
              refine iff_of_true ⟨?_, ?_⟩ ?_
              · intro failed
                cases failed
              · rintro _ ⟨⟩
              · rintro ⟨⟩
          | true =>
              simp only [true_implies, Option.some.injEq, forall_eq']
              by_cases free : db.findMember request.organizationId request.userId = none
              · obtain ⟨after, ran, admitted⟩ := approval_admits linked found free comment now
                rw [ran]
                refine iff_of_true ⟨?_, fun _ => admitted⟩ free
                intro failed
                cases failed
              · obtain ⟨error, ran⟩ := approval_collides found free comment now
                obtain ⟨stored, isPending, _⟩ := reviewable_some found
                rw [ran]
                refine iff_of_false ?_ free
                rintro ⟨kept, _⟩
                exact withJoinRequest_ne (Db.findJoinRequest_some stored).1 isPending true reviewer
                  comment now (kept rfl).1
  | _ => exact Iff.rfl

/-! ## Every run -/

/-- No organization is written, and a saved join request refers to rows that are stored. -/
structure SparesOrganizations (db : Db) (writes : OrganizationWrites) : Prop where
  organization : writes.organization = none
  deleted : writes.deletedOrganization = fun _ => false
  linked : ∀ request, writes.joinRequest = some request →
    db.hasOrganization request.organizationId = true ∧ db.hasUser request.userId = true

theorem spares_of_members {writes : OrganizationWrites} (organization : writes.organization = none)
    (deleted : writes.deletedOrganization = fun _ => false) (none : writes.joinRequest = none) :
    SparesOrganizations db writes where
  organization := organization
  deleted := deleted
  linked := by
    rw [none]
    rintro _ ⟨⟩

theorem call_leaves (linked : JoinRequestsLinked db) (call : MembershipCall) :
    ∃ writes, writes.Leave db (call.step db) ∧ SparesOrganizations db writes := by
  cases call with
  | addMember id userId role user =>
      refine ⟨_, addMember_leaves id userId role user, ?_⟩
      simp only [writes]
      split <;> exact spares_of_members rfl rfl rfl
  | removeMember id userId user =>
      refine ⟨_, removeMember_leaves id userId user, ?_⟩
      simp only [writes]
      split <;> exact spares_of_members rfl rfl rfl
  | leave id user =>
      refine ⟨_, leave_leaves id user, ?_⟩
      simp only [writes]
      split <;> exact spares_of_members rfl rfl rfl
  | createJoinRequest id user message =>
      refine ⟨_, join_leaves id user message, ?_⟩
      by_cases passes : joinable db id user = true
      · obtain ⟨stored, known, _⟩ := of_decide_eq_true passes
        simp only [writes, passes, if_true]
        refine ⟨rfl, rfl, ?_⟩
        rintro _ ⟨⟩
        exact ⟨stored, known⟩
      · simp only [writes, passes, Bool.false_eq_true, if_false]
        exact spares_of_members rfl rfl rfl
  | handleJoinRequest requestId approve reviewer comment now =>
      refine ⟨_, handleJoinRequest_leaves requestId approve reviewer comment now, ?_⟩
      cases found : reviewable db requestId reviewer with
      | none =>
          rw [review, found]
          exact spares_of_members rfl rfl rfl
      | some request =>
          rw [review, found]
          refine ⟨rfl, rfl, ?_⟩
          rintro _ ⟨⟩
          exact linked request (Db.findJoinRequest_some (reviewable_some found).1).1

theorem joinRequestsLinked_of_leave {writes : OrganizationWrites} {after : Db}
    (linked : JoinRequestsLinked db) (left : writes.Leave db after)
    (spares : SparesOrganizations db writes) : JoinRequestsLinked after := by
  have hasOrganization : ∀ id, db.hasOrganization id = true → after.hasOrganization id = true := by
    intro id stored
    obtain ⟨organization, member, same⟩ := Db.hasOrganization_iff.mp stored
    refine Db.hasOrganization_iff.mpr ⟨organization, (left.organizations.mem _).mpr ?_, same⟩
    rw [spares.organization, spares.deleted]
    exact Or.inr ⟨member, rfl, fun _ saved => nomatch saved⟩
  have hasUser : ∀ id, db.hasUser id = true → after.hasUser id = true := by
    intro id known
    rwa [Db.hasUser, Db.findUser, left.users]
  intro request member
  rcases (left.joinRequests.mem request).mp member with saved | ⟨stored, _⟩
  · obtain ⟨organization, user⟩ := spares.linked request saved
    exact ⟨hasOrganization _ organization, hasUser _ user⟩
  · obtain ⟨organization, user⟩ := linked request stored
    exact ⟨hasOrganization _ organization, hasUser _ user⟩

theorem joinRequestsLinked_step (db : Db) (call : MembershipCall)
    (linked : JoinRequestsLinked db) : JoinRequestsLinked (call.step db) := by
  obtain ⟨writes, left, spares⟩ := call_leaves linked call
  exact joinRequestsLinked_of_leave linked left spares

end Calls

/-- In every run, each join request is handled as a whole, exactly if nobody is approved who is
a member already. -/
theorem handlesWhole_throughout_iff {db : Db} (linked : JoinRequestsLinked db)
    (calls : List MembershipCall) :
    Throughout MembershipCall.step HandlesWhole db calls ↔
      Throughout MembershipCall.step ApprovesOutsiders db calls :=
  throughout_congr_of joinRequestsLinked_step (fun _ call linked => handlesWhole_iff linked call)
    linked calls

/-- A volunteer leads an organization. -/
def ledBoard : Db :=
  execute OrganizationsOp.step (exampleBoard .local)
    [.create { name := "Штаб", description := none, parentOrgId := none, tags := none }
        firstVolunteer]

theorem ledBoard_linked : JoinRequestsLinked ledBoard := by
  have unasked : ledBoard.joinRequests.rows = [] := by decide +kernel
  intro request stored
  rw [unasked] at stored
  cases stored

/-- The author asks to join, is added by the leader, and then approved. -/
def addedMeanwhile : List MembershipCall :=
  [.createJoinRequest 0 author none, .addMember 0 author.id .member firstVolunteer,
    .handleJoinRequest 0 true firstVolunteer none 5]

theorem handlesWhole_throughout_iff_witness :
    Throughout MembershipCall.step HandlesWhole ledBoard addedMeanwhile ↔
      Throughout MembershipCall.step ApprovesOutsiders ledBoard addedMeanwhile :=
  handlesWhole_throughout_iff ledBoard_linked addedMeanwhile

/-- The insert is refused, and the request is approved. -/
theorem handlesWhole_throughout_fails :
    JoinRequestsLinked ledBoard ∧
      ¬ Throughout MembershipCall.step HandlesWhole ledBoard addedMeanwhile := by
  refine ⟨ledBoard_linked, ?_⟩
  rintro ⟨_, _, ⟨kept, _⟩, _⟩
  have same := (kept (by decide +kernel)).1
  have approved := congrArg (fun joinRequests => joinRequests.rows.map
    OrganizationJoinRequest.status) same
  revert approved
  decide +kernel

end VolunteerApi
