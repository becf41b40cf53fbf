import VolunteerApi.Effects.OrganizationWrites

/-!
# What a call does to the organizations

`OrganizationsOp.step_leaves` says that the rows of `OrganizationsOp.writes` are all that a call
does to the three tables, whether it ends in a result or in an exception: `create` and the
approval of a join request write a first row before a second statement can fail.
-/

set_option autoImplicit false

namespace VolunteerApi

open Relational Programs

namespace OrganizationsOp

open OrganizationsService

/-! ## Method by method -/

variable {db : Db}

theorem leave_saveOrganization {organization : Organization} {id : OrgId} {chats : Table _ _}
    (found : db.findOrganization id = some organization) (new : Organization)
    (same : new.id = organization.id) :
    OrganizationWrites.Leave { organization := some new } db
      { db with organizations := db.organizations.saveAll [new], chats := chats } where
  users := rfl
  organizations :=
    (Table.replaced_save new (Db.findOrganization_some found).1 same same).changed
  members := Table.changed_self _
  joinRequests := Table.changed_self _

theorem assign_id {dto : UpdateOrgDto} {old new : Organization}
    (assigned : UpdateOrgDto.assign dto old = some new) :
    new.id = old.id ∧ new.parentOrgId = old.parentOrgId ∧ new.chatId = old.chatId := by
  simp only [UpdateOrgDto.assign, Option.bind_eq_bind, Option.bind_eq_some_iff,
    Option.pure_def, Option.some.injEq] at assigned
  obtain ⟨_, _, _, _, _, _, rfl⟩ := assigned
  exact ⟨rfl, rfl, rfl⟩

theorem update_leaves (id : OrgId) (dto : UpdateOrgDto) :
    (OrganizationsService.update id dto).Leaves db
      (OrganizationWrites.Leave
        { organization := (db.findOrganization id).bind (UpdateOrgDto.assign dto) } db) := by
  apply leaves_findById_bind
  · intro missing
    rw [missing]
    exact OrganizationWrites.leave_self db
  · intro organization found
    apply Prog.leaves_orThrow_bind
    · intro refused
      rw [found, Option.bind_some, refused]
      exact OrganizationWrites.leave_self db
    · intro new assigned
      rw [found, Option.bind_some, assigned]
      exact leave_saveOrganization found new (assign_id assigned).1

theorem leaves_behind_guard {α : Type} {requiredRoles : List OrgRole} {path : String}
    {id : OrgId} {user : User} {next : Unit → Service α} {written : OrganizationWrites}
    (passed : activates requiredRoles path db id user = true →
      (next ()).Leaves db (written.Leave db)) :
    (Prog.bind (OrganizationRoleGuard.canActivate requiredRoles path id user) next).Leaves db
      (OrganizationWrites.Leave
        (if activates requiredRoles path db id user = true then written else {}) db) := by
  apply leaves_canActivate_bind
  · intro refused
    rw [if_neg (by simp [refused])]
    exact OrganizationWrites.leave_self db
  · intro allowed
    rw [if_pos allowed]
    exact passed allowed

theorem leaves_behind_check {α : Type} {id : OrgId} {user : User} {next : Unit → Service α}
    {written : OrganizationWrites}
    (passed : coordinates db id user = true → (next ()).Leaves db (written.Leave db)) :
    (Prog.bind (checkLeaderOrAdmin id user) next).Leaves db
      (OrganizationWrites.Leave (if coordinates db id user = true then written else {}) db) := by
  apply leaves_checkLeaderOrAdmin_bind
  · intro refused
    rw [if_neg (by simp [refused])]
    exact OrganizationWrites.leave_self db
  · intro allowed
    rw [if_pos allowed]
    exact passed allowed

theorem addMember_leaves (id : OrgId) (userId : UserId) (role : OrgRole) (user : User) :
    (OrganizationsService.addMember id userId role user).Leaves db
      ((writes db (.addMember id userId role user)).Leave db) := by
  apply leaves_behind_check
  intro _
  apply Prog.leaves_query_bind
  apply Prog.leaves_throwIf_bind
  · intro taken
    rw [if_neg (by simp [insertable, taken])]
    exact OrganizationWrites.leave_self db
  · intro _
    apply leaves_insertMember
    · intro refused
      rw [if_neg (by simp [refused])]
      exact OrganizationWrites.leave_self db
    · intro stored members added
      rw [if_pos stored]
      exact
        { users := rfl
          organizations := Table.changed_self _
          members := added.changed
          joinRequests := Table.changed_self _ }

theorem removeMember_leaves (id : OrgId) (userId : UserId) (user : User) :
    (OrganizationsService.removeMember id userId user).Leaves db
      ((writes db (.removeMember id userId user)).Leave db) := by
  apply leaves_behind_check
  intro _
  exact
    { users := rfl
      organizations := Table.changed_self _
      members := Table.changed_delete _ _
      joinRequests := Table.changed_self _ }

theorem withRole_slot {role : BodyValue OrgRole} {isDeputy : BodyValue Bool}
    {old new : OrganizationMember} (updated : withRole role isDeputy old = some new) :
    new.id = old.id ∧ new.slot = old.slot := by
  simp only [withRole, Option.bind_eq_bind, Option.bind_eq_some_iff, Option.pure_def,
    Option.some.injEq] at updated
  obtain ⟨_, _, _, _, rfl⟩ := updated
  exact ⟨rfl, rfl⟩

theorem withRole_orgRole {role : BodyValue OrgRole} {isDeputy : BodyValue Bool}
    {old new : OrganizationMember}
    (updated : withRole role isDeputy old = some new) :
    role.over old.orgRole = some new.orgRole := by
  simp only [withRole, Option.bind_eq_bind, Option.bind_eq_some_iff,
    Option.pure_def, Option.some.injEq] at updated
  obtain ⟨orgRole, given, _, _, rfl⟩ := updated
  exact given

theorem updateMemberRole_leaves (id : OrgId) (userId : UserId) (role : BodyValue OrgRole)
    (isDeputy : BodyValue Bool) (user : User) :
    (OrganizationsController.updateMemberRole id userId role isDeputy user).Leaves db
      ((writes db (.updateMemberRole id userId role isDeputy user)).Leave db) := by
  apply leaves_behind_guard
  intro _
  apply Prog.leaves_query_bind
  apply Prog.leaves_orThrow_bind
  · intro missing
    rw [missing]
    exact OrganizationWrites.leave_self db
  · intro member found
    apply Prog.leaves_orThrow_bind
    · intro refused
      rw [found, Option.bind_some, refused]
      exact OrganizationWrites.leave_self db
    · intro new updated
      rw [found, Option.bind_some, updated]
      obtain ⟨sameKey, sameSlot⟩ := withRole_slot updated
      exact
        { users := rfl
          organizations := Table.changed_self _
          members :=
            (Table.replaced_save new (Db.findMember_some found).1 sameKey sameSlot).changed
          joinRequests := Table.changed_self _ }

theorem organizations_deleted {id : OrgId} (childless : db.childrenOf id = []) :
    db.organizations.Changed (fun organization => organization.id = id) none
      ((db.organizations.delete fun organization => organization.id = id).update
        (fun organization => organization.parentOrgId = some id) orphanedPatch) := by
  rw [Table.update_eq_self]
  · exact Table.changed_delete _ _
  · intro row member below
    have child : row ∈ db.childrenOf id :=
      (Table.mem_find _ _ _).mpr ⟨((Table.mem_delete _ _ _).mp member).1, below⟩
    rw [childless] at child
    cases child

theorem delete_leaves (id : OrgId) (user : User) :
    (OrganizationsController.delete id user).Leaves db
      ((writes db (.delete id user)).Leave db) := by
  have kept : deletable db id user = false →
      (writes db (.delete id user)).Leave db db := by
    intro refused
    simp only [writes, refused, Bool.false_eq_true, if_false]
    exact OrganizationWrites.leave_self db
  apply leaves_canActivate_bind
  · intro refused
    exact kept (by simp [deletable, refused])
  · intro activated
    apply leaves_checkLeaderOrAdmin_bind
    · intro refused
      exact kept (by simp [deletable, refused])
    · intro coordinating
      apply leaves_findById_bind
      · intro missing
        exact kept (by simp [deletable, Db.hasOrganization, missing])
      · intro organization found
        apply Prog.leaves_throwIf_bind
        · intro parent
          exact kept (by simp [deletable, parent])
        · intro childless
          have none_below : db.childrenOf id = [] := not_not.mp childless
          have passes : deletable db id user = true := by
            simp [deletable, activated, coordinating, Db.hasOrganization, found, none_below]
          simp only [writes, passes, if_true]
          exact
            { users := rfl
              organizations := organizations_deleted none_below
              members := Table.changed_delete _ _
              joinRequests := Table.changed_delete _ _ }

theorem leave_leaves (id : OrgId) (user : User) :
    (OrganizationsService.leave id user).Leaves db ((writes db (.leave id user)).Leave db) := by
  have kept : leavable db id user = false →
      (writes db (.leave id user)).Leave db db := by
    intro refused
    simp only [writes, refused, Bool.false_eq_true, if_false]
    exact OrganizationWrites.leave_self db
  apply Prog.leaves_query_bind
  apply Prog.leaves_orThrow_bind
  · intro missing
    exact kept (by simp [leavable, missing])
  · intro membership found
    have gone : leavable db id user = true → (writes db (.leave id user)).Leave db
        { db with members := db.members.delete fun member => member.id = membership.id } := by
      intro passes
      obtain ⟨stored, sameOrganization, sameUser⟩ := Db.findMember_some found
      simp only [writes, passes, if_true]
      exact
        { users := rfl
          organizations := Table.changed_self _
          members := by
            apply (Table.changed_delete _ _).congr
            intro row rowStored
            rw [decide_eq_decide]
            constructor
            · intro same
              rw [Table.eq_of_key rowStored stored same]
              exact ⟨sameOrganization, sameUser⟩
            · rintro ⟨rowOrganization, rowUser⟩
              apply congrArg OrganizationMember.id
              apply Table.eq_of_uniq rowStored stored
              simp [OrganizationMember.slot, rowOrganization, rowUser, sameOrganization, sameUser]
          joinRequests := Table.changed_self _ }
    by_cases leader : membership.orgRole = .leader
    · simp only [Prog.onlyIf, if_pos leader, Prog.bind_eq, Prog.bind_assoc]
      apply Prog.leaves_query_bind
      apply Prog.leaves_throwIf_bind
      · intro last
        have single : ¬ 1 < leaders db id := Nat.not_lt.mpr last
        exact kept (by simp [leavable, found, leader, single])
      · intro others
        have second : 1 < leaders db id := Nat.not_le.mp others
        exact gone (by simp [leavable, found, second])
    · simp only [Prog.onlyIf, if_neg leader]
      exact gone (by simp [leavable, found, leader])

theorem join_leaves (id : OrgId) (user : User) (message : Option String) :
    (createJoinRequest id user message).Leaves db
      ((writes db (.join id user message)).Leave db) := by
  have kept : joinable db id user = false →
      (writes db (.join id user message)).Leave db db := by
    intro refused
    simp only [writes, refused, Bool.false_eq_true, if_false]
    exact OrganizationWrites.leave_self db
  apply leaves_findById_bind
  · intro missing
    exact kept (by simp [joinable, Db.hasOrganization, missing])
  · intro organization _
    apply Prog.leaves_query_bind
    apply Prog.leaves_throwIf_bind
    · intro taken
      exact kept (by simp [joinable, taken])
    · intro absent
      apply Prog.leaves_query_bind
      apply Prog.leaves_throwIf_bind
      · intro asked
        apply kept
        simp only [joinable, decide_eq_false_iff_not]
        intro all
        exact asked all.2.2.2
      · intro unasked
        apply Prog.leaves_execOr
        · intro failed
          by_cases linked : db.hasOrganization id = true ∧ db.hasUser user.id = true
          · rw [if_pos linked] at failed
            cases failed
          · apply kept
            simp only [joinable, decide_eq_false_iff_not]
            intro all
            exact linked ⟨all.1, all.2.1⟩
        · intro result saved
          by_cases linked : db.hasOrganization id = true ∧ db.hasUser user.id = true
          · rw [if_pos linked] at saved
            obtain rfl := Option.some.inj saved
            have passes : joinable db id user = true := by
              simp only [joinable, decide_eq_true_eq]
              exact ⟨linked.1, linked.2, not_not.mp absent, not_not.mp unasked⟩
            simp only [writes, passes, if_true]
            exact
              { users := rfl
                organizations := Table.changed_self _
                members := Table.changed_self _
                joinRequests := (Table.added_append _ _ _).changed }
          · rw [if_neg linked] at saved
            cases saved

theorem reviewed_id (approve : Bool) (reviewer : User) (comment : Option (Option String))
    (now : Time) (request : OrganizationJoinRequest) :
    (reviewed approve reviewer comment now request).id = request.id := rfl

/-- A reviewed join request is no longer the stored one. -/
theorem reviewed_ne {request : OrganizationJoinRequest} (isPending : request.status = .pending)
    (approve : Bool) (reviewer : User) (comment : Option (Option String)) (now : Time) :
    reviewed approve reviewer comment now request ≠ request := by
  intro same
  have status := congrArg OrganizationJoinRequest.status same
  rw [isPending] at status
  cases approve <;> cases status

/-- What follows the save of the join request: on approval its user becomes a member. -/
theorem approval_leaves {request : OrganizationJoinRequest} {requestId : JoinRequestId}
    {reviewer : User} (stored : request ∈ db.joinRequests.rows)
    (passes : reviewable db requestId reviewer = some request) (approve : Bool)
    (comment : Option (Option String)) (now : Time) :
    (if approve = true then
        Prog.bind (insertMember request.organizationId request.userId .member) fun _ => Prog.ret ()
      else Prog.ret () : Service Unit).Leaves
      { db with
        joinRequests := db.joinRequests.saveAll [reviewed approve reviewer comment now request] }
      ((review db requestId approve reviewer comment now).Leave db) := by
  have changed : db.joinRequests.Changed (fun _ => false)
      (some (reviewed approve reviewer comment now request))
      (db.joinRequests.saveAll [reviewed approve reviewer comment now request]) :=
    (Table.replaced_save _ stored (reviewed_id _ _ _ _ _) (reviewed_id _ _ _ _ _)).changed
  simp only [review, passes]
  cases approve with
  | false =>
      exact
        { users := rfl
          organizations := Table.changed_self _
          members := Table.changed_self _
          joinRequests := changed }
  | true =>
      rw [if_pos rfl]
      apply leaves_insertMember_bind
      · intro refused
        have unlinked : insertable db request.organizationId request.userId = false := refused
        simp only [unlinked, Bool.false_eq_true, and_false, if_false]
        exact
          { users := rfl
            organizations := Table.changed_self _
            members := Table.changed_self _
            joinRequests := changed }
      · intro inserted members added
        have linked : insertable db request.organizationId request.userId = true := inserted
        simp only [linked, and_self, if_true]
        exact
          { users := rfl
            organizations := Table.changed_self _
            members := added.changed
            joinRequests := changed }

theorem handleJoinRequest_leaves (requestId : JoinRequestId) (approve : Bool) (reviewer : User)
    (comment : Option (Option String)) (now : Time) :
    (handleJoinRequest requestId approve reviewer comment now).Leaves db
      ((review db requestId approve reviewer comment now).Leave db) := by
  have kept : reviewable db requestId reviewer = none →
      (review db requestId approve reviewer comment now).Leave db db := by
    intro refused
    simp only [review, refused]
    exact OrganizationWrites.leave_self db
  apply Prog.leaves_query_bind
  apply Prog.leaves_orThrow_bind
  · intro missing
    exact kept (by simp [reviewable, missing])
  · intro request found
    apply Prog.leaves_throwIf_bind
    · intro closed
      exact kept (by simp [reviewable, found, closed])
    · intro isPending
      apply Prog.leaves_execOr_bind
      · intro failed
        apply kept
        by_cases linked : db.hasUser reviewer.id = true
        · simp [reviewed, linked] at failed
        · simp [reviewable, found, linked]
      · intro result saved
        by_cases linked : db.hasUser reviewer.id = true
        · rw [if_pos (by simpa [reviewed] using linked)] at saved
          obtain rfl := Option.some.inj saved
          have passes : reviewable db requestId reviewer = some request := by
            simp only [reviewable, found, Option.filter_eq_some_iff, true_and, decide_eq_true_eq]
            exact ⟨not_not.mp isPending, linked⟩
          exact approval_leaves (Db.findJoinRequest_some found).1 passes approve comment now
        · rw [if_neg (by simpa [reviewed] using linked)] at saved
          cases saved

theorem giveChat_run {organization : Organization} (named : chatNamed organization.name = true)
    (participantIds : List UserId) (db : Db) :
    ∃ chats, (giveChat organization participantIds).run db =
      (.ok { organization with chatId := some db.chats.next },
        { db with
          organizations := db.organizations.saveAll
            [{ organization with chatId := some db.chats.next }]
          chats := chats }) := by
  have short : ¬ chatNameLength < ("Чат: " ++ organization.name).length :=
    Nat.not_lt.mpr (of_decide_eq_true named)
  simp only [giveChat, ChatService.createGroupChat, Prog.bind_eq, Prog.bind_assoc,
    Prog.run_query_bind, Prog.run_throwIf_bind, if_neg short]
  exact ⟨_, rfl⟩

theorem giveChat_unnamed {organization : Organization}
    (unnamed : chatNamed organization.name = false) (participantIds : List UserId) (db : Db) :
    (giveChat organization participantIds).run db =
      (.error (.queryFailed "value too long for type character varying(255)"), db) := by
  have long : chatNameLength < ("Чат: " ++ organization.name).length :=
    Nat.not_le.mp (of_decide_eq_false unnamed)
  simp only [giveChat, ChatService.createGroupChat, Prog.bind_eq, Prog.bind_assoc,
    Prog.run_query_bind, Prog.run_throwIf_bind, if_pos long]

theorem createChat_leaves (id : OrgId) (user : User) :
    (OrganizationsController.createChat id user).Leaves db
      ((writes db (.createChat id user)).Leave db) := by
  apply leaves_behind_guard
  intro _
  apply leaves_behind_check
  intro _
  apply leaves_findById_bind
  · intro missing
    rw [missing]
    exact OrganizationWrites.leave_self db
  · intro organization found
    apply Prog.leaves_throwIf_bind
    · intro present
      have refused : organization.chatId ≠ none := present
      simp only [found, Option.filter_some, refused, false_and, decide_false, Bool.false_eq_true,
        if_false]
      exact OrganizationWrites.leave_self db
    · intro absent
      have free : organization.chatId = none := not_not.mp absent
      apply Prog.leaves_query_bind
      simp only [found, Option.filter_some, free, true_and]
      -- the organization is read once more, which changes nothing
      have stays : ∀ {after : Db} {motive : Db → Prop}, motive after →
          Prog.Leaves (Prog.bind (findById id) fun stored => .ret stored.organization)
            after motive := by
        intro after motive holds
        exact leaves_findById_bind (fun _ => holds) (fun _ _ => holds)
      cases named : chatNamed organization.name with
      | true =>
          obtain ⟨chats, ran⟩ := giveChat_run named _ db
          simp only [decide_true, if_true, Option.map_some, Prog.bind_eq]
          rw [Prog.Leaves, Prog.run_bind_of_ok (Prog.run_recover_of_ok ran _)]
          exact stays (leave_saveOrganization found _ rfl)
      | false =>
          simp only [Bool.false_eq_true, decide_false, if_false, Option.map_none, Prog.bind_eq]
          rw [Prog.Leaves, Prog.run_bind, Prog.run_recover, giveChat_unnamed named]
          exact OrganizationWrites.leave_self db

theorem upload_leaves (id : OrgId) (filename : Option String) (dto : String → UpdateOrgDto) :
    Prog.Leaves
      (Prog.bind (Prog.orThrow filename (.badRequest "Файл не передано")) fun file =>
        OrganizationsService.update id (dto file))
      db ((upload db id filename dto).Leave db) := by
  apply Prog.leaves_orThrow_bind
  · intro missing
    rw [missing]
    exact OrganizationWrites.leave_self db
  · intro file sent
    rw [sent]
    exact update_leaves id (dto file)

theorem leaves_checkParent_bind {α : Type} {parentOrgId : Option OrgId}
    {next : Unit → Service α} {motive : Db → Prop}
    (refused : parentOrgId.all db.hasOrganization = false → motive db)
    (passed : parentOrgId.all db.hasOrganization = true → (next ()).Leaves db motive) :
    (Prog.bind (checkParent parentOrgId) next).Leaves db motive := by
  cases parentOrgId with
  | none => exact passed rfl
  | some parentOrgId =>
      simp only [checkParent, Prog.bind_eq, Prog.bind_assoc]
      apply Prog.leaves_query_bind
      apply Prog.leaves_throwIf_bind
      · intro missing
        exact refused (by simp [Db.hasOrganization, missing])
      · intro found
        exact passed (by simpa [Db.hasOrganization, Option.isSome_iff_ne_none] using found)

theorem create_leaves (dto : CreateOrgDto) (user : User) :
    (OrganizationsService.create dto user).Leaves db
      ((writes db (.create dto user)).Leave db) := by
  have kept : creatable db dto = false → (writes db (.create dto user)).Leave db db := by
    intro refused
    simp only [writes, refused, Bool.false_eq_true, if_false]
    exact OrganizationWrites.leave_self db
  apply leaves_checkParent_bind
  · intro refused
    exact kept (by simp [creatable, refused])
  · intro passed
    apply Prog.leaves_throwIf_bind
    · intro long
      exact kept (by simp [creatable, Nat.not_le.mpr long])
    intro short
    have parented : creatable db dto = true := by simp [creatable, passed, Nat.not_lt.mp short]
    have added := Table.added_append db.organizations (newOrganization dto) (by intro _; rfl)
    apply Prog.leaves_execReturning_bind
    have links : insertable
        { db with organizations := db.organizations.append (newOrganization dto) }
        db.organizations.next user.id = founds db user := by
      have stored : Db.hasOrganization
          { db with organizations := db.organizations.append (newOrganization dto) }
          db.organizations.next = true :=
        Db.hasOrganization_iff.mpr ⟨_, (added.mem _).mpr (Or.inr rfl), rfl⟩
      simp only [insertable, stored, true_and]
      rfl
    apply leaves_insertMember_bind
    · intro refused
      have leaderless : founds db user = false := links.symm.trans refused
      simp only [writes, parented, leaderless, Bool.false_eq_true, false_and, if_true, if_false]
      exact
        { users := rfl
          organizations := added.changed
          members := Table.changed_self _
          joinRequests := Table.changed_self _ }
    · intro stored members memberAdded
      have founded : founds db user = true := links.symm.trans stored
      simp only [writes, parented, founded, true_and, if_true]
      rw [Prog.Leaves, Prog.run_recover]
      cases named : chatNamed dto.name with
      | true =>
          -- the chat is stored, and its number in the organization
          have fits : chatNamed (newOrganization dto db.organizations.next).name = true := named
          obtain ⟨chats, ran⟩ := giveChat_run fits [user.id]
            { db with
              organizations := db.organizations.append (newOrganization dto)
              members := members }
          have linked := added.replaced (Table.replaced_save
            { newOrganization dto db.organizations.next with chatId := some db.chats.next }
            ((added.mem _).mpr (Or.inr rfl)) rfl rfl)
          rw [ran, if_pos rfl]
          exact
            { users := rfl
              organizations := linked.changed
              members := memberAdded.changed
              joinRequests := Table.changed_self _ }
      | false =>
          have long : chatNamed (newOrganization dto db.organizations.next).name = false := named
          rw [giveChat_unnamed long, if_neg Bool.false_ne_true]
          exact
            { users := rfl
              organizations := added.changed
              members := memberAdded.changed
              joinRequests := Table.changed_self _ }

theorem step_leaves (db : Db) (op : OrganizationsOp) : (op.writes db).Leave db (op.step db) := by
  cases op with
  | create dto user => exact create_leaves dto user
  | addMember id userId role user => exact addMember_leaves id userId role user
  | removeMember id userId user => exact removeMember_leaves id userId user
  | updateMemberRole id userId role isDeputy user =>
      exact updateMemberRole_leaves id userId role isDeputy user
  | update id dto user =>
      change (OrganizationsController.update id dto user).Leaves db
        ((writes db (.update id dto user)).Leave db)
      apply leaves_behind_guard
      intro _
      exact update_leaves id dto
  | delete id user => exact delete_leaves id user
  | leave id user => exact leave_leaves id user
  | join id user message => exact join_leaves id user message
  | approveRequest id requestId user comment now =>
      change (OrganizationsController.approveRequest id requestId user comment now).Leaves db
        ((writes db (.approveRequest id requestId user comment now)).Leave db)
      apply leaves_behind_guard
      intro _
      exact handleJoinRequest_leaves requestId true user comment now
  | rejectRequest id requestId user comment now =>
      change (OrganizationsController.rejectRequest id requestId user comment now).Leaves db
        ((writes db (.rejectRequest id requestId user comment now)).Leave db)
      apply leaves_behind_guard
      intro _
      exact handleJoinRequest_leaves requestId false user comment now
  | createChat id user => exact createChat_leaves id user
  | uploadLogo id filename user =>
      change (OrganizationsController.uploadLogo id filename user).Leaves db
        ((writes db (.uploadLogo id filename user)).Leave db)
      apply leaves_behind_guard
      intro _
      exact upload_leaves id filename _
  | uploadBanner id filename user =>
      change (OrganizationsController.uploadBanner id filename user).Leaves db
        ((writes db (.uploadBanner id filename user)).Leave db)
      apply leaves_behind_guard
      intro _
      exact upload_leaves id filename _

end OrganizationsOp

end VolunteerApi
