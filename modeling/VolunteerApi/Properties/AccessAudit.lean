import VolunteerApi.Effects.ServerEffects
import VolunteerApi.Model.AccessLogs
import Mathlib.Data.List.Perm.Basic

/-!
# The access log says who saw what

Whatever is called in between, and however late the entries are written: each time somebody is
shown a frontline request that is not his own, one entry is made, and no entry is made otherwise.
It is in the log, on its way, or lost by a failed statement.  The log is only added to, and an
admin finds each of its rows on one page.
-/

set_option autoImplicit false

namespace VolunteerApi

open Relational Programs
open RequestsService

/-! ## What is to be logged -/

/-- The entry for a detail view of a frontline request by someone who may see it and does not
own it. -/
def Db.disclosure (db : Db) (payload : JwtClaims) (id : RequestId) : Option AccessEntry := do
  let user ← db.findUser payload.sub
  let request ← db.findRequest id
  if user.isBlocked = false ∧ request.requiredClearance = .frontline ∧
      request.creatorId ≠ user.id ∧ (user.systemRole = .admin ∨ user.systemRole = .coordinator ∨
        user.clearanceLevel = .frontline)
  then some ⟨user.id, request.id, .viewDetail, user.clearanceLevel⟩ else none

def AuditEvent.disclosed (db : Db) : AuditEvent → Option AccessEntry
  | .view payload id => db.disclosure payload id
  | _ => none

def AuditEvent.next (env : ServerEnv) (db : Db) : AuditEvent → Db
  | .call made => made.step env db
  | _ => db

/-- The entries for all views of a run. -/
def disclosures (env : ServerEnv) : Db → List AuditEvent → List AccessEntry
  | _, [] => []
  | db, event :: rest => (event.disclosed db).toList ++ disclosures env (event.next env db) rest

/-- The entry whose insert fails. -/
def AuditEvent.losing (audit : Audit) : AuditEvent → Option AccessEntry
  | .lost index => audit.pending[index]?
  | _ => none

/-- The entries of all inserts of a run that fail. -/
def lostEntries (env : ServerEnv) : Audit → List AuditEvent → List AccessEntry
  | _, [] => []
  | audit, event :: rest =>
      (event.losing audit).toList ++ lostEntries env (audit.step env event) rest

def Db.Refers (db : Db) (entry : AccessEntry) : Prop :=
  ∃ request ∈ db.requests.rows, request.id = entry.requestId

theorem Db.disclosure_refers {db : Db} {payload : JwtClaims} {id : RequestId} {entry : AccessEntry}
    (disclosed : db.disclosure payload id = some entry) : db.Refers entry := by
  simp only [disclosure, Option.bind_eq_bind, Option.bind_eq_some_iff,
    Option.ite_none_right_eq_some, Option.some.injEq] at disclosed
  obtain ⟨user, _, request, found, _, rfl⟩ := disclosed
  exact ⟨request, (Table.findOne_mem found).1, rfl⟩

theorem Db.Refers.evolves {db after : Db} {entry : AccessEntry} (refers : db.Refers entry)
    (evolves : db.Evolves after) : after.Refers entry := by
  obtain ⟨request, stored, named⟩ := refers
  obtain ⟨later, stays, same, _⟩ := evolves.requests request stored
  exact ⟨later, stays, same.trans named⟩

/-- Whoever is neither an admin nor a coordinator sees a frontline request with clearance for it. -/
theorem mayView_frontline_iff {request : Request} {user : User}
    (frontline : request.requiredClearance = .frontline) :
    (user.systemRole ≠ .admin ∧ user.systemRole ≠ .coordinator ∧
        user.clearanceLevel.rank < request.requiredClearance.rank) ↔
      ¬ (user.systemRole = .admin ∨ user.systemRole = .coordinator ∨
        user.clearanceLevel = .frontline) := by
  rw [frontline]
  cases user.clearanceLevel <;> simp [ClearanceLevel.rank]

theorem guard_run (payload : JwtClaims) (db : Db) :
    (JwtStrategy.validate payload).run db =
      (match db.findUser payload.sub with
        | none => .error (.unauthorized "Користувача не знайдено")
        | some user =>
            if user.isBlocked = true then .error (.unauthorized "Обліковий запис заблоковано")
            else .ok user.select.entity, db) := by
  simp only [JwtStrategy.validate, Prog.bind_eq, Prog.run_query_bind, Prog.run_orThrow_bind]
  cases db.findUser payload.sub with
  | none => rfl
  | some user =>
      simp only [Option.map_some, Prog.run_throwIf_bind, User.select]
      split <;> rfl

namespace Audit

/-- What `findOne` leaves to be logged of a user whom the guard has let pass. -/
theorem findOne_logged (db : Db) (user : User) (id : RequestId) :
    entryLeft ((findOneLogging id user).run db).1 =
      (db.findRequest id).bind fun request =>
        if request.requiredClearance = .frontline ∧ request.creatorId ≠ user.id ∧
            (user.systemRole = .admin ∨ user.systemRole = .coordinator ∨
              user.clearanceLevel = .frontline)
        then some ⟨user.id, request.id, .viewDetail, user.clearanceLevel⟩ else none := by
  simp only [findOneLogging, checkClearanceAccess, Prog.bind_eq, Prog.run_query_bind,
    Prog.run_orThrow_bind]
  cases found : db.findRequest id with
  | none => rfl
  | some request =>
      simp only [Option.map_some, Prog.run_throwIf_bind, Option.bind_some, logAccess]
      by_cases frontline : request.requiredClearance = .frontline
      · rw [if_congr (mayView_frontline_iff frontline) rfl rfl]
        by_cases own : request.creatorId = user.id
        · split <;> simp [entryLeft, own]
        · split <;> simp_all [entryLeft]
      · split <;> simp [entryLeft, frontline]

theorem view_logged (audit : Audit) (payload : JwtClaims) (id : RequestId) :
    entryLeft (audit.view payload id) = audit.db.disclosure payload id := by
  simp only [view, Prog.run_bind, guard_run, Db.disclosure]
  cases audit.db.findUser payload.sub with
  | none => rfl
  | some user =>
      by_cases blocked : user.isBlocked = true
      · cases audit.db.findRequest id <;> simp [blocked, entryLeft]
      · have unblocked : user.isBlocked = false := by simpa using blocked
        simp only [unblocked, Bool.false_eq_true, if_false, findOne_logged]
        simp [User.select, SelectedUser.entity, unblocked]

/-! ## One event -/

/-- From `before` to `after`, the log has got these rows, and these entries were lost: together
with those on their way they are the entries that were due. -/
structure Settled (before : Audit) (due : List AccessEntry) (after : Audit)
    (added : List AccessLog) (lost : List AccessEntry) : Prop where
  logs : after.logs.rows = before.logs.rows ++ added
  entries : (added.map AccessLog.toAccessEntry ++ (lost ++ after.pending)).Perm
    (before.pending ++ due)

theorem Settled.trans {a b c : Audit} {first second : List AccessEntry}
    {added more : List AccessLog} {lost lostMore : List AccessEntry}
    (early : Settled a first b added lost) (late : Settled b second c more lostMore) :
    Settled a (first ++ second) c (added ++ more) (lost ++ lostMore) where
  logs := by rw [late.logs, early.logs, List.append_assoc]
  entries := by
    have earlyCount := fun entry => early.entries.count_eq entry
    have lateCount := fun entry => late.entries.count_eq entry
    rw [List.perm_iff_count]
    intro entry
    have atFirst := earlyCount entry
    have atSecond := lateCount entry
    simp only [List.map_append, List.count_append] at atFirst atSecond ⊢
    omega

def Refers (audit : Audit) : Prop := ∀ entry ∈ audit.pending, audit.db.Refers entry

theorem perm_eraseIdx {pending : List AccessEntry} {index : Nat} {entry : AccessEntry}
    (found : pending[index]? = some entry) : (entry :: pending.eraseIdx index).Perm pending := by
  obtain ⟨inside, rfl⟩ := List.getElem?_eq_some_iff.mp found
  exact List.getElem_cons_eraseIdx_perm inside

theorem step_settled (env : ServerEnv) {audit : Audit} (refers : audit.Refers)
    (event : AuditEvent) :
    (audit.step env event).Refers ∧ (audit.step env event).db = event.next env audit.db ∧
      ∃ added, Settled audit (event.disclosed audit.db).toList (audit.step env event)
        added (event.losing audit).toList := by
  cases event with
  | call call =>
      refine ⟨fun entry waits => (refers entry waits).evolves (call.evolves env audit.db), rfl,
        [], ?_, ?_⟩
      · exact (List.append_nil _).symm
      · simp [AuditEvent.disclosed, AuditEvent.losing, step]
  | view payload id =>
      refine ⟨?_, rfl, [], ?_, ?_⟩
      · intro entry waits
        rcases List.mem_append.mp waits with old | made
        · exact refers entry old
        · rw [view_logged, Option.mem_toList] at made
          exact Db.disclosure_refers made
      · exact (List.append_nil _).symm
      · simp [AuditEvent.disclosed, AuditEvent.losing, step, view_logged]
  | written index now =>
      cases found : audit.pending[index]? with
      | none =>
          have same : audit.step env (.written index now) = audit := by simp [step, found]
          rw [same]
          refine ⟨refers, rfl, [], by simp, ?_⟩
          simp [AuditEvent.disclosed, AuditEvent.losing]
      | some entry =>
          have stored : audit.write entry now = audit.logs.append (entry.row now) :=
            if_pos (refers entry (List.mem_of_getElem? found))
          have next : audit.step env (.written index now) =
              ⟨audit.db, audit.logs.append (entry.row now), audit.pending.eraseIdx index⟩ := by
            simp [step, found, stored]
          rw [next]
          refine ⟨fun other waits => refers other (List.mem_of_mem_eraseIdx waits), rfl,
            [entry.row now audit.logs.next], ?_, ?_⟩
          · exact Table.append_rows _ _ _
          · simpa [AuditEvent.disclosed, AuditEvent.losing, AccessEntry.row]
              using perm_eraseIdx found
  | lost index =>
      refine ⟨fun other waits => refers other (List.mem_of_mem_eraseIdx waits), rfl,
        [], ?_, ?_⟩
      · exact (List.append_nil _).symm
      · cases found : audit.pending[index]? with
        | none =>
            have beyond := List.getElem?_eq_none_iff.mp found
            simp [AuditEvent.disclosed, AuditEvent.losing, step, found,
              List.eraseIdx_of_length_le beyond]
        | some entry =>
            simpa [AuditEvent.disclosed, AuditEvent.losing, step, found] using perm_eraseIdx found

end Audit

/-! ## Runs -/

theorem execute_settled (env : ServerEnv) (events : List AuditEvent) {audit : Audit}
    (refers : audit.Refers) :
    ∃ added, Audit.Settled audit (disclosures env audit.db events)
      (execute (Audit.step env) audit events) added (lostEntries env audit events) := by
  induction events generalizing audit with
  | nil => exact ⟨[], by simp, by simp [disclosures, lostEntries]⟩
  | cons event rest ih =>
      obtain ⟨referring, nextDb, added, settled⟩ := Audit.step_settled env refers event
      obtain ⟨more, later⟩ := ih referring
      rw [nextDb] at later
      exact ⟨added ++ more, settled.trans later⟩

/-- After any run that starts with nothing on its way, the log has its old rows and behind them
those of entries that were due; the others that were due are on their way, or are those whose
insert failed. -/
theorem accessLog_exact (env : ServerEnv) (db : Db) (logs : AccessLogs)
    (events : List AuditEvent) :
    ∃ added,
      (execute (Audit.step env) ⟨db, logs, []⟩ events).logs.rows = logs.rows ++ added ∧
        (added.map AccessLog.toAccessEntry ++ (lostEntries env ⟨db, logs, []⟩ events ++
          (execute (Audit.step env) ⟨db, logs, []⟩ events).pending)).Perm
            (disclosures env db events) := by
  have nothing : Audit.Refers ⟨db, logs, []⟩ := fun _ waits => absurd waits List.not_mem_nil
  obtain ⟨added, settled⟩ := execute_settled env events nothing
  exact ⟨added, settled.logs, settled.entries⟩

/-- An admin and a volunteer without clearance look at the request, and its author does. -/
example : disclosures exampleServer (exampleBoard .frontline)
    [.view firstAdmin.claims 0, .view firstVolunteer.claims 0, .view author.claims 0] =
      [⟨firstAdmin.id, 0, .viewDetail, .local⟩] := by rfl

/-! ## Reading the log -/

section Reading

variable {newest : ByLogging} {filters : AccessLogFilters} {payload : JwtClaims} {db : Db}
  {logs : AccessLogs}

theorem mem_matchingLogs {log : AccessLog} :
    log ∈ matchingLogs newest filters logs ↔ log ∈ logs.rows ∧ filters.passes log = true := by
  rw [matchingLogs, OrderBy.mem_run, Table.mem_find]

/-- An answer goes to an admin and is a page of the rows that pass the filters. -/
theorem getAccessLogs_answers {limit offset : Option (Option Int)} {answer : List LoggedAccess}
    (answered : RequestsController.getAccessLogs newest filters limit offset payload db logs =
      .ok answer) :
    (∃ user ∈ db.users.rows, user.id = payload.sub ∧ user.isBlocked = false ∧
        user.systemRole = .admin) ∧
      ∃ page : Page,
        answer = (page.of (matchingLogs newest filters logs)).map (loggedAccess db) := by
  simp only [RequestsController.getAccessLogs, guard_run] at answered
  cases found : db.findUser payload.sub with
  | none => simp [found] at answered
  | some user =>
      obtain ⟨stored, named⟩ := Db.findUser_some found
      simp only [found, User.select, SelectedUser.entity] at answered
      split at answered
      · cases answered
      · next loaded passed =>
        split at passed
        · cases passed
        · next unblocked =>
          cases passed
          split at answered
          · cases answered
          · next admin =>
            refine ⟨⟨user, stored, named, by simpa using unblocked, not_not.mp admin⟩, ?_⟩
            split at answered
            · next rows listed =>
              cases answered
              simp only [RequestsService.getAccessLogs] at listed
              split at listed
              · obtain ⟨page, _, rfl⟩ := Option.map_eq_some_iff.mp listed
                exact ⟨page, rfl⟩
              · cases listed
            · cases answered

theorem getAccessLogs_page (readable : filters.readable = true) {user : User}
    (stored : user ∈ db.users.rows) (named : user.id = payload.sub)
    (unblocked : user.isBlocked = false) (admin : user.systemRole = .admin) {size : Nat}
    (positive : 0 < size) (page : Nat) :
    RequestsController.getAccessLogs newest filters (some (some size)) (some (some (page * size)))
        payload db logs =
      .ok (((Page.mk (some size) (page * size)).of (matchingLogs newest filters logs)).map
        (loggedAccess db)) := by
  have found : db.findUser payload.sub = some user := named ▸ Db.findUser_of_mem stored
  have paged : typeormPage (some size) (some (page * size)) =
      some (Page.mk (some size) (page * size)) := by
    have first : natural (some (size : Int)) = some size := rfl
    have second : natural (some ((page : Int) * size)) = some (page * size) := by
      rw [← Int.natCast_mul]
      rfl
    simp [typeormPage, sqlPage, first, second, positive.ne']
  have whole : ({ filters with limit := some (size : Int), offset := some ((page : Int) * size) } :
      AccessLogFilters).readable = true := readable
  simp only [RequestsController.getAccessLogs, guard_run, found, unblocked, Bool.false_eq_true,
    if_false, User.select, SelectedUser.entity, admin, ne_eq, not_true_eq_false,
    RequestsController.parsedText, RequestsService.getAccessLogs, whole, if_true, paged,
    Option.map_some]
  rfl

end Reading

/-- Whoever is answered is an admin, and reads rows of the log that pass his filters, newest
first; with any page size, each such row is on exactly one of the pages, where the server
puts rows of the same instant in one order for all of them. -/
theorem accessLogs_paged (newest : ByLogging) (filters : AccessLogFilters) (payload : JwtClaims)
    (db : Db) (logs : AccessLogs) :
    (∀ limit offset answer,
        RequestsController.getAccessLogs newest filters limit offset payload db logs =
            .ok answer →
          (∃ user ∈ db.users.rows, user.id = payload.sub ∧ user.isBlocked = false ∧
            user.systemRole = .admin) ∧
          (answer.Pairwise fun left right => right.createdAt ≤ left.createdAt) ∧
          ∀ row ∈ answer, ∃ log ∈ logs.rows, filters.passes log = true ∧
            row = loggedAccess db log) ∧
      ∀ user ∈ db.users.rows, user.id = payload.sub → user.isBlocked = false →
        user.systemRole = .admin → filters.readable = true →
          ∀ size : Nat, 0 < size → ∀ log ∈ logs.rows, filters.passes log = true →
            ∃! page : Nat, ∃ answer,
              RequestsController.getAccessLogs newest filters (some (some size))
                (some (some (page * size))) payload db logs = .ok answer ∧
              loggedAccess db log ∈ answer := by
  constructor
  · intro limit offset answer answered
    obtain ⟨admin, page, rfl⟩ := getAccessLogs_answers answered
    have part := page.of_sublist (matchingLogs newest filters logs)
    refine ⟨admin, List.pairwise_map.mpr ((newest.sorted _).sublist part), ?_⟩
    intro row listed
    obtain ⟨log, inside, rfl⟩ := List.mem_map.mp listed
    obtain ⟨stored, passes⟩ := mem_matchingLogs.mp (part.subset inside)
    exact ⟨log, stored, passes, rfl⟩
  · intro user stored named unblocked admin readable size positive log logged passes
    have distinct : (matchingLogs newest filters logs).Nodup :=
      (newest.perm _).nodup_iff.mpr ((List.Nodup.of_map AccessLog.id logs.keys).filter _)
    obtain ⟨page, here, only⟩ := Page.existsUnique_of distinct positive
      (mem_matchingLogs.mpr ⟨logged, passes⟩)
    refine ⟨page, ⟨_, getAccessLogs_page readable stored named unblocked admin positive page,
      List.mem_map_of_mem here⟩, ?_⟩
    rintro other ⟨answer, answered, listed⟩
    rw [getAccessLogs_page readable stored named unblocked admin positive other] at answered
    cases answered
    obtain ⟨same, inside, equal⟩ := List.mem_map.mp listed
    have identical : same = log := congrArg LoggedAccess.toAccessLog equal
    exact only other (identical ▸ inside)

/-- The only row of a log. -/
theorem accessLogs_paged_listed :
    ∃! page : Nat, ∃ answer,
      RequestsController.getAccessLogs (.descending AccessLog.createdAt)
        ⟨.off, .off, none, .off, .off, none, none⟩ (some (some 20)) (some (some (page * 20)))
          firstAdmin.claims (exampleBoard .frontline)
          (Table.empty.append (AccessEntry.row ⟨firstAdmin.id, 0, .viewDetail, .local⟩ 7)) =
        .ok answer ∧
      loggedAccess (exampleBoard .frontline)
        (AccessEntry.row ⟨firstAdmin.id, 0, .viewDetail, .local⟩ 7 0) ∈ answer :=
  (accessLogs_paged _ _ firstAdmin.claims (exampleBoard .frontline) _).2 firstAdmin
    (by simp [exampleBoard]) rfl rfl rfl rfl 20 (by decide) _
    (by decide) rfl

end VolunteerApi
