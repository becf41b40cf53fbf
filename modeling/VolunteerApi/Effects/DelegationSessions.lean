import VolunteerApi.Effects.DelegationOutcomes
import VolunteerApi.Programs.Checks
import VolunteerApi.Programs.Sessions

/-!
# Delegation calls, statement by statement

Where a call of `delegateTask`, `acceptDelegation`, `unacceptDelegation` or
`declineDelegation` stands while others run, and all that its next statement can
do to the delegations.
-/

set_option autoImplicit false

namespace VolunteerApi

open Relational Programs
open TasksService

inductive DelegationCall where
  | delegate (taskId : TaskId) (dto : DelegateTaskDto) (coordinator : User) (now : Time)
  | accept (taskId : TaskId) (organizationId : OrgId) (user : User)
  | unaccept (taskId : TaskId) (organizationId : OrgId) (user : User)
  | decline (taskId : TaskId) (organizationId : OrgId) (user : User)

def DelegationCall.program : DelegationCall → Service Unit
  | .delegate taskId dto coordinator now => delegateTask taskId dto coordinator now
  | .accept taskId organizationId user => acceptDelegation taskId organizationId user
  | .unaccept taskId organizationId user => unacceptDelegation taskId organizationId user
  | .decline taskId organizationId user => declineDelegation taskId organizationId user

/-! ## Where a call stands -/

/-- What `acceptDelegation` does once nothing speaks against it. -/
def saveAcceptance (organizationId : OrgId) (loaded : LoadedDelegation) : Service Unit := do
  saveDelegation loaded.delegation (some true)
  match loaded.request with
  | some request => setManagingOrganization request.id organizationId
  | none => return ()

/-- The call has made its checks and its next statement writes the delegation. -/
def DelegationCall.AboutToWrite : DelegationCall → Service Unit → Prop
  | .delegate taskId dto coordinator now, rest => rest = upsertDelegation taskId dto coordinator now
  | .accept taskId organizationId _, rest =>
      ∃ loaded, rest = saveAcceptance organizationId loaded ∧
        loaded.delegation.slot = (taskId, organizationId)
  | _, _ => False

section Stages

variable (Checked : Db → DelegationCall → Prop)

/-- What is left to do after the checks.  `Checked` is what they have shown and still holds. -/
inductive Ready : DelegationCall → Db → Service Unit → Prop
  | upserting {taskId : TaskId} {dto : DelegateTaskDto} {coordinator : User} {now : Time} {db : Db}
      (checked : Checked db (.delegate taskId dto coordinator now)) :
      Ready (.delegate taskId dto coordinator now) db (upsertDelegation taskId dto coordinator now)
  | accepting {taskId : TaskId} {organizationId : OrgId} {user : User} {db : Db}
      (loaded : LoadedDelegation) (stored : Stored db loaded.delegation)
      (slot : loaded.delegation.slot = (taskId, organizationId))
      (checked : Checked db (.accept taskId organizationId user)) :
      Ready (.accept taskId organizationId user) db (saveAcceptance organizationId loaded)
  | managing {taskId : TaskId} {organizationId : OrgId} {user : User} {db : Db}
      (requestId : RequestId) :
      Ready (.accept taskId organizationId user) db
        (setManagingOrganization requestId organizationId)
  | unaccepting {taskId : TaskId} {organizationId : OrgId} {user : User} {db : Db}
      (copy : TaskDelegation) (stored : Stored db copy)
      (slot : copy.slot = (taskId, organizationId)) :
      Ready (.unaccept taskId organizationId user) db (saveDelegation copy none)
  | declining {taskId : TaskId} {organizationId : OrgId} {user : User} {db : Db}
      (copy : TaskDelegation) (stored : Stored db copy)
      (slot : copy.slot = (taskId, organizationId)) :
      Ready (.decline taskId organizationId user) db (saveDelegation copy (some false))
  | returning {call : DelegationCall} {db : Db} : Ready call db (.ret ())
  | failing {call : DelegationCall} {db : Db} (error : HttpException) : Ready call db (.fail error)

/-- All that the statement of a call can do to the delegations. -/
inductive Writes (db : Db) (rest : Service Unit) : DelegationCall → Db → Prop
  | nothing (call : DelegationCall) (after : Db) (same : after.delegations = db.delegations) :
      Writes db rest call after
  | upserts (taskId : TaskId) (dto : DelegateTaskDto) (coordinator : User) (now : Time)
      (checked : Checked db (.delegate taskId dto coordinator now)) :
      Writes db rest (.delegate taskId dto coordinator now)
        (upserted taskId dto coordinator now db)
  | accepts (taskId : TaskId) (organizationId : OrgId) (user : User) (copy : TaskDelegation)
      (stored : Stored db copy) (slot : copy.slot = (taskId, organizationId))
      (checked : Checked db (.accept taskId organizationId user))
      (about : DelegationCall.AboutToWrite (.accept taskId organizationId user) rest) :
      Writes db rest (.accept taskId organizationId user) (withAccepted db copy (some true))
  | unaccepts (taskId : TaskId) (organizationId : OrgId) (user : User) (copy : TaskDelegation)
      (stored : Stored db copy) (slot : copy.slot = (taskId, organizationId)) :
      Writes db rest (.unaccept taskId organizationId user) (withAccepted db copy none)
  | declines (taskId : TaskId) (organizationId : OrgId) (user : User) (copy : TaskDelegation)
      (stored : Stored db copy) (slot : copy.slot = (taskId, organizationId)) :
      Writes db rest (.decline taskId organizationId user) (withAccepted db copy (some false))

end Stages

variable {Checked : Db → DelegationCall → Prop}

theorem Writes.slotsKept {db after : Db} {rest : Service Unit} {call : DelegationCall}
    (writes : Writes Checked db rest call after) : SlotsKept db after := by
  cases writes with
  | nothing call after same => exact slotsKept_of_same same
  | upserts taskId dto coordinator now checked => exact slotsKept_upserted _ _ _ _ db
  | accepts taskId organizationId user copy stored slot checked about =>
      exact slotsKept_withAccepted db copy (some true)
  | unaccepts taskId organizationId user copy stored slot =>
      exact slotsKept_withAccepted db copy none
  | declines taskId organizationId user copy stored slot =>
      exact slotsKept_withAccepted db copy (some false)

theorem Ready.later {db later : Db} {call : DelegationCall} {rest : Service Unit}
    (ready : Ready Checked call db rest) (kept : SlotsKept db later)
    (checked : call.AboutToWrite rest → Checked db call → Checked later call) :
    Ready Checked call later rest := by
  cases ready with
  | upserting before => exact .upserting (checked rfl before)
  | accepting loaded stored slot before =>
      exact .accepting loaded (stored.later kept) slot (checked ⟨loaded, rfl, slot⟩ before)
  | managing requestId => exact .managing requestId
  | unaccepting copy stored slot => exact .unaccepting copy (stored.later kept) slot
  | declining copy stored slot => exact .declining copy (stored.later kept) slot
  | returning => exact .returning
  | failing error => exact .failing error

/-- The statement after the checks: its write and what is left, or its failure. -/
theorem Ready.of_execOr {db : Db} {rest : Service Unit} {call : DelegationCall}
    {lock : Option TaskId} {change : Db → Db} {next : Db → Service Unit} {error : HttpException}
    {effect : Db → Option (Db × Unit)} {f : Unit → Service Unit}
    (same : .stmt lock change next = (Prog.execOr error effect).bind f)
    (writes : ∀ result, effect db = some result →
      Writes Checked db rest call result.1 ∧ Ready Checked call result.1 (f result.2)) :
    Writes Checked db rest call (change db) ∧
      Ready Checked call (change db) (next db) := by
  rcases Prog.execOr_bind_stmt same db with ⟨_, stays, fails⟩ | ⟨result, hit, changed, goes⟩
  · rw [stays, fails]
    exact ⟨.nothing _ _ rfl, .failing error⟩
  · rw [changed, goes]
    exact writes result hit

theorem Ready.statement {db : Db} {call : DelegationCall} {lock : Option TaskId}
    {effect : Db → Db} {next : Db → Service Unit}
    (ready : Ready Checked call db (.stmt lock effect next)) :
    Writes Checked db (.stmt lock effect next) call (effect db) ∧
      Ready Checked call (effect db) (next db) := by
  generalize same : Prog.stmt lock effect next = rest at ready
  cases ready with
  | upserting checked =>
      refine Ready.of_execOr (same.trans (Prog.bind_ret _).symm) fun result hit => ?_
      cases (Option.ite_none_right_eq_some.mp hit).2
      exact ⟨.upserts _ _ _ _ checked, .returning⟩
  | accepting loaded stored slot checked =>
      refine Ready.of_execOr same fun result hit => ?_
      cases (Option.ite_none_right_eq_some.mp hit).2
      refine ⟨.accepts _ _ _ loaded.delegation stored slot checked ⟨loaded, rfl, slot⟩, ?_⟩
      cases loaded.request with
      | none => exact .returning
      | some request => exact .managing request.id
  | managing requestId =>
      refine Ready.of_execOr (same.trans (Prog.bind_ret _).symm) fun result hit => ?_
      cases (Option.ite_none_right_eq_some.mp hit).2
      exact ⟨.nothing _ _ rfl, .returning⟩
  | unaccepting copy stored slot =>
      refine Ready.of_execOr (same.trans (Prog.bind_ret _).symm) fun result hit => ?_
      cases (Option.ite_none_right_eq_some.mp hit).2
      exact ⟨.unaccepts _ _ _ copy stored slot, .returning⟩
  | declining copy stored slot =>
      refine Ready.of_execOr (same.trans (Prog.bind_ret _).symm) fun result hit => ?_
      cases (Option.ite_none_right_eq_some.mp hit).2
      exact ⟨.declines _ _ _ copy stored slot, .returning⟩
  | returning => cases same
  | failing error => cases same

/-! ## From the call to its checks -/

section Calls

variable {Inv : Db → Prop}

/-- What the others keep between two statements. -/
def Keeps (Inv : Db → Prop) (db later : Db) : Prop := Inv later ∧ SlotsKept db later

theorem keeps_trans (Inv : Db → Prop) (first second third : Db) (before : Keeps Inv first second)
    (after : Keeps Inv second third) : Keeps Inv first third :=
  ⟨after.1, before.2.trans after.2⟩

theorem checks_ensureOrgCoordinator_bind {organizationId : OrgId} {user : User}
    {rely : Db → Db → Prop} {Ready : Db → Service Unit → Prop} {db : Db}
    {f : Unit → Service Unit} (rest : ∀ now, Prog.Checks rely Ready now (f ())) :
    Prog.Checks rely Ready db ((ensureOrgCoordinator organizationId user).bind f) := by
  unfold ensureOrgCoordinator
  by_cases admin : user.systemRole = .admin
  · rw [if_pos admin]
    exact rest db
  · rw [if_neg admin]
    refine .reads _ ?_
    intro now _
    apply Prog.checks_throwIf_bind
    intro _
    exact rest now

theorem checks_setAccepted_bind {loaded : LoadedDelegation} {isAccepted : Option Bool}
    {rely : Db → Db → Prop} {Ready : Db → Service Unit → Prop} {db : Db}
    {f : Unit → Service Unit}
    (rest : Prog.Checks rely Ready db ((saveDelegation loaded.delegation isAccepted).bind f)) :
    Prog.Checks rely Ready db ((setAccepted loaded isAccepted).bind f) := by
  rw [setAccepted, Prog.bind_eq, Prog.bind_assoc]
  exact Prog.checks_throwIf_bind fun _ => rest

/-- What the last check of a call has seen. -/
def Passed (db : Db) : DelegationCall → Prop
  | .delegate taskId dto _ _ =>
      (findDelegation db taskId dto.organizationId).bind TaskDelegation.isAccepted ≠ some true
  | .accept taskId organizationId _ =>
      ∀ other, acceptedOn db taskId = some other → other.organizationId = organizationId
  | _ => True

theorem program_checks (passed : ∀ db call, Inv db → Passed db call → Checked db call)
    (call : DelegationCall) (db : Db) :
    Prog.Checks (Keeps Inv) (Ready Checked call) db call.program := by
  cases call with
  | delegate taskId dto coordinator now =>
      apply Prog.checks_query_bind
      intro first _
      apply Prog.checks_orThrow_bind
      intro task _
      apply Prog.checks_query_bind
      intro second _
      apply Prog.checks_throwIf_bind
      intro _
      apply Prog.checks_query_bind
      intro third along
      apply Prog.checks_throwIf_bind
      intro pending
      exact .ready (.upserting (passed third _ along.1 pending))
  | accept taskId organizationId user =>
      apply checks_ensureOrgCoordinator_bind
      intro start
      apply Prog.checks_query_bind
      intro first _
      apply Prog.checks_orThrow_bind
      intro loaded hit
      obtain ⟨stored, slot⟩ := stored_of_findDelegation (loadDelegation_some hit).1
      apply Prog.checks_query_bind
      intro second along
      apply Prog.checks_throwIf_bind
      intro free
      apply checks_setAccepted_bind
      refine .ready (.accepting loaded (stored.later along.2) slot (passed second _ along.1 ?_))
      intro other same
      change ¬ (acceptedOn second taskId).any _ = true at free
      rw [same] at free
      simpa using free
  | unaccept taskId organizationId user =>
      apply checks_ensureOrgCoordinator_bind
      intro start
      apply Prog.checks_query_bind
      intro first _
      apply Prog.checks_orThrow_bind
      intro loaded hit
      obtain ⟨stored, slot⟩ := stored_of_findDelegation (loadDelegation_some hit).1
      apply Prog.checks_throwIf_bind
      intro _
      apply Prog.checks_throwIf_bind
      intro _
      exact .ready (.unaccepting loaded.delegation stored slot)
  | decline taskId organizationId user =>
      apply checks_ensureOrgCoordinator_bind
      intro start
      apply Prog.checks_query_bind
      intro first _
      apply Prog.checks_orThrow_bind
      intro loaded hit
      obtain ⟨stored, slot⟩ := stored_of_findDelegation (loadDelegation_some hit).1
      apply Prog.checks_throwIf_bind
      intro _
      exact .ready (.declining loaded.delegation stored slot)

/-! ## Any interleaving -/

variable {ι : Type}

abbrev DelegationSessions (ι : Type) := Sessions ι Db TaskId HttpException Unit

def openedDelegations (calls : ι → DelegationCall) (db : Db) : DelegationSessions ι where
  store := db
  session i := .auto (calls i).program
  holder _ := none

inductive Underway (Inv : Db → Prop) (Checked : Db → DelegationCall → Prop) (db : Db)
    (call : DelegationCall) : Session Db TaskId HttpException Unit → Prop
  | running (rest : Service Unit) (checks : Prog.Checks (Keeps Inv) (Ready Checked call) db rest) :
      Underway Inv Checked db call (.auto rest)
  | done (result : Except HttpException Unit) : Underway Inv Checked db call (.done result)

/-- The session's next statement writes its delegation. -/
def AtWrite (calls : ι → DelegationCall) (c : DelegationSessions ι) (i : ι) : Prop :=
  ∃ rest, c.session i = .auto rest ∧ (calls i).AboutToWrite rest

structure InOrder (Inv : Db → Prop) (Checked : Db → DelegationCall → Prop)
    (calls : ι → DelegationCall) (c : DelegationSessions ι) : Prop where
  inv : Inv c.store
  underway : ∀ i, Underway Inv Checked c.store (calls i) (c.session i)

theorem openedDelegations_inOrder
    (passed : ∀ db call, Inv db → Passed db call → Checked db call)
    (calls : ι → DelegationCall) {db : Db} (start : Inv db) :
    InOrder Inv Checked calls (openedDelegations calls db) := by
  refine ⟨start, ?_⟩
  intro i
  exact .running _ (program_checks passed (calls i) db)

theorem Underway.later {db later : Db} {call : DelegationCall}
    {session : Session Db TaskId HttpException Unit}
    (underway : Underway Inv Checked db call session) (kept : Keeps Inv db later)
    (checked : ∀ rest, session = .auto rest → call.AboutToWrite rest → Checked db call →
      Checked later call) : Underway Inv Checked later call session := by
  cases underway with
  | running rest checks =>
      refine .running rest (checks.stable (keeps_trans Inv) kept ?_)
      intro ready
      exact ready.later kept.2 (checked rest rfl)
  | done result => exact .done result

variable [DecidableEq ι] {calls : ι → DelegationCall} {c : DelegationSessions ι} {i : ι}

theorem InOrder.finish (inOrder : InOrder Inv Checked calls c)
    (result : Except HttpException Unit) :
    InOrder Inv Checked calls
      { c with session := Function.update c.session i (.done result) } := by
  refine ⟨inOrder.inv, ?_⟩
  intro j
  by_cases same : j = i
  · subst same
    simpa using Underway.done result
  · simpa [same] using inOrder.underway j

theorem InOrder.execute (inOrder : InOrder Inv Checked calls c) {lock : Option TaskId}
    {effect : Db → Db} {next : Db → Service Unit}
    (here : c.session i = .auto (.stmt lock effect next))
    (inv : ∀ rest after, c.session i = .auto rest →
      Writes Checked c.store rest (calls i) after → Inv after)
    (checked : ∀ rest after, c.session i = .auto rest →
      Writes Checked c.store rest (calls i) after →
        ∀ j, j ≠ i → AtWrite calls c j → Checked c.store (calls j) → Checked after (calls j)) :
    Writes Checked c.store (.stmt lock effect next) (calls i) (effect c.store) ∧
      InOrder Inv Checked calls
        { c with
          store := effect c.store
          session := Function.update c.session i (.auto (next c.store)) } := by
  have statement : Writes Checked c.store (.stmt lock effect next) (calls i) (effect c.store) ∧
      Prog.Checks (Keeps Inv) (Ready Checked (calls i)) (effect c.store) (next c.store) := by
    have underway := inOrder.underway i
    rw [here] at underway
    cases underway with
    | running _ checks =>
        rcases checks.statement with ready | ⟨_, rfl, later⟩
        · obtain ⟨writes, after⟩ := ready.statement
          exact ⟨writes, .ready after⟩
        · exact ⟨.nothing _ _ rfl, later c.store ⟨inOrder.inv, slotsKept_of_same rfl⟩⟩
  obtain ⟨writes, mine⟩ := statement
  have kept : Keeps Inv c.store (effect c.store) := ⟨inv _ _ here writes, writes.slotsKept⟩
  refine ⟨writes, kept.1, ?_⟩
  intro j
  by_cases same : j = i
  · subst same
    simpa using Underway.running _ mine
  · have away := (inOrder.underway j).later kept fun rest session about =>
      checked _ _ here writes j same ⟨rest, session, about⟩
    simpa [same] using away

/-- One step: the session's statement writes what its call may write, or nothing happens. -/
theorem InOrder.step (inOrder : InOrder Inv Checked calls c) (i : ι)
    (inv : ∀ rest after, c.session i = .auto rest →
      Writes Checked c.store rest (calls i) after → Inv after)
    (checked : ∀ rest after, c.session i = .auto rest →
      Writes Checked c.store rest (calls i) after →
        ∀ j, j ≠ i → AtWrite calls c j → Checked c.store (calls j) → Checked after (calls j)) :
    InOrder Inv Checked calls (c.step i) ∧
      ((c.step i).store = c.store ∨
        ∃ rest, Writes Checked c.store rest (calls i) (c.step i).store) := by
  have underway := inOrder.underway i
  have moves := c.step_moves i
  generalize c.step i = later at moves
  cases moves with
  | stays => exact ⟨inOrder, Or.inl rfl⟩
  | returns value here => exact ⟨inOrder.finish (.ok value), Or.inl rfl⟩
  | throws error here => exact ⟨inOrder.finish (.error error), Or.inl rfl⟩
  | executes lock effect next here free =>
      obtain ⟨writes, after⟩ := inOrder.execute here inv checked
      exact ⟨after, Or.inr ⟨_, writes⟩⟩
  | commits value pending here | aborts error pending here
  | stages lock effect next pending here free =>
      rw [here] at underway
      cases underway

end Calls

end VolunteerApi
