import VolunteerApi.Model.System
import VolunteerApi.Model.TaskReportsService
import VolunteerApi.Programs.Runs
import Mathlib.Logic.Function.Basic

/-!
# Who changes a report

The state of a run carries, next to the database, the last verification of each report: by
whom, and of which comment.  Deleting is for the author, and an edit withdraws the
verification, but the edit itself is open to everybody for half an hour.
-/

set_option autoImplicit false

namespace VolunteerApi

open Relational Programs TaskReportsService

structure ReportVerification where
  userId : UserId
  comment : String
  deriving DecidableEq, Repr

structure ReportState where
  db : Db
  verifications : ReportId → Option ReportVerification

namespace ReportState

def step (s : ReportState) : TaskReportsOp → ReportState
  | .create taskId user comment files now =>
      { s with db := ((TaskReportsService.create taskId user comment files now).run s.db).2 }
  | .findAll taskId _ => { s with db := ((findByTask taskId).run s.db).2 }
  | .update id _ comment now =>
      { s with db := ((TaskReportsService.update id comment now).run s.db).2 }
  | .delete id user now => { s with db := ((TaskReportsService.delete id user now).run s.db).2 }
  | .verify id user now =>
      match (verifyReport id user now).run s.db with
      | (.ok report, after) =>
          ⟨after, Function.update s.verifications id (some ⟨user, report.comment⟩)⟩
      | (.error _, after) => { s with db := after }

end ReportState

/-- A verified report has the comment that its verifier verified. -/
def VerifiedText (s : ReportState) : Prop :=
  ∀ report ∈ s.db.taskReports.rows, report.isVerified = true →
    ∃ userId, report.verifiedById = some userId ∧
      s.verifications report.id = some ⟨userId, report.comment⟩

structure ReportsGuarded (s : ReportState) (op : TaskReportsOp) : Prop where
  edited : ∀ report ∈ s.db.taskReports.rows, ∀ later ∈ (s.step op).db.taskReports.rows,
    later.id = report.id → later.comment ≠ report.comment →
      ∃ comment now, op = .update report.id report.userId comment now
  deleted : ∀ report ∈ s.db.taskReports.rows,
    (∀ later ∈ (s.step op).db.taskReports.rows, later.id ≠ report.id) →
      ∃ now, op = .delete report.id report.userId now
  verified : VerifiedText (s.step op)

/-- An edit in time by somebody else than the author brings no other comment. -/
def EditsOwn (s : ReportState) : TaskReportsOp → Prop
  | .update id user comment now =>
      ∀ report, findReport id s.db = some report → tooLate report now = false →
        user ≠ report.userId →
          ∀ text, comment.over report.comment = some text → text = report.comment
  | _ => True

/-! ## How the calls end -/

theorem findReport_some {id : ReportId} {db : Db} {report : TaskReport}
    (found : findReport id db = some report) :
    report ∈ db.taskReports.rows ∧ report.id = id := by
  simpa [findReport] using Table.findOne_mem found

def savedReport (db : Db) (report : TaskReport) : Db :=
  { db with taskReports := db.taskReports.saveAll [report] }

@[simp] theorem editedReport_id (report : TaskReport) (text : String) :
    (editedReport report text).id = report.id := by
  unfold editedReport
  split <;> rfl

@[simp] theorem editedReport_comment (report : TaskReport) (text : String) :
    (editedReport report text).comment = text := by
  unfold editedReport
  split <;> rfl

@[simp] theorem editedReport_isVerified (report : TaskReport) (text : String) :
    (editedReport report text).isVerified = false := by
  unfold editedReport
  split
  · rfl
  · next unverified => exact Bool.not_eq_true _ ▸ unverified

theorem create_ran (taskId : TaskId) (userId : UserId) (comment : BodyValue String)
    (files : List UploadedFile) (now : Time) (db : Db) :
    ((create taskId userId comment files now).run db).2 = db ∨
      ∃ text, ((create taskId userId comment files now).run db).2 =
        { db with taskReports :=
            db.taskReports.append (newReport taskId userId text files now) } := by
  rw [create, Prog.run_execOr]
  cases comment with
  | absent => exact Or.inl rfl
  | unreadable => exact Or.inl rfl
  | value text =>
      unfold insertReport
      split
      · next result inserted =>
        simp only [Option.ite_none_right_eq_some, Option.some.injEq] at inserted
        rw [← inserted.2]
        exact Or.inr ⟨text, rfl⟩
      · exact Or.inl rfl

/-- An edit goes through for a stored report that is not too old, with a comment that can be
stored. -/
theorem update_ran (id : ReportId) (comment : BodyValue String) (now : Time) (db : Db) :
    (((update id comment now).run db).2 = db ∧
        ∀ report text, findReport id db = some report → tooLate report now = false →
          comment.over report.comment ≠ some text) ∨
      ∃ report text, findReport id db = some report ∧ tooLate report now = false ∧
        comment.over report.comment = some text ∧
        ((update id comment now).run db).2 = savedReport db (editedReport report text) := by
  simp only [update, findById, Prog.bind_eq, Prog.bind_assoc, Prog.run_query_bind,
    Prog.run_orThrow_bind]
  cases found : findReport id db with
  | none => exact Or.inl ⟨rfl, fun _ _ absent => by cases absent⟩
  | some report =>
      simp only [Prog.run_throwIf_bind]
      by_cases late : tooLate report now = true
      · rw [if_pos late]
        refine Or.inl ⟨rfl, ?_⟩
        rintro _ _ ⟨⟩ inTime
        rw [late] at inTime
        cases inTime
      · rw [if_neg late, Prog.run_orThrow_bind]
        cases given : comment.over report.comment with
        | none =>
            refine Or.inl ⟨rfl, ?_⟩
            rintro _ _ ⟨⟩ _ text
            rw [given] at text
            cases text
        | some text => exact Or.inr ⟨report, text, rfl, Bool.not_eq_true _ ▸ late, given, rfl⟩

theorem verifyReport_ran (id : ReportId) (userId : UserId) (now : Time) (db : Db) :
    (∃ error, (verifyReport id userId now).run db = (.error error, db)) ∨
      ∃ report ∈ db.taskReports.rows, report.id = id ∧
        (verifyReport id userId now).run db =
          (.ok (verifiedReport report userId now),
            savedReport db (verifiedReport report userId now)) := by
  simp only [verifyReport, findById, Prog.bind_eq, Prog.bind_assoc, Prog.run_query_bind,
    Prog.run_orThrow_bind]
  cases found : findReport id db with
  | none => exact Or.inl ⟨_, rfl⟩
  | some report =>
      obtain ⟨stored, same⟩ := findReport_some found
      simp only [Prog.run_throwIf_bind]
      split
      · exact Or.inl ⟨_, rfl⟩
      · exact Or.inr ⟨report, stored, same, rfl⟩

/-- Only the author's call deletes, and nothing but his report. -/
theorem delete_ran (id : ReportId) (userId : UserId) (now : Time) (db : Db) :
    ((delete id userId now).run db).2 = db ∨
      ∃ report ∈ db.taskReports.rows, report.id = id ∧ report.userId = userId ∧
        ((delete id userId now).run db).2 =
          { db with taskReports := db.taskReports.delete fun report => report.id = id } := by
  simp only [delete, findById, Prog.bind_eq, Prog.bind_assoc, Prog.run_query_bind,
    Prog.run_orThrow_bind]
  cases found : findReport id db with
  | none => exact Or.inl rfl
  | some report =>
      obtain ⟨stored, same⟩ := findReport_some found
      simp only [Prog.run_throwIf_bind]
      split
      · exact Or.inl rfl
      · next own =>
        split
        · exact Or.inl rfl
        · split
          · exact Or.inl rfl
          · exact Or.inr ⟨report, stored, same, Decidable.of_not_not own, rfl⟩

/-! ## One call -/

section Calls

variable {s : ReportState}

theorem guarded_of_same {op : TaskReportsOp} (text : VerifiedText s) (same : s.step op = s) :
    ReportsGuarded s op where
  edited := by
    intro report stored later kept sameId changed
    rw [same] at kept
    exact absurd (by rw [Table.eq_of_key kept stored sameId]) changed
  deleted := by
    intro report stored gone
    rw [same] at gone
    exact absurd rfl (gone report stored)
  verified := by
    rw [same]
    exact text

theorem create_guarded (text : VerifiedText s) (taskId : TaskId) (user : UserId)
    (comment : BodyValue String) (files : List UploadedFile) (now : Time) :
    ReportsGuarded s (.create taskId user comment files now) := by
  rcases create_ran taskId user comment files now s.db with refused | ⟨given, created⟩
  · apply guarded_of_same text
    simp only [ReportState.step, refused]
  · have stepped : s.step (.create taskId user comment files now) =
        { s with db :=
          { s.db with taskReports :=
              s.db.taskReports.append (newReport taskId user given files now) } } := by
      simp only [ReportState.step, created]
    have added := Table.added_append s.db.taskReports (newReport taskId user given files now)
      (fun _ => rfl)
    refine ⟨?_, ?_, ?_⟩ <;> rw [stepped]
    · intro report stored later kept sameId changed
      rcases (added.mem later).mp kept with old | rfl
      · exact absurd (by rw [Table.eq_of_key old stored sameId]) changed
      · exact absurd sameId.symm (Table.key_ne_next stored)
    · intro report stored gone
      exact absurd rfl (gone report ((added.mem report).mpr (Or.inl stored)))
    · intro report kept verified
      rcases (added.mem report).mp kept with old | rfl
      · exact text report old verified
      · cases verified

theorem delete_guarded (text : VerifiedText s) (id : ReportId) (user : UserId) (now : Time) :
    ReportsGuarded s (.delete id user now) := by
  rcases delete_ran id user now s.db with refused | ⟨own, ownStored, rfl, rfl, removed⟩
  · apply guarded_of_same text
    simp only [ReportState.step, refused]
  · have kept_iff : ∀ row, row ∈ (s.step (.delete own.id own.userId now)).db.taskReports.rows ↔
        row ∈ s.db.taskReports.rows ∧ row.id ≠ own.id := by
      intro row
      simp only [ReportState.step, removed, Table.mem_delete, decide_eq_false_iff_not, ne_eq]
    refine ⟨?_, ?_, ?_⟩
    · intro report stored later kept sameId changed
      have old := ((kept_iff later).mp kept).1
      exact absurd (by rw [Table.eq_of_key old stored sameId]) changed
    · intro report stored gone
      by_cases here : report.id = own.id
      · rw [Table.eq_of_key stored ownStored here]
        exact ⟨now, rfl⟩
      · exact absurd rfl (gone report ((kept_iff report).mpr ⟨stored, here⟩))
    · intro report kept verified
      exact text report ((kept_iff report).mp kept).1 verified

theorem verify_guarded (text : VerifiedText s) (id : ReportId) (user : UserId) (now : Time) :
    ReportsGuarded s (.verify id user now) := by
  rcases verifyReport_ran id user now s.db with ⟨error, refused⟩ | ⟨old, stored, rfl, finished⟩
  · apply guarded_of_same text
    simp only [ReportState.step, refused]
  · have stepped : s.step (.verify old.id user now) =
        ⟨savedReport s.db (verifiedReport old user now),
          Function.update s.verifications old.id (some ⟨user, old.comment⟩)⟩ := by
      simp only [ReportState.step, finished]
      rfl
    have replaced := Table.replaced_save (verifiedReport old user now) stored rfl rfl
    refine ⟨?_, ?_, ?_⟩ <;> rw [stepped]
    · intro report member later kept sameId changed
      rcases replaced.later_of member kept sameId with ⟨rfl, rfl⟩ | rfl
      · exact absurd rfl changed
      · exact absurd rfl changed
    · intro report member gone
      obtain ⟨later, kept, sameId⟩ := replaced.survives member
      exact absurd sameId (gone later kept)
    · intro report kept verified
      rcases (replaced.mem report).mp kept with rfl | ⟨member, other⟩
      · exact ⟨user, rfl, Function.update_self _ _ _⟩
      · obtain ⟨userId, by_, verification⟩ := text report member verified
        have apart : report.id ≠ old.id := fun same => other (Table.eq_of_key member stored same)
        exact ⟨userId, by_, (Function.update_of_ne apart _ _).trans verification⟩

theorem update_guarded_iff (text : VerifiedText s) (id : ReportId) (user : UserId)
    (comment : BodyValue String) (now : Time) :
    VerifiedText (s.step (.update id user comment now)) ∧
      (ReportsGuarded s (.update id user comment now) ↔
        EditsOwn s (.update id user comment now)) := by
  rcases update_ran id comment now s.db with
    ⟨refused, why⟩ | ⟨old, new, found, inTime, given, edited⟩
  · have same : s.step (.update id user comment now) = s := by
      simp only [ReportState.step, refused]
    refine ⟨by rw [same]; exact text, iff_of_true (guarded_of_same text same) ?_⟩
    intro report found inTime _ new given
    exact absurd given (why report new found inTime)
  · obtain ⟨stored, rfl⟩ := findReport_some found
    have stepped : s.step (.update old.id user comment now) =
        { s with db := savedReport s.db (editedReport old new) } := by
      simp only [ReportState.step, edited]
    have replaced := Table.replaced_save (editedReport old new) stored
      (editedReport_id old new) (editedReport_id old new)
    have textAfter : VerifiedText (s.step (.update old.id user comment now)) := by
      rw [stepped]
      intro report kept verified
      rcases (replaced.mem report).mp kept with rfl | ⟨member, _⟩
      · rw [editedReport_isVerified] at verified
        cases verified
      · exact text report member verified
    refine ⟨textAfter, ?_⟩
    constructor
    · rintro ⟨allowed, _, _⟩ report again _ foreign other otherGiven
      obtain rfl := Option.some.inj (found.symm.trans again)
      obtain rfl := Option.some.inj (given.symm.trans otherGiven)
      by_contra different
      rw [stepped] at allowed
      obtain ⟨_, _, own⟩ := allowed old stored _ replaced.new_mem (editedReport_id old new)
        (by rwa [editedReport_comment])
      cases own
      exact foreign rfl
    · intro own
      refine ⟨?_, ?_, textAfter⟩ <;> rw [stepped]
      · intro report member later kept sameId changed
        rcases replaced.later_of member kept sameId with ⟨rfl, rfl⟩ | rfl
        · rw [editedReport_comment] at changed
          by_cases author : user = report.userId
          · exact ⟨comment, now, by rw [author]⟩
          · exact absurd (own report found inTime author new given) changed
        · exact absurd rfl changed
      · intro report member gone
        obtain ⟨later, kept, sameId⟩ := replaced.survives member
        exact absurd sameId (gone later kept)

theorem reportsGuarded_step (text : VerifiedText s) (op : TaskReportsOp) :
    VerifiedText (s.step op) ∧ (ReportsGuarded s op ↔ EditsOwn s op) := by
  cases op with
  | create taskId user comment files now =>
      have guarded := create_guarded text taskId user comment files now
      exact ⟨guarded.verified, iff_of_true guarded trivial⟩
  | findAll taskId user =>
      have guarded : ReportsGuarded s (.findAll taskId user) := guarded_of_same text rfl
      exact ⟨guarded.verified, iff_of_true guarded trivial⟩
  | update id user comment now => exact update_guarded_iff text id user comment now
  | delete id user now =>
      have guarded := delete_guarded text id user now
      exact ⟨guarded.verified, iff_of_true guarded trivial⟩
  | verify id user now =>
      have guarded := verify_guarded text id user now
      exact ⟨guarded.verified, iff_of_true guarded trivial⟩

end Calls

/-- Comments, deletions and verifications are as they should be in a run, exactly if nobody
edits the report of another user in time and to another comment. -/
theorem reportsGuarded_iff {s : ReportState} (text : VerifiedText s) (ops : List TaskReportsOp) :
    Throughout ReportState.step ReportsGuarded s ops ↔
      Throughout ReportState.step EditsOwn s ops :=
  throughout_congr_of (I := VerifiedText) (fun _ op text => (reportsGuarded_step text op).1)
    (fun _ op text => (reportsGuarded_step text op).2) text ops

/-- A report by the first volunteer, not verified yet. -/
def reportedBoard : ReportState where
  db := { exampleBoard .local with
    taskReports := Table.empty.append (newReport 0 1 "Доставлено" [] 1767225600000) }
  verifications := fun _ => none

theorem reportedBoard_text : VerifiedText reportedBoard := by
  intro report stored verified
  obtain rfl : report = newReport 0 1 "Доставлено" [] 1767225600000 0 :=
    List.mem_singleton.mp stored
  cases verified

/-- The second volunteer rewrites it a minute later. -/
def rewritten : List TaskReportsOp := [.update 0 2 (.value "Не доставлено") 1767225660000]

theorem reportsGuarded_iff_witness :
    Throughout ReportState.step ReportsGuarded reportedBoard rewritten ↔
      Throughout ReportState.step EditsOwn reportedBoard rewritten :=
  reportsGuarded_iff reportedBoard_text rewritten

theorem reportsGuarded_fails :
    ¬ Throughout ReportState.step ReportsGuarded reportedBoard rewritten := by
  rintro ⟨guarded, _⟩
  obtain ⟨_, _, own⟩ := guarded.edited
    (newReport 0 1 "Доставлено" [] 1767225600000 0) List.mem_cons_self
    (newReport 0 1 "Не доставлено" [] 1767225600000 0) (by decide +kernel) rfl (by decide)
  cases own

end VolunteerApi
