import VolunteerApi.Model.UsersService
import VolunteerApi.Relational.Listing

/-!
# `TaskReportsService`

The reports on a task, from `modules/task-reports`: writing, editing, verifying and deleting
them.  The controller hands on the user of the request except to `update`.
-/

set_option autoImplicit false

namespace VolunteerApi

open Relational Programs

/-- `Express.Multer.File` -/
structure UploadedFile where
  filename : String
  mimetype : String
  originalname : String
  deriving DecidableEq, Repr

namespace TaskReportsService

def attachmentOf (file : UploadedFile) : ReportAttachment where
  url := "/uploads/reports/" ++ file.filename
  type := file.mimetype
  name := file.originalname

def newReport (taskId : TaskId) (userId : UserId) (comment : String) (files : List UploadedFile)
    (now : Time) (id : ReportId) : TaskReport where
  id := id
  taskId := taskId
  userId := userId
  comment := comment
  attachments := files.map attachmentOf
  isVerified := false
  verifiedById := none
  verifiedAt := none
  createdAt := now

/-- The row is refused without a comment, a task or a user. -/
def insertReport (taskId : TaskId) (userId : UserId) (comment : BodyValue String)
    (files : List UploadedFile) (now : Time) (db : Db) : Option (Db × TaskReport) :=
  match comment with
  | .value text =>
      if db.tasks.rows.any (fun task => task.id = taskId) ∧
          db.users.rows.any (fun user => user.id = userId) then
        some ({ db with taskReports :=
            db.taskReports.append (newReport taskId userId text files now) },
          newReport taskId userId text files now db.taskReports.next)
      else none
  | _ => none

def create (taskId : TaskId) (userId : UserId) (comment : BodyValue String)
    (files : List UploadedFile) (now : Time) : Service TaskReport :=
  Prog.execOr (.queryFailed "task_reports") (insertReport taskId userId comment files now)

/-- `order: { createdAt: 'ASC' }` -/
def findByTask (taskId : TaskId) : Service (List TaskReport) :=
  Prog.query fun db => (OrderBy.ascending TaskReport.createdAt).run
    (db.taskReports.find fun report => report.taskId = taskId)

def findReport (id : ReportId) (db : Db) : Option TaskReport :=
  db.taskReports.findOne fun report => report.id = id

def findById (id : ReportId) : Service TaskReport := do
  let found ← Prog.query (findReport id)
  Prog.orThrow found (.notFound ("Report " ++ toString id ++ " not found"))

def thirtyMinutesInMs : Nat := 30 * 60 * 1000

/-- `diff > 30` -/
def tooLate (report : TaskReport) (now : Time) : Bool :=
  report.createdAt + thirtyMinutesInMs < now

/-- A verified report is not verified any more. -/
def editedReport (report : TaskReport) (comment : String) : TaskReport :=
  if report.isVerified then
    { report with
      comment := comment
      isVerified := false
      verifiedById := none
      verifiedAt := none }
  else { report with comment := comment }

def saveReport (report : TaskReport) : Service Unit :=
  Prog.exec fun db => { db with taskReports := db.taskReports.saveAll [report] }

def update (id : ReportId) (comment : BodyValue String) (now : Time) : Service TaskReport := do
  let report ← findById id
  Prog.throwIf (tooLate report now = true)
    (.internal "Редагування звіту можливе лише протягом 30 хвилин")
  let text ← Prog.orThrow (comment.over report.comment) (.queryFailed "comment")
  saveReport (editedReport report text)
  return editedReport report text

def verifiedReport (report : TaskReport) (userId : UserId) (now : Time) : TaskReport :=
  { report with isVerified := true, verifiedById := some userId, verifiedAt := some now }

def verifyReport (id : ReportId) (userId : UserId) (now : Time) : Service TaskReport := do
  let report ← findById id
  -- the foreign key
  let verifier ← Prog.query fun db => db.findUser userId
  Prog.throwIf (verifier = none) (.queryFailed "verified_by_id")
  saveReport (verifiedReport report userId now)
  return verifiedReport report userId now

def delete (id : ReportId) (userId : UserId) (now : Time) : Service Unit := do
  let report ← findById id
  Prog.throwIf (report.userId ≠ userId) (.internal "Ви не можете видалити чужий звіт")
  Prog.throwIf (report.isVerified = true) (.internal "Не можна видалити підтверджений звіт")
  Prog.throwIf (tooLate report now = true)
    (.internal "Видалення звіту можливе лише протягом 30 хвилин")
  Prog.exec fun db =>
    { db with taskReports := db.taskReports.delete fun report => report.id = id }

end TaskReportsService

/-! ## The endpoints -/

/-- The requests to `tasks/:taskId/reports`, each by an authenticated user. -/
inductive TaskReportsOp where
  | create (taskId : TaskId) (user : UserId) (comment : BodyValue String)
      (files : List UploadedFile) (now : Time)
  | findAll (taskId : TaskId) (user : UserId)
  | update (id : ReportId) (user : UserId) (comment : BodyValue String) (now : Time)
  | delete (id : ReportId) (user : UserId) (now : Time)
  | verify (id : ReportId) (user : UserId) (now : Time)
  deriving DecidableEq, Repr

end VolunteerApi
