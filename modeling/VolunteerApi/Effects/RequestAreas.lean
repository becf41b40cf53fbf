import VolunteerApi.Effects.Evolution
import VolunteerApi.Model.RequestCascade

/-!
# What the calls about requests touch

`RequestsService` saves the request it has loaded, and `update` the tasks and assignments that
were loaded with it.
-/

set_option autoImplicit false

namespace VolunteerApi

open Relational Programs Prog Db

def requestScope : Scope := .ofTables [.requests, .tasks, .assignments]

/-- The held request is stored, as far as its fixed columns go. -/
def Request.Known (request : Request) (db : Db) : Prop :=
  db.requests.Knows Request.authorship request

theorem Request.Known.evolves {request : Request} {db after : Db} (known : request.Known db)
    (along : db.Evolves after) : request.Known after := Table.Knows.evolves known along.requests

structure LoadedRequest.Known (loaded : LoadedRequest) (db : Db) : Prop where
  request : loaded.request.Known db
  tasks : ∀ task ∈ loaded.tasks, db.tasks.Knows Task.authorship task
  assignments : ∀ assignment ∈ loaded.assignments,
    db.assignments.Knows TaskAssignment.slot assignment

namespace LoadedRequest.Known

variable {loaded : LoadedRequest} {db : Db}

theorem of_load {id : RequestId} (found : db.loadRequest id = some loaded) : loaded.Known db := by
  obtain ⟨request, foundRequest, rfl⟩ := Option.map_eq_some_iff.mp found
  refine ⟨Table.knows_of_mem (findRequest_some foundRequest).1, ?_, ?_⟩
  · intro task held
    exact Table.knows_of_mem ((Table.mem_find _ _ _).mp held).1
  · intro assignment held
    obtain ⟨task, _, ofTask⟩ := List.mem_flatMap.mp held
    exact Table.knows_of_mem (mem_assignmentsOf.mp ofTask).1

theorem evolves {after : Db} (known : loaded.Known db) (along : db.Evolves after) :
    loaded.Known after :=
  ⟨known.request.evolves along, fun task held => (known.tasks task held).evolves along.tasks,
    fun assignment held => (known.assignments assignment held).evolves along.assignments⟩

end LoadedRequest.Known

namespace RequestsService

theorem saveRequestRow_stays (request copy : Request) (sameId : copy.id = request.id)
    (sameAuthorship : copy.authorship = request.authorship) :
    (saveRequestRow copy).Stays (While request.Known (Area requestScope)) := by
  refine stays_exec fun db known => Area.requests (by decide) (Table.evolves_saveAll ?_)
  intro row held
  rw [List.mem_singleton.mp held]
  exact Table.Knows.of_copy known sameId sameAuthorship

theorem saveLoaded_stays (given : Option OrgId) (loaded : LoadedRequest) (copy : Request)
    (sameId : copy.id = loaded.request.id)
    (sameAuthorship : copy.authorship = loaded.request.authorship) :
    (saveLoaded given { loaded with request := copy }).Stays
      (While loaded.Known (Area requestScope)) := by
  refine stays_execOr (fun _ _ => Area.refl _) fun db result saved known => ?_
  cases (Option.ite_none_right_eq_some.mp saved).2
  refine ⟨?_, ?_, Area.users_refl _⟩
  · have request : db.requests.Evolves (fun old new => new.authorship = old.authorship)
        (db.requests.saveAll [copy]) := by
      refine Table.evolves_saveAll fun row held => ?_
      rw [List.mem_singleton.mp held]
      exact Table.Knows.of_copy known.request sameId sameAuthorship
    exact { Evolves.refl db with
      requests := request
      tasks := Table.evolves_saveAll known.tasks
      assignments := Table.evolves_saveAll known.assignments }
  · intro table outside
    cases table <;> first | rfl | exact absurd (by decide) outside

/-- What a method does once it holds a request that its caller owns. -/
theorem guarantees_owned {α : Type} (id : RequestId) (requester : User) (refusal : String)
    {rest : Request → Service α}
    (stays : ∀ request, (rest request).Stays (While request.Known (Area requestScope)))
    (db : Db) :
    ((loadOwned id requester refusal).bind rest).Guarantees Db.Evolves (Area requestScope)
      (fun _ _ => True) db := by
  have whole (request : Request) : ((Prog.throwIf (isOwnerOrAdmin request requester = false)
      (.forbidden refusal)).bind fun _ => rest request).Stays
        (While request.Known (Area requestScope)) :=
    stays_throwIf.bind fun _ => stays request
  rw [loadOwned]
  simp only [Prog.bind_eq, Prog.pure_eq, Prog.bind_assoc, Prog.bind]
  refine guarantees_found_bind Area.refl fun later _ request found => ?_
  refine (whole request).guarantees_while ?_ ?_ (Table.knows_of_mem (findRequest_some found).1)
  · exact fun _ _ known along => Request.Known.evolves known along
  · exact fun _ _ known along => Request.Known.evolves known along.evolves

/-! ## The methods -/

theorem updateLocation_stays (id : RequestId) (location : Option Point) :
    (Prog.exec fun db =>
      { db with
        requests := db.requests.update (fun request => request.id = id) (locatedPatch location) } :
      Service Unit).Stays (Area requestScope) :=
  stays_exec fun _ => Area.requests (by decide)
    (Table.evolves_update (by intro _; rfl) _ _ (locatedPatch location) (by intro _; rfl))

theorem insertRequest_stays (new : RequestId → Request) (newId : ∀ n, (new n).id = n) :
    (insertRequest new newId).Stays (Area requestScope) := by
  refine stays_execOr Area.refl ?_
  intro db result inserted
  cases (Option.ite_none_right_eq_some.mp inserted).2
  exact Area.requests (by decide) ((Table.added_append _ _ _).evolves fun _ => rfl)

theorem createRequest_stays (dto : NewRequestDto) (creator : User) (now : Time) :
    (createRequest dto creator now).Stays (Area requestScope) := by
  refine (insertRequest_stays _ _).bind fun saved => ?_
  refine (stays_exec fun _ => Area.tasks (by decide)
    ((Table.added_append _ _ _).evolves fun _ => rfl)).bind fun _ => ?_
  exact (stays_onlyIf (updateLocation_stays _ _)).bind fun _ => stays_ret _

theorem LocatedEditDto.edit_keeps {dto : LocatedEditDto} {request saved : Request}
    (edited : LocatedEditDto.edit dto request = some saved) :
    saved.id = request.id ∧ saved.authorship = request.authorship := by
  simp only [LocatedEditDto.edit, EditRequestDto.edit, EditRequestDto.assign,
    Option.bind_eq_bind, Option.pure_def, Option.bind_eq_some_iff, Option.map_eq_some_iff,
    Option.some.injEq] at edited
  obtain ⟨content, ⟨assigned, ⟨title, _, category, _, urgency, _, clearance, _, status, _, rfl⟩,
    rfl⟩, hidden, _, rfl⟩ := edited
  constructor
  · dsimp only
    split <;> rfl
  · simp only [Request.authorship]
    split <;> rfl

theorem updateCascading_guarantees (id : RequestId) (dto : LocatedEditDto) (requester : User)
    (db : Db) :
    (updateCascading id dto requester).Guarantees Db.Evolves (Area requestScope)
      (fun _ _ => True) db := by
  refine guarantees_found_bind Area.refl fun later _ loaded found => ?_
  iterate 2 refine guarantees_throwIf_bind fun _ => ?_
  refine guarantees_orThrow_bind fun saved edited => ?_
  obtain ⟨sameId, sameAuthorship⟩ := LocatedEditDto.edit_keeps edited
  have locates := (stays_onlyIf (updateLocation_stays id
    (LocatedEditDto.location dto loaded.request))
    : (Prog.onlyIf (LocatedEditDto.location dto loaded.request ≠ none) _).Stays _)
  have saves := saveLoaded_stays dto.managingOrganizationId.join loaded saved sameId
    sameAuthorship
  have stays := saves.bind fun _ => locates.while.bind fun _ => stays_ret saved
  refine stays.guarantees_while ?_ ?_ (LoadedRequest.Known.of_load found)
  · exact fun _ _ known along => known.evolves along
  · exact fun _ _ known along => known.evolves along.evolves

theorem create_stays (dto : CreateRequestDto) (creator : User) (now : Time) :
    (create dto creator now).Stays (Area requestScope) := by
  refine (insertRequest_stays _ _).bind fun saved => ?_
  refine (stays_exec fun _ => Area.tasks (by decide)
    ((Table.added_append _ _ _).evolves fun _ => rfl)).bind fun _ => ?_
  exact stays_ret _

theorem update_guarantees (id : RequestId) (dto : UpdateRequestDto) (requester : User) (db : Db) :
    (update id dto requester).Guarantees Db.Evolves (Area requestScope) (fun _ _ => True) db := by
  refine guarantees_found_bind Area.refl fun later _ loaded found => ?_
  obtain ⟨request, foundRequest, rfl⟩ := Option.map_eq_some_iff.mp found
  iterate 2 refine guarantees_throwIf_bind fun _ => ?_
  have saves : (saveManaged dto.managingOrganizationId (UpdateRequestDto.assign dto request)).Stays
      (While request.Known (Area requestScope)) := by
    refine stays_execOr (fun _ _ => Area.refl _) fun db result saved => ?_
    cases (Option.ite_none_right_eq_some.mp saved).2
    exact (saveRequestRow_stays request (UpdateRequestDto.assign dto request) rfl rfl).1 db
  refine (saves.bind fun _ => stays_ret _).guarantees_while ?_ ?_
    (Table.knows_of_mem (findRequest_some foundRequest).1)
  · exact fun _ _ known along => Request.Known.evolves known along
  · exact fun _ _ known along => Request.Known.evolves known along.evolves

theorem remove_stays (id : RequestId) (requester : User) (now : Time) :
    (remove id requester now).Stays (Area requestScope) := by
  refine (stays_query Area.refl _).bind fun _ => ?_
  refine stays_orThrow.bind fun _ => ?_
  iterate 2 refine stays_throwIf.bind fun _ => ?_
  exact stays_exec fun _ => Area.requests (by decide)
    (Table.evolves_update (by intro _; rfl) _ _ (deletedPatch now) (by intro _; rfl))

theorem addInfo_guarantees (id : RequestId) (dto : AddInfoRequestDto) (requester : User)
    (infoId : InfoId) (now : Time) (db : Db) :
    (addInfo id dto requester infoId now).Guarantees Db.Evolves (Area requestScope)
      (fun _ _ => True) db := by
  refine guarantees_owned _ _ _ (fun request => ?_) db
  exact saveRequestRow_stays request _ rfl rfl

theorem editableInfo_stays {guar : Db → Db → Prop} (request : Request) (infoId : InfoId)
    (requester : User) (now : Time) (refusal : String) :
    (editableInfo request infoId requester now refusal).Stays guar := by
  refine stays_orThrow.bind fun _ => ?_
  exact stays_throwIf.bind fun _ => stays_ret _

theorem updateAdditionalInfo_guarantees (id : RequestId) (infoId : InfoId)
    (dto : AddInfoRequestDto) (requester : User) (now : Time) (db : Db) :
    (updateAdditionalInfo id infoId dto requester now).Guarantees Db.Evolves (Area requestScope)
      (fun _ _ => True) db := by
  refine guarantees_owned _ _ _ (fun request => ?_) db
  refine (editableInfo_stays _ _ _ _ _).bind fun _ => ?_
  exact saveRequestRow_stays request _ rfl rfl

theorem removeAdditionalInfo_guarantees (id : RequestId) (infoId : InfoId) (requester : User)
    (now : Time) (db : Db) :
    (removeAdditionalInfo id infoId requester now).Guarantees Db.Evolves (Area requestScope)
      (fun _ _ => True) db := by
  refine guarantees_owned _ _ _ (fun request => ?_) db
  refine (editableInfo_stays _ _ _ _ _).bind fun _ => ?_
  exact saveRequestRow_stays request _ rfl rfl

theorem markAsPendingReview_guarantees (id : RequestId) (user : User) (db : Db) :
    (markAsPendingReview id user).Guarantees Db.Evolves (Area requestScope) (fun _ _ => True)
      db := by
  refine guarantees_owned _ _ _ (fun request => ?_) db
  exact saveRequestRow_stays request _ rfl rfl

theorem cancel_guarantees (id : RequestId) (reason : Option String) (user : User) (now : Time)
    (db : Db) :
    (cancel id reason user now).Guarantees Db.Evolves (Area requestScope) (fun _ _ => True)
      db := by
  refine guarantees_found_bind Area.refl fun later _ request found => ?_
  iterate 2 refine guarantees_throwIf_bind fun _ => ?_
  refine Stays.guarantees_while ?_ ?_ (saveRequestRow_stays request _ rfl rfl)
    (Table.knows_of_mem (findRequest_some found).1)
  · exact fun _ _ known along => Request.Known.evolves known along
  · exact fun _ _ known along => Request.Known.evolves known along.evolves

theorem confirmCompletion_guarantees (id : RequestId) (user : User) (db : Db) :
    (confirmCompletion id user).Guarantees Db.Evolves (Area requestScope) (fun _ _ => True)
      db := by
  refine guarantees_owned _ _ _ (fun request => ?_) db
  exact saveRequestRow_stays request _ rfl rfl

theorem returnToProgress_guarantees (id : RequestId) (user : User) (now : Time) (db : Db) :
    (returnToProgress id user now).Guarantees Db.Evolves (Area requestScope) (fun _ _ => True)
      db := by
  refine guarantees_owned _ _ _ (fun request => ?_) db
  split
  · refine stays_orThrow.bind fun _ => ?_
    exact stays_throwIf.bind fun _ => saveRequestRow_stays request _ rfl rfl
  · exact saveRequestRow_stays request _ rfl rfl

end RequestsService

end VolunteerApi
