import VolunteerApi.Model.RequestMeta
import VolunteerApi.Properties.AutomaticTags
import VolunteerApi.Properties.RequestLists

/-!
# The tags of a new request, read back

`create` stores the tags separated by commas, and the ORM splits the text of the column for the
answer.  The request list splits it by hand and drops the empty parts, so the two differ where a
tag has an empty part, as `a,,b` has.
-/

set_option autoImplicit false

namespace VolunteerApi

open Relational Programs RequestsService

/-! ## The text of the column -/

theorem rawTags_stored (tags : List String) :
    rawTags (some (simpleArrayToString tags)) =
      (tags.flatMap fun tag => split tag ',').filter fun tag => tag ≠ "" := by
  cases tags with
  | nil => decide
  | cons first rest =>
      show (split (",".intercalate (first :: rest)) ',').filter _ = _
      rw [split_intercalate]

/-- Both readings give the same tags, exactly if no tag has an empty part, or the text is empty. -/
theorem rawTags_stored_iff (tags : List String) :
    rawTags (some (simpleArrayToString tags)) = stringToSimpleArray (simpleArrayToString tags) ↔
      tags = [""] ∨ ∀ tag ∈ tags, "" ∉ split tag ',' := by
  rw [rawTags_stored, read_simpleArray]
  by_cases single : tags = [""]
  · rw [if_pos single, single]
    exact iff_of_true (by decide) (Or.inl rfl)
  · rw [if_neg single, List.filter_eq_self, or_iff_right single]
    constructor
    · intro named tag listed part
      exact of_decide_eq_true (named "" (List.mem_flatMap.mpr ⟨tag, listed, part⟩)) rfl
    · intro whole part inside
      obtain ⟨tag, listed, here⟩ := List.mem_flatMap.mp inside
      refine decide_eq_true fun empty => ?_
      exact whole tag listed (empty ▸ here)

/-! ## The tags of a new request -/

def NewRequestDto.automaticTags (dto : NewRequestDto) : List String :=
  autoTags (dto.title ++ " " ++ dto.description.getD "") dto.category

/-- No tag that was sent has an empty part; or all of them are empty, and there are no automatic
ones. -/
def WholeTags (dto : NewRequestDto) : Prop :=
  (∀ tag ∈ dto.tags, "" ∉ split tag ',') ∨
    (NewRequestDto.automaticTags dto = [] ∧ ∀ tag ∈ dto.tags, tag = "")

theorem automaticTags_plain {dto : NewRequestDto} {tag : String}
    (listed : tag ∈ NewRequestDto.automaticTags dto) : PlainTag tag := by
  rcases List.mem_append.mp (List.mem_eraseDups.mp listed) with keyword | category
  · exact plainTag_of_keywords keyword
  · obtain ⟨given, _, assigned⟩ := Option.bind_eq_some_iff.mp (Option.mem_toList.mp category)
    exact plainTag_of_category assigned

theorem mem_allTags {dto : NewRequestDto} {tag : String} :
    tag ∈ NewRequestDto.allTags dto ↔
      tag ∈ NewRequestDto.automaticTags dto ∨ tag ∈ dto.tags := by
  unfold NewRequestDto.allTags NewRequestDto.automaticTags
  by_cases none_ : dto.tags = []
  · simp [none_]
  · simp [none_]

theorem allTags_whole_iff (dto : NewRequestDto) :
    (∀ tag ∈ NewRequestDto.allTags dto, "" ∉ split tag ',') ↔
      ∀ tag ∈ dto.tags, "" ∉ split tag ',' := by
  constructor
  · intro whole tag sent
    exact whole tag (mem_allTags.mpr (Or.inr sent))
  · intro whole tag listed
    rcases mem_allTags.mp listed with automatic | sent
    · have plain := automaticTags_plain automatic
      rw [split_of_plain plain.1, List.mem_singleton]
      exact fun empty => plain.2 empty.symm
    · exact whole tag sent

/-- The text of the column is empty, although there is a tag. -/
theorem allTags_single_iff (dto : NewRequestDto) (sent : dto.tags ≠ []) :
    NewRequestDto.allTags dto = [""] ↔
      NewRequestDto.automaticTags dto = [] ∧ ∀ tag ∈ dto.tags, tag = "" := by
  constructor
  · intro single
    have only : ∀ tag ∈ NewRequestDto.allTags dto, tag = "" := by
      rw [single]
      exact fun tag listed => List.mem_singleton.mp listed
    refine ⟨List.eq_nil_iff_forall_not_mem.mpr fun tag automatic => ?_, fun tag given => ?_⟩
    · exact (automaticTags_plain automatic).2 (only tag (mem_allTags.mpr (Or.inl automatic)))
    · exact only tag (mem_allTags.mpr (Or.inr given))
  · rintro ⟨none_, empty⟩
    have all : NewRequestDto.allTags dto = dto.tags.eraseDups := by
      unfold NewRequestDto.automaticTags at none_
      rw [NewRequestDto.allTags, if_neg sent, none_, List.nil_append]
    obtain ⟨first, rest, parts⟩ := List.exists_cons_of_ne_nil sent
    rw [all, parts, List.eraseDups_cons, empty first (parts ▸ List.mem_cons_self)]
    have others : rest.filter (fun tag => !tag == "") = [] := by
      apply List.filter_eq_nil_iff.mpr
      intro tag later
      rw [empty tag (parts ▸ List.mem_cons_of_mem first later)]
      decide
    rw [others]
    rfl

theorem wholeTags_iff (dto : NewRequestDto) :
    WholeTags dto ↔
      rawTags (some (simpleArrayToString (NewRequestDto.allTags dto))) =
        stringToSimpleArray (simpleArrayToString (NewRequestDto.allTags dto)) := by
  rw [rawTags_stored_iff, allTags_whole_iff, WholeTags, or_comm]
  by_cases sent : dto.tags = []
  · have whole : ∀ tag ∈ dto.tags, "" ∉ split tag ',' := by simp [sent]
    exact iff_of_true (Or.inr whole) (Or.inr whole)
  · rw [allTags_single_iff dto sent]

/-! ## The entries of the list -/

section Listing

variable {pg : Postgres} {names : OrderBy fun _ _ : String => True} {params : PriorityParams}
  {userId : Option UserId} {db : Db} {entries : List ListedRequest}

theorem run_refusable_snd {α : Type} (read : Db → Option α) (db : Db) :
    ((refusable read).run db).2 = db := by
  simp only [refusable, Prog.bind_eq, Prog.run_query_bind, Prog.run_orThrow]
  cases read db <;> rfl

theorem getRequestsWithPriority_snd (pg : Postgres) (params : PriorityParams) (db : Db) :
    ((getRequestsWithPriority pg params).run db).2 = db := by
  have reads : ∀ read : Db → Option (List Request),
      (((refusable read).bind fun requests => .ret ⟨requests, []⟩).run db :
        Except HttpException Response × Db).2 = db := by
    intro read
    have same := run_refusable_snd read db
    rw [Prog.run_bind]
    split
    · next ran => rw [ran] at same; exact same
    · next ran => rw [ran] at same; exact same
  unfold getRequestsWithPriority
  split
  · exact reads _
  · exact reads _

theorem getRequestsWithPriority_stored {results : Response}
    (found : ((getRequestsWithPriority pg params).run db).1 = .ok results) {row : Request}
    (listed : row ∈ results.requests) : row ∈ db.requests.rows := by
  unfold getRequestsWithPriority at found
  simp only [Prog.bind_eq, Prog.pure_eq] at found
  split at found
  · obtain ⟨_, read, ⟨⟩⟩ := run_refusable_bind_iff.mp found
    obtain ⟨page, _, rfl⟩ := Option.map_eq_some_iff.mp read
    have inside := Page.mem_of listed
    rw [nearestRequests, OrderBy.mem_run, Table.mem_find] at inside
    exact inside.1
  · obtain ⟨_, read, ⟨⟩⟩ := run_refusable_bind_iff.mp found
    obtain ⟨_, paged⟩ := Option.ite_none_right_eq_some.mp read
    obtain ⟨page, _, rfl⟩ := Option.map_eq_some_iff.mp paged
    have inside := Page.mem_of listed
    rw [filteredRequests, OrderBy.mem_run, Table.mem_find] at inside
    exact inside.1

theorem enrichRequestMeta_adds (names : OrderBy fun _ _ : String => True)
    (requests : List ListedRequest) (userId : Option UserId) (db : Db) :
    ∃ added : ListedRequest → Option RequestMeta,
      (enrichRequestMeta names requests userId).run db =
        (.ok (requests.map fun entry => { entry with added := added entry }), db) := by
  have untouched : (requests.map fun entry => { entry with added := entry.added }) = requests :=
    List.map_id'' (fun _ => rfl) requests
  cases userId with
  | none =>
      refine ⟨ListedRequest.added, ?_⟩
      rw [untouched]
      rfl
  | some userId =>
      by_cases none_ : requests = []
      · refine ⟨ListedRequest.added, ?_⟩
        rw [untouched, enrichRequestMeta, if_pos none_]
        rfl
      · simp only [enrichRequestMeta, if_neg none_, Prog.bind_eq, Prog.pure_eq,
          Prog.run_query_bind, Prog.run_ret]
        exact ⟨_, rfl⟩

/-- The answer has one entry for each row that the query found, with the tags of the row. -/
theorem listRequests_answers_iff :
    ((listRequestsWithPriority pg names params userId).run db).1 = .ok entries ↔
      ∃ results, ((getRequestsWithPriority pg params).run db).1 = .ok results ∧
        ((enrichRequestMeta names (results.requests.map (listedRequest db)) userId).run db).1 =
          .ok entries := by
  have unchanged := getRequestsWithPriority_snd pg params db
  rw [listRequestsWithPriority, Prog.bind_eq, Prog.run_bind]
  split
  · next results final ran =>
    rw [ran] at unchanged ⊢
    obtain rfl : final = db := unchanged
    rw [Prog.bind_eq, Prog.run_query_bind]
    simp
  · next error final ran =>
    rw [ran]
    simp

theorem listRequests_entry
    (answers : ((listRequestsWithPriority pg names params userId).run db).1 = .ok entries)
    {entry : ListedRequest} (listed : entry ∈ entries) :
    entry.row ∈ db.requests.rows ∧ entry.tags = rawTags entry.row.tags := by
  obtain ⟨results, found, enriched⟩ := listRequests_answers_iff.mp answers
  obtain ⟨added, ran⟩ :=
    enrichRequestMeta_adds names (results.requests.map (listedRequest db)) userId db
  rw [ran] at enriched
  cases enriched
  obtain ⟨_, inner, rfl⟩ := List.mem_map.mp listed
  obtain ⟨row, rowListed, rfl⟩ := List.mem_map.mp inner
  exact ⟨getRequestsWithPriority_stored found rowListed, rfl⟩

theorem exists_entry (pg : Postgres) (names : OrderBy fun _ _ : String => True)
    {row : Request} (stored : row ∈ db.requests.rows) (live : row.deletedAt = none) :
    ∃ params entries,
      ((listRequestsWithPriority pg names params none).run db).1 = .ok entries ∧
        listedRequest db row ∈ entries := by
  have returned : Returned pg db (lookAround.withPosition 0 0) row :=
    (returned_withPosition 0 0).mpr ⟨stored, live⟩
  obtain ⟨limit, offset, results, found, listed⟩ := returned
  exact ⟨_, _, listRequests_answers_iff.mpr ⟨results, found, rfl⟩, List.mem_map_of_mem listed⟩

end Listing

/-! ## From `create` to the list -/

/-- Where the request is listed after the call, its tags are the ones that the call answered. -/
def TagsComeBack (pg : Postgres) (names : OrderBy fun _ _ : String => True) (db : Db)
    (dto : NewRequestDto) (creator : User) (now : Time) : Prop :=
  ∀ created after, (createAnswer dto creator now).run db = (.ok created, after) →
    ∀ params userId entries,
      ((listRequestsWithPriority pg names params userId).run after).1 = .ok entries →
        ∀ entry ∈ entries, entry.row.id = created.saved.id → entry.tags = created.tags

theorem createAnswer_run {db : Db} {dto : NewRequestDto}
    (managed : db.hasManager dto.managingOrganizationId = true) (creator : User) (now : Time) :
    (createAnswer dto creator now).run db =
      (.ok ⟨newRequestRow dto creator now db.requests.next,
          stringToSimpleArray (simpleArrayToString (NewRequestDto.allTags dto))⟩,
        createdDb db dto creator now) := by
  rw [createAnswer, Prog.bind_eq, Prog.run_bind, createRequest_run managed]
  rfl

theorem createAnswer_unmanaged {db : Db} {dto : NewRequestDto}
    (unstored : db.hasManager dto.managingOrganizationId = false) (creator : User) (now : Time) :
    (createAnswer dto creator now).run db =
      (.error (.queryFailed "insert on table requests violates foreign key constraint"), db) := by
  rw [createAnswer, Prog.bind_eq, Prog.run_bind, createRequest_unmanaged unstored]

/-- The tags of a new request are read back as `create` answered them, exactly if no tag that
was sent has an empty part, or nothing but empty tags is stored. -/
theorem tagsComeBack_iff (pg : Postgres) (names : OrderBy fun _ _ : String => True) (db : Db)
    (dto : NewRequestDto) (creator : User) (now : Time) :
    TagsComeBack pg names db dto creator now ↔
      (db.hasManager dto.managingOrganizationId = true → WholeTags dto) := by
  have column : (createdRow dto creator now db.requests.next).tags =
      some (simpleArrayToString (NewRequestDto.allTags dto)) := rfl
  rw [wholeTags_iff, ← column]
  constructor
  · intro back managed
    have stored : createdRow dto creator now db.requests.next ∈
        (createdDb db dto creator now).requests.rows :=
      (mem_createdDb managed _).mpr (Or.inr rfl)
    obtain ⟨params, entries, answers, listed⟩ := exists_entry pg names stored rfl
    exact back _ _ (createAnswer_run managed creator now) params none entries answers _ listed rfl
  · intro same created after ran params userId entries answers entry listed named
    cases managed : db.hasManager dto.managingOrganizationId with
    | false =>
        rw [createAnswer_unmanaged managed] at ran
        cases ran
    | true =>
        rw [createAnswer_run managed] at ran
        cases ran
        obtain ⟨stored, read⟩ := listRequests_entry answers listed
        rw [read, eq_createdRow managed stored named]
        exact same managed

def taggedTwice : NewRequestDto where
  title := "Потрібна вода"
  requiredClearance := none
  managingOrganizationId := none
  tags := ["київ,,дніпро"]

/-- The answer has an empty tag between the two, the list has not. -/
theorem tagsComeBack_fails :
    ¬ TagsComeBack examplePostgres OrderBy.asStored (exampleBoard .local) taggedTwice author 1 := by
  intro back
  have shown : ∃ entry ∈ ((listRequestsWithPriority examplePostgres OrderBy.asStored lookAround
        none).run (createdDb (exampleBoard .local) taggedTwice author 1)).1.toOption.getD [],
      entry.row.id = 1 ∧ entry.tags ≠
        stringToSimpleArray (simpleArrayToString (NewRequestDto.allTags taggedTwice)) := by
    decide +kernel
  obtain ⟨entry, listed, named, different⟩ := shown
  cases answers : ((listRequestsWithPriority examplePostgres OrderBy.asStored lookAround
      none).run (createdDb (exampleBoard .local) taggedTwice author 1)).1 with
  | error refused =>
      rw [answers] at listed
      exact absurd listed List.not_mem_nil
  | ok entries =>
      rw [answers] at listed
      have ran := @createAnswer_run (exampleBoard .local) taggedTwice rfl author 1
      exact different (back _ _ ran _ _ _ answers entry listed named)

end VolunteerApi
