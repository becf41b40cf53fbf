import Mathlib.Data.List.Pairwise
import VolunteerApi.Effects.ContentWrites
import VolunteerApi.Model.System
import VolunteerApi.Programs.Runs
import VolunteerApi.Relational.Joins

/-!
# The tags of a request

`create` and an `update` that brings a title, a description or a category derive the tags from
the content and add the tags that were sent.  An update with nothing but tags stores these as
they are.  The column separates the tags by commas, so a tag with a comma in it comes back as
several.
-/

set_option autoImplicit false

namespace VolunteerApi

open Relational Programs RequestsService

/-! ## Runs -/

inductive ContentCall where
  | create (dto : NewRequestDto) (creator : User) (now : Time)
  | update (id : RequestId) (dto : EditRequestDto) (requester : User)

def ContentCall.step (db : Db) : ContentCall → Db
  | .create dto creator now => ((createRequest dto creator now).run db).2
  | .update id dto requester => ((editRequest id dto requester).run db).2

/-- The tags that follow from what the request says now. -/
def Request.automaticTags (request : Request) : List String :=
  autoCategorizeTags (request.title ++ " " ++ request.description.getD "") ++
    (categoryToTag request.category).toList

structure WellTagged (request : Request) : Prop where
  distinct : request.tagList.Nodup
  automatic : ∀ tag ∈ request.automaticTags, tag ∈ request.tagList

def AllWellTagged (db : Db) : Prop := ∀ request ∈ db.requests.rows, WellTagged request

/-- Split at their commas, the tags have no part twice. -/
structure SeparateTags (tags : List String) : Prop where
  parts : ∀ tag ∈ tags, (split tag ',').Nodup
  apart : ∀ left ∈ tags, ∀ right ∈ tags, left ≠ right →
    List.Disjoint (split left ',') (split right ',')

/-- The tags that are sent do not repeat a tag behind a comma, and if they replace the
automatic ones they name them all, without a repetition. -/
def TagsKept (db : Db) : ContentCall → Prop
  | .create dto _ _ =>
      db.hasManager dto.managingOrganizationId = true →
        SeparateTags (autoCategorizeTags (dto.title ++ " " ++ dto.description.getD "") ++
          (dto.category.bind categoryToTag).toList ++ dto.tags)
  | .update id dto requester =>
      ∀ request content,
        editableFor db id requester dto.managingOrganizationId.join = some request →
        EditRequestDto.assign dto request = some content →
        if EditRequestDto.recategorizes dto = true then
          SeparateTags (content.automaticTags ++ dto.tags.join.getD [])
        else ∀ given, dto.tags = some given →
          (given.getD []).Nodup ∧ SeparateTags (given.getD []) ∧
            ∀ tag ∈ content.automaticTags, ∃ other ∈ given.getD [], tag ∈ split other ','

/-! ## Texts -/

theorem split_ne_nil (text : String) : split text ',' ≠ [] := by
  simp [split]

theorem split_append_comma (first second : String) :
    split (first ++ "," ++ second) ',' = split first ',' ++ split second ',' := by
  have chars : (first ++ "," ++ second).toList = first.toList ++ ',' :: second.toList := by
    simp
  rw [split, split, split, chars, List.splitOn_eq_splitOnP, List.splitOn_eq_splitOnP,
    List.splitOn_eq_splitOnP,
    List.splitOnP_append_cons (p := (· == ',')) _ _ (beq_self_eq_true ','), List.map_append]

theorem split_of_plain {text : String} (plain : ',' ∉ text.toList) : split text ',' = [text] := by
  rw [split, List.splitOn_eq_singleton plain]
  simp

theorem split_intercalate (first : String) (rest : List String) :
    split (",".intercalate (first :: rest)) ',' =
      (first :: rest).flatMap fun tag => split tag ',' := by
  induction rest generalizing first with
  | nil => simp
  | cons second rest ih =>
      rw [String.intercalate_cons_cons, split_append_comma, ih, List.flatMap_cons]
      rfl

/-- What is read back: the parts of the tags, except that a single empty tag is none. -/
theorem read_simpleArray (tags : List String) :
    stringToSimpleArray (simpleArrayToString tags) =
      if tags = [""] then [] else tags.flatMap fun tag => split tag ',' := by
  cases tags with
  | nil => simp [simpleArrayToString, stringToSimpleArray]
  | cons first rest =>
      cases rest with
      | nil =>
          by_cases empty : first = ""
          · simp [simpleArrayToString, stringToSimpleArray, empty]
          · simp [simpleArrayToString, stringToSimpleArray, empty]
      | cons second rest =>
          have several : ¬ simpleArrayToString (first :: second :: rest) = "" := by
            intro empty
            have chars := congrArg String.toList empty
            simp [simpleArrayToString] at chars
          rw [stringToSimpleArray, if_neg several, if_neg (by simp)]
          exact split_intercalate first (second :: rest)

theorem nodup_read_iff (tags : List String) :
    (stringToSimpleArray (simpleArrayToString tags)).Nodup ↔
      (tags.flatMap fun tag => split tag ',').Nodup := by
  rw [read_simpleArray]
  by_cases single : tags = [""]
  · have parts : (tags.flatMap fun tag => split tag ',') = [""] := by
      rw [single]
      decide
    rw [if_pos single, parts]
    exact iff_of_true List.nodup_nil (List.nodup_singleton "")
  · rw [if_neg single]

theorem mem_read_iff {tags : List String} {tag : String} (named : tag ≠ "") :
    tag ∈ stringToSimpleArray (simpleArrayToString tags) ↔
      ∃ other ∈ tags, tag ∈ split other ',' := by
  rw [read_simpleArray]
  by_cases single : tags = [""]
  · rw [if_pos single, single]
    refine iff_of_false List.not_mem_nil ?_
    rintro ⟨other, listed, part⟩
    obtain rfl := List.mem_singleton.mp listed
    have empty : split "" ',' = [""] := by decide
    rw [empty, List.mem_singleton] at part
    exact named part
  · rw [if_neg single, List.mem_flatMap]

/-- Tags are read back without a repetition, if none is repeated and their parts are not. -/
theorem nodup_parts_iff (tags : List String) :
    (tags.flatMap fun tag => split tag ',').Nodup ↔ tags.Nodup ∧ SeparateTags tags := by
  rw [List.nodup_flatMap]
  constructor
  · rintro ⟨parts, pairwise⟩
    have distinct : tags.Nodup := by
      refine pairwise.imp ?_
      rintro left _ disjoint rfl
      obtain ⟨part, member⟩ := List.exists_mem_of_ne_nil _ (split_ne_nil left)
      exact disjoint member member
    have symmetric : Std.Symm (Function.onFun List.Disjoint fun tag => split tag ',') :=
      ⟨fun _ _ disjoint _ onRight onLeft => disjoint onLeft onRight⟩
    refine ⟨distinct, parts, ?_⟩
    intro left leftListed right rightListed different
    exact pairwise.forall leftListed rightListed different
  · rintro ⟨distinct, separate⟩
    refine ⟨separate.parts, distinct.imp_of_mem ?_⟩
    intro left right leftListed rightListed different
    exact separate.apart left leftListed right rightListed different

theorem separateTags_congr {left right : List String} (same : ∀ tag, tag ∈ left ↔ tag ∈ right) :
    SeparateTags left ↔ SeparateTags right := by
  constructor
  · rintro ⟨parts, apart⟩
    exact ⟨fun tag listed => parts tag ((same tag).mpr listed),
      fun first firstListed second secondListed => apart first ((same first).mpr firstListed)
        second ((same second).mpr secondListed)⟩
  · rintro ⟨parts, apart⟩
    exact ⟨fun tag listed => parts tag ((same tag).mp listed),
      fun first firstListed second secondListed => apart first ((same first).mp firstListed)
        second ((same second).mp secondListed)⟩

/-! ## Automatic tags -/

/-- No automatic tag has a comma in it, and none is empty. -/
def PlainTag (tag : String) : Prop := ',' ∉ tag.toList ∧ tag ≠ ""

instance : DecidablePred PlainTag := fun _ => inferInstanceAs (Decidable (_ ∧ _))

theorem plainTag_of_keywords {text tag : String} (listed : tag ∈ autoCategorizeTags text) :
    PlainTag tag := by
  obtain ⟨entry, kept, rfl⟩ := List.mem_map.mp listed
  have plain : ∀ entry ∈ categoryKeywords, PlainTag entry.1 := by decide
  exact plain entry (List.mem_of_mem_filter kept)

theorem plainTag_of_category {category : RequestCategory} {tag : String}
    (assigned : categoryToTag category = some tag) : PlainTag tag := by
  have plain : ∀ tag ∈ categoryToTag category, PlainTag tag := by
    cases category <;> decide
  exact plain tag assigned

theorem plainTag_of_automatic {request : Request} {tag : String}
    (listed : tag ∈ request.automaticTags) : PlainTag tag := by
  rcases List.mem_append.mp listed with keyword | category
  · exact plainTag_of_keywords keyword
  · exact plainTag_of_category (Option.mem_toList.mp category)

theorem includes_of_infix {part text keyword : String}
    (inside : part.toList <:+: text.toList) (found : includes (toLowerCase part) keyword = true) :
    includes (toLowerCase text) keyword = true := by
  simp only [includes, toLowerCase, String.toList_ofList, decide_eq_true_eq] at found ⊢
  exact found.trans (inside.map lowerChar)

theorem autoCategorizeTags_mono {part text : String} (inside : part.toList <:+: text.toList) :
    autoCategorizeTags part ⊆ autoCategorizeTags text := by
  intro tag listed
  obtain ⟨entry, kept, rfl⟩ := List.mem_map.mp listed
  obtain ⟨stored, hit⟩ := List.mem_filter.mp kept
  obtain ⟨keyword, keywordListed, found⟩ := List.any_eq_true.mp hit
  refine List.mem_map_of_mem (List.mem_filter.mpr ⟨stored, ?_⟩)
  exact List.any_eq_true.mpr ⟨keyword, keywordListed, includes_of_infix inside found⟩

/-! ## A row that is saved -/

/-- Each tag of `tags` once is well as tags, exactly if the tags are separate and name the
automatic ones. -/
theorem wellTagged_iff {request : Request} {tags : List String}
    (written : request.tags = some (simpleArrayToString tags)) :
    WellTagged request ↔ tags.Nodup ∧ SeparateTags tags ∧
      ∀ tag ∈ request.automaticTags, ∃ other ∈ tags, tag ∈ split other ',' := by
  have read : request.tagList = stringToSimpleArray (simpleArrayToString tags) := by
    rw [Request.tagList, written]
    rfl
  rw [← and_assoc, ← nodup_parts_iff, ← nodup_read_iff, ← read]
  constructor
  · rintro ⟨distinct, automatic⟩
    refine ⟨distinct, ?_⟩
    intro tag listed
    rw [← mem_read_iff (plainTag_of_automatic listed).2, ← read]
    exact automatic tag listed
  · rintro ⟨distinct, automatic⟩
    refine ⟨distinct, ?_⟩
    intro tag listed
    rw [read, mem_read_iff (plainTag_of_automatic listed).2]
    exact automatic tag listed

/-- Where the automatic tags are among the tags, only a comma can do harm. -/
theorem wellTagged_iff_separate {request : Request} {tags given : List String}
    (written : request.tags = some (simpleArrayToString tags)) (distinct : tags.Nodup)
    (same : ∀ tag, tag ∈ tags ↔ tag ∈ request.automaticTags ++ given) :
    WellTagged request ↔ SeparateTags (request.automaticTags ++ given) := by
  rw [wellTagged_iff written, ← separateTags_congr same]
  constructor
  · rintro ⟨_, separate, _⟩
    exact separate
  · intro separate
    refine ⟨distinct, separate, ?_⟩
    intro tag listed
    refine ⟨tag, (same tag).mpr (List.mem_append_left given listed), ?_⟩
    rw [split_of_plain (plainTag_of_automatic listed).1]
    exact List.mem_singleton_self tag

/-! ## Creating -/

theorem newRequestRow_automaticTags (dto : NewRequestDto) (creator : User) (now : Time)
    (id : RequestId) :
    (newRequestRow dto creator now id).automaticTags =
      autoCategorizeTags (dto.title ++ " " ++ dto.description.getD "") ++
        (dto.category.bind categoryToTag).toList := by
  have category : categoryToTag (dto.category.getD .other) = dto.category.bind categoryToTag := by
    cases dto.category <;> rfl
  rw [← category]
  rfl

theorem newRequestRow_wellTagged_iff (dto : NewRequestDto) (creator : User) (now : Time)
    (id : RequestId) :
    WellTagged (newRequestRow dto creator now id) ↔
      SeparateTags (autoCategorizeTags (dto.title ++ " " ++ dto.description.getD "") ++
        (dto.category.bind categoryToTag).toList ++ dto.tags) := by
  rw [← newRequestRow_automaticTags dto creator now id]
  have written : (newRequestRow dto creator now id).tags =
      some (simpleArrayToString (NewRequestDto.allTags dto)) := rfl
  apply wellTagged_iff_separate written
  · unfold NewRequestDto.allTags
    split <;> exact nodup_eraseDups _
  · intro tag
    rw [newRequestRow_automaticTags]
    by_cases none : dto.tags = []
    · simp only [NewRequestDto.allTags, none, if_true, autoTags, List.mem_eraseDups,
        List.append_nil]
    · simp only [NewRequestDto.allTags, none, if_false, autoTags, List.mem_eraseDups,
        List.mem_append]

theorem wellTagged_located (location : Option Point) (request : Request) :
    WellTagged ((locatedPatch location).run request) ↔ WellTagged request := by
  constructor
  · rintro ⟨distinct, automatic⟩
    exact ⟨distinct, automatic⟩
  · rintro ⟨distinct, automatic⟩
    exact ⟨distinct, automatic⟩

theorem allWellTagged_create_iff {db : Db} (every : AllWellTagged db) (dto : NewRequestDto)
    (creator : User) (now : Time) :
    AllWellTagged (ContentCall.step db (.create dto creator now)) ↔
      (db.hasManager dto.managingOrganizationId = true →
        WellTagged (newRequestRow dto creator now db.requests.next)) := by
  rw [← wellTagged_located (NewRequestDto.location dto)]
  exact everyRequest_created_iff every

/-! ## Editing -/

/-- What `Object.assign` makes of the columns that the tags depend on. -/
structure AssignedContent (dto : EditRequestDto) (request content : Request) : Prop where
  id : content.id = request.id
  title : dto.title.over request.title = some content.title
  description : content.description = dto.description.getD request.description
  category : dto.category.over request.category = some content.category
  tags : content.tags = dto.tags.elim request.tags fun given => given.map simpleArrayToString

section Editing

variable {dto : EditRequestDto} {request content : Request}

theorem assigned_of (done : EditRequestDto.assign dto request = some content) :
    AssignedContent dto request content := by
  simp only [EditRequestDto.assign, Option.bind_eq_bind, Option.bind_eq_some_iff,
    Option.pure_def, Option.some.injEq] at done
  obtain ⟨title, titleGiven, category, categoryGiven, _, _, _, _, _, _, rfl⟩ := done
  exact ⟨rfl, titleGiven, rfl, categoryGiven, rfl⟩

theorem truthy_some (text : String) :
    truthy (some text) = if text = "" then none else some text := by
  by_cases empty : text = ""
  · rw [truthy, Option.filter_some, if_pos empty, empty]
    rfl
  · rw [truthy, Option.filter_some, if_neg empty, decide_eq_true empty, if_pos rfl]

theorem truthy_getD (text : Option String) : (truthy text).getD "" = text.getD "" := by
  cases text with
  | none => rfl
  | some text =>
      rw [truthy_some]
      split
      · rename_i empty
        exact empty.symm
      · rfl

theorem givenTitle_getD (assigned : AssignedContent dto request content) :
    (EditRequestDto.givenTitle dto).getD content.title = content.title := by
  have title := assigned.title
  unfold EditRequestDto.givenTitle
  cases given : dto.title with
  | absent => rfl
  | unreadable => rfl
  | value text =>
      rw [given] at title
      cases title
      show (truthy (some content.title)).getD content.title = content.title
      rw [truthy_some]
      split <;> rfl

theorem givenDescription_getD (assigned : AssignedContent dto request content) :
    ((EditRequestDto.givenDescription dto).or (truthy content.description)).getD "" =
      content.description.getD "" := by
  rw [assigned.description, EditRequestDto.givenDescription]
  cases dto.description with
  | none => exact truthy_getD request.description
  | some given =>
      rw [Option.join_some, Option.getD_some, Option.or_self]
      exact truthy_getD given

theorem givenCategory_getD (assigned : AssignedContent dto request content) :
    (EditRequestDto.givenCategory dto).getD content.category = content.category := by
  have category := assigned.category
  unfold EditRequestDto.givenCategory
  cases given : dto.category with
  | absent => rfl
  | unreadable => rfl
  | value named =>
      rw [given] at category
      cases category
      rfl

theorem allTags_assigned (assigned : AssignedContent dto request content) :
    EditRequestDto.allTags dto content =
      (content.automaticTags ++ dto.tags.join.getD []).eraseDups := by
  simp only [EditRequestDto.allTags, givenTitle_getD assigned, givenDescription_getD assigned,
    givenCategory_getD assigned, Request.automaticTags]

/-- A title that was not given to the computation is the old one or empty. -/
theorem title_of_silent (assigned : AssignedContent dto request content)
    (silent : EditRequestDto.givenTitle dto = none) :
    content.title.toList <:+ request.title.toList := by
  have title := assigned.title
  unfold EditRequestDto.givenTitle at silent
  cases given : dto.title with
  | absent =>
      rw [given] at title
      have same : request.title = content.title := Option.some.inj title
      rw [same]
  | unreadable =>
      rw [given] at title
      cases title
  | value text =>
      rw [given] at title silent
      cases title
      have empty : content.title = "" := by
        by_contra named
        simp [truthy_some, named] at silent
      rw [empty]
      exact List.nil_suffix

theorem description_of_silent (assigned : AssignedContent dto request content)
    (silent : EditRequestDto.givenDescription dto = none) :
    (content.description.getD "").toList <+: (request.description.getD "").toList := by
  unfold EditRequestDto.givenDescription at silent
  rw [assigned.description]
  cases given : dto.description with
  | none => exact List.prefix_rfl
  | some text =>
      rw [given, Option.join_some] at silent
      have empty : text.getD "" = "" := by
        rw [← truthy_getD, silent]
        rfl
      rw [Option.getD_some, empty]
      exact List.nil_prefix

theorem category_of_silent (assigned : AssignedContent dto request content)
    (silent : EditRequestDto.givenCategory dto = none) : content.category = request.category := by
  have category := assigned.category
  unfold EditRequestDto.givenCategory at silent
  cases given : dto.category with
  | absent =>
      rw [given] at category
      exact (Option.some.inj category).symm
  | unreadable =>
      rw [given] at category
      cases category
  | value named =>
      rw [given] at silent
      cases silent

/-- Without a title, a description or a category the content says nothing new. -/
theorem automaticTags_assigned (assigned : AssignedContent dto request content)
    (silent : EditRequestDto.recategorizes dto = false) :
    content.automaticTags ⊆ request.automaticTags := by
  simp only [EditRequestDto.recategorizes, Bool.or_eq_false_iff, Option.isSome_eq_false_iff,
    Option.isNone_iff_eq_none] at silent
  obtain ⟨⟨noTitle, noDescription⟩, noCategory⟩ := silent
  obtain ⟨before, title⟩ := title_of_silent assigned noTitle
  obtain ⟨after, description⟩ := description_of_silent assigned noDescription
  have inside : (content.title ++ " " ++ content.description.getD "").toList <:+:
      (request.title ++ " " ++ request.description.getD "").toList := by
    refine ⟨before, after, ?_⟩
    simp only [String.toList_append, ← title, ← description, List.append_assoc]
  intro tag listed
  rcases List.mem_append.mp listed with keyword | category
  · exact List.mem_append_left _ (autoCategorizeTags_mono inside keyword)
  · rw [category_of_silent assigned noCategory] at category
    exact List.mem_append_right _ category

theorem wellTagged_none_iff (written : request.tags = none) :
    WellTagged request ↔ ∀ tag ∈ request.automaticTags, tag ∈ ([] : List String) := by
  have read : request.tagList = [] := by
    rw [Request.tagList, written]
    rfl
  constructor
  · intro well
    rw [← read]
    exact well.automatic
  · intro automatic
    refine ⟨?_, ?_⟩
    · rw [read]
      exact List.nodup_nil
    · rw [read]
      exact automatic

/-- The computed tags are well, exactly if no comma does harm. -/
theorem recategorized_wellTagged_iff (assigned : AssignedContent dto request content) :
    WellTagged { content with
        tags := some (simpleArrayToString (EditRequestDto.allTags dto content)) } ↔
      SeparateTags (content.automaticTags ++ dto.tags.join.getD []) := by
  have same : ∀ tag, tag ∈ EditRequestDto.allTags dto content ↔
      tag ∈ content.automaticTags ++ dto.tags.join.getD [] := by
    intro tag
    rw [allTags_assigned assigned, List.mem_eraseDups]
  refine wellTagged_iff_separate rfl ?_ same
  rw [allTags_assigned assigned]
  exact nodup_eraseDups _

/-- Tags that are stored as they were sent are well, exactly if they have it all. -/
theorem silent_wellTagged_iff (assigned : AssignedContent dto request content)
    (well : WellTagged request) (silent : EditRequestDto.recategorizes dto = false) :
    WellTagged content ↔ ∀ given, dto.tags = some given →
      (given.getD []).Nodup ∧ SeparateTags (given.getD []) ∧
        ∀ tag ∈ content.automaticTags, ∃ other ∈ given.getD [], tag ∈ split other ',' := by
  have written := assigned.tags
  cases sent : dto.tags with
  | none =>
      rw [sent] at written
      have read : content.tagList = request.tagList := by
        rw [Request.tagList, Request.tagList, written]
        rfl
      refine iff_of_true ⟨?_, ?_⟩ (fun given same => nomatch same)
      · rw [read]
        exact well.distinct
      · intro tag listed
        rw [read]
        exact well.automatic tag (automaticTags_assigned assigned silent listed)
  | some given =>
      rw [sent] at written
      simp only [Option.some.injEq, forall_eq']
      cases given with
      | none =>
          rw [wellTagged_none_iff written]
          constructor
          · intro automatic
            exact ⟨List.nodup_nil, (nodup_parts_iff []).mp List.nodup_nil |>.2,
              fun tag listed => absurd (automatic tag listed) List.not_mem_nil⟩
          · rintro ⟨_, _, automatic⟩ tag listed
            obtain ⟨other, member, _⟩ := automatic tag listed
            exact absurd member List.not_mem_nil
      | some tags => exact wellTagged_iff written

theorem edited_wellTagged_iff (done : EditRequestDto.assign dto request = some content)
    (well : WellTagged request) {edited : Request}
    (saved : EditRequestDto.edit dto request = some edited) :
    WellTagged edited ↔
      if EditRequestDto.recategorizes dto = true then
        SeparateTags (content.automaticTags ++ dto.tags.join.getD [])
      else ∀ given, dto.tags = some given →
        (given.getD []).Nodup ∧ SeparateTags (given.getD []) ∧
          ∀ tag ∈ content.automaticTags, ∃ other ∈ given.getD [], tag ∈ split other ',' := by
  rw [EditRequestDto.edit, done, Option.map_some, Option.some.injEq] at saved
  subst saved
  have assigned := assigned_of done
  by_cases recategorizes : EditRequestDto.recategorizes dto = true
  · rw [if_pos recategorizes, if_pos recategorizes]
    exact recategorized_wellTagged_iff assigned
  · rw [if_neg recategorizes, if_neg recategorizes]
    exact silent_wellTagged_iff assigned well (Bool.eq_false_iff.mpr recategorizes)

end Editing

/-- The row that an edit saves, if it comes so far. -/
theorem editRequest_savesRow (db : Db) (id : RequestId) (dto : EditRequestDto) (requester : User) :
    SavesRow (editRequest id dto requester) db
      ((editableFor db id requester dto.managingOrganizationId.join).bind
        (EditRequestDto.edit dto)) := by
  apply savesRow_loadEditable
  · intro refused
    rw [editableFor_none (Or.inl refused)]
    rfl
  · intro request passes
    apply savesRow_assign passes
    · intro missing
      exact missing
    · intro edited present
      rw [present]
      exact ⟨edited, rfl⟩

theorem edit_id {dto : EditRequestDto} {request edited : Request}
    (saved : EditRequestDto.edit dto request = some edited) : edited.id = request.id := by
  obtain ⟨content, done, rfl⟩ := Option.map_eq_some_iff.mp saved
  have same := (assigned_of done).id
  split
  · exact same
  · exact same

theorem allWellTagged_update_iff {db : Db} (every : AllWellTagged db) (id : RequestId)
    (dto : EditRequestDto) (requester : User) :
    AllWellTagged (ContentCall.step db (.update id dto requester)) ↔
      TagsKept db (.update id dto requester) := by
  have saves := editRequest_savesRow db id dto requester
  rw [ContentCall.step]
  cases row : (editableFor db id requester dto.managingOrganizationId.join).bind
      (EditRequestDto.edit dto) with
  | none =>
      rw [row] at saves
      obtain ⟨error, ran⟩ := saves
      rw [ran]
      refine iff_of_true every ?_
      intro request content passes done
      rw [passes, Option.bind_some, EditRequestDto.edit, done] at row
      cases row
  | some edited =>
      rw [row] at saves
      obtain ⟨value, ran⟩ := saves
      obtain ⟨request, passes, saved⟩ := Option.bind_eq_some_iff.mp row
      obtain ⟨content, done, _⟩ := Option.map_eq_some_iff.mp saved
      have found := editable_some (editableFor_some passes).1
      have well := every request (Db.findRequest_some found).1
      rw [ran]
      refine (everyRequest_saved_iff every (Db.findRequest_self found) (edit_id saved)).trans ?_
      rw [edited_wellTagged_iff done well saved]
      constructor
      · intro kept other otherContent otherPasses otherDone
        rw [passes] at otherPasses
        cases otherPasses
        rw [done] at otherDone
        cases otherDone
        exact kept
      · intro kept
        exact kept request content passes done

/-! ## Every run -/

theorem allWellTagged_step_iff {db : Db} (every : AllWellTagged db) (call : ContentCall) :
    AllWellTagged (call.step db) ↔ TagsKept db call := by
  cases call with
  | create dto creator now =>
      rw [allWellTagged_create_iff every, newRequestRow_wellTagged_iff]
      exact Iff.rfl
  | update id dto requester => exact allWellTagged_update_iff every id dto requester

/-- In a run, the tags of all requests are distinct and name the automatic ones, exactly if no
call sends tags that a comma repeats, or replaces the automatic tags by others. -/
theorem allWellTagged_always_iff {db : Db} (every : AllWellTagged db) (calls : List ContentCall) :
    Always ContentCall.step AllWellTagged db calls ↔
      Throughout ContentCall.step TagsKept db calls :=
  always_iff_throughout_while (I := fun _ => True) (fun _ _ _ _ _ => trivial)
    (fun _ call _ here => allWellTagged_step_iff here call) trivial every

theorem exampleBoard_wellTagged : AllWellTagged (exampleBoard .local) := by
  have alone : (exampleBoard .local).requests.rows = [exampleRequest .local] := rfl
  intro request stored
  rw [alone] at stored
  obtain rfl := List.mem_singleton.mp stored
  exact ⟨by decide +kernel, by decide +kernel⟩

def medicineNeeded : NewRequestDto where
  title := "Потрібні ліки"
  requiredClearance := none
  managingOrganizationId := none

/-- A request for medicine, and an edit of nothing but its tags. -/
def retagged : List ContentCall :=
  [.create medicineNeeded author 1, .update 1 { tags := some (some ["київ"]) } author]

theorem allWellTagged_always_iff_witness :
    Always ContentCall.step AllWellTagged (exampleBoard .local) retagged ↔
      Throughout ContentCall.step TagsKept (exampleBoard .local) retagged :=
  allWellTagged_always_iff exampleBoard_wellTagged retagged

/-- The tag for medicine is gone. -/
theorem allWellTagged_always_fails :
    AllWellTagged (exampleBoard .local) ∧
      ¬ Always ContentCall.step AllWellTagged (exampleBoard .local) retagged := by
  refine ⟨exampleBoard_wellTagged, ?_⟩
  intro always
  have stored : ∃ request ∈ (execute ContentCall.step (exampleBoard .local) retagged).requests.rows,
      ∃ tag ∈ request.automaticTags, tag ∉ request.tagList := by
    decide +kernel
  obtain ⟨request, member, tag, listed, missing⟩ := stored
  exact missing ((always_end always request member).automatic tag listed)

end VolunteerApi
