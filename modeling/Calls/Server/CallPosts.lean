import Calls.Library.Values
import Calls.Server.JobMetadata

/-! The post of a call with its props as the store has them: who writes the start of the call, and
what those who read the post make of it. -/

set_option autoImplicit false

namespace StringMap

variable {ν ω : Type}

def mapValues (change : ν → ω) (m : Calls.StringMap ν) : Calls.StringMap ω where
  rows := m.rows.map fun row => (row.1, change row.2)
  nodup := by
    rw [List.map_map]
    exact m.nodup

theorem get?_mapValues (change : ν → ω) (m : Calls.StringMap ν) (key : String) :
    (mapValues change m).get? key = (m.get? key).map change := by
  unfold Calls.StringMap.get? KeyedTable.find? mapValues
  rw [List.find?_map]
  simp only [Function.comp_def, Option.map_map]

end StringMap

namespace Calls

/-- A post with its props, which are of any type where the plugin has it and JSON where the store has it. -/
structure PostWith (ν : Type) where
  id : String
  userID : String
  channelID : String
  rootID : String
  message : String
  type : String
  fileIDs : List String
  props : StringMap ν

abbrev AnyPost := PostWith Any

abbrev PostRow := PostWith Json.Value

def AnyPost.row (post : AnyPost) : PostRow := { post with props := StringMap.mapValues Any.marshal post.props }

def PostRow.post (row : PostRow) : AnyPost := { row with props := StringMap.mapValues Json.Value.unmarshal row.props }

structure MessageAttachment where
  fallback : String
  title : String
  text : String

structure PostAuthor where
  username : String
  firstName : String
  lastName : String

/-- What the server answers and how it writes texts and attachments; the ID is that of the next post. -/
structure PostAPI where
  getUser : String → Except String PostAuthor
  /-- The setting to show full names, which may be missing, as may the whole configuration. -/
  getConfig : Option (Option Bool)
  translation : String → List (String × String) → String
  marshalAttachments : List MessageAttachment → Json.Value
  createPost : Except String String
  updatePost : Except String Unit

def callStartPostType : String := "custom_calls"

namespace CallPosts

variable (posts : KeyedTable fun row : PostRow => row.id) (api : PostAPI)

def getPost (postID : String) : Except String AnyPost :=
  match posts.find? postID with
  | none => .error (PostStore.postNotFound postID)
  | some row => .ok (PostRow.post row)

def attachments (text : String) : Any := .typed (api.marshalAttachments [{ fallback := text, title := text, text }])

def startedMessage (user : PostAuthor) (showFullName : Bool) : String :=
  if user.firstName ≠ "" ∧ user.lastName ≠ "" ∧ showFullName then
    api.translation "app.call.started_message_fullname" [("FirstName", user.firstName), ("LastName", user.lastName)]
  else api.translation "app.call.started_message" [("Username", user.username)]

def startedProps (text title : String) (startAt : Int) : StringMap Any :=
  let props : StringMap Any := KeyedTable.empty
  ((props.set "attachments" (attachments api text)).set "start_at" (.int64 startAt)).set "title" (.string title)

/-- The posts with that of the call that starts, and the IDs of the post and of its thread. -/
def createCallStartedPost (startAt : Int) (userID channelID title threadID : String) :
    Except String ((KeyedTable fun row : PostRow => row.id) × String × String) := do
  let user ← api.getUser userID
  match api.getConfig with
  | none => throw "failed to get configuration"
  | some showFullName =>
    let text := startedMessage api user (showFullName.getD false)
    let id ← api.createPost
    let post : AnyPost :=
      { id, userID, channelID, rootID := threadID, message := text, type := callStartPostType, fileIDs := []
        props := startedProps api text title startAt }
    return (posts.put (AnyPost.row post), id, if threadID = "" then id else threadID)

/-! ### The readers -/

/-- The start as `handleBotPostRecordings` has it. -/
def recordingsStartAt (post : AnyPost) : Int := Any.assertInt64 (post.props.get? "start_at")

/-- The start as `handleBotPostTranscriptions` has it. -/
def transcriptionsStartAt (post : AnyPost) : Int := Any.assertInt64 (post.props.get? "start_at")

/-- The start as `updateCallPostEnded` has it, if it finds one. -/
def endedStartAt (post : AnyPost) : Option Int :=
  match post.props.get? "start_at" with
  | some (.float64 x) => x.toInt64?
  | _ => none

/-- The post of a call that has ended, and the milliseconds that it took; none where no start is found. -/
def updateCallPostEnded (now : Int) (postID : String) (participants : List String) :
    Except String ((KeyedTable fun row : PostRow => row.id) × Int) := do
  if postID = "" then throw "postID should not be empty"
  let post ← getPost posts postID
  let text := api.translation "app.call.ended_message" []
  let props : StringMap Any := post.props.erase "attachments"
  let props := ((props.set "attachments" (attachments api text)).set "end_at" (.int64 now)).set "participants"
    (.slice (participants.map .string))
  api.updatePost
  let ended : AnyPost := { post with message := text, props }
  return (posts.put (AnyPost.row ended), (((endedStartAt post).map fun startAt => now - startAt).getD 0))

/-- What the texts of the callbacks are made of. -/
def textProps (props : StringMap Any) : PostProps where
  startAt :=
    match props.get? "start_at" with
    | some (.int64 n) => some n
    | _ => none
  title :=
    match props.get? "title" with
    | some (.string title) => some title
    | _ => none

def textPost (post : AnyPost) : Post := { post with props := textProps post.props }

/-- The callbacks' texts name the start that they have. -/
theorem jobMessage_textPost (env : BotEnvironment) (text : String) (post : AnyPost) :
    PostStore.jobMessage env text (textPost post) =
      let title := Any.assertString (post.props.get? "title")
      if title ≠ "" then env.translation text ++ " of " ++ title ++ " at " ++ env.formatTime (recordingsStartAt post) ++ " UTC"
      else env.translation text := by
  have startAt : (textProps post.props).startAt.getD 0 = recordingsStartAt post := by
    unfold textProps recordingsStartAt Any.assertInt64
    dsimp only
    split <;> simp_all
  have title : (textProps post.props).title.getD "" = Any.assertString (post.props.get? "title") := by
    unfold textProps Any.assertString
    dsimp only
    split <;> simp_all
  unfold PostStore.jobMessage textPost
  dsimp only
  rw [startAt, title]

/-! ### The start of the call -/

/-- All that read the post have the start of the call. -/
structure RecoversStartAt (startAt : Int) (post : AnyPost) : Prop where
  recordings : recordingsStartAt post = startAt
  transcriptions : transcriptionsStartAt post = startAt
  ended : endedStartAt post = some startAt

/-- A post that was read from the store has no integer of 64 bits. -/
theorem recordingsStartAt_post (row : PostRow) : recordingsStartAt (PostRow.post row) = 0 := by
  unfold recordingsStartAt PostRow.post
  rw [StringMap.get?_mapValues, Any.assertInt64_unmarshal]

variable {posts : KeyedTable fun row : PostRow => row.id} {api : PostAPI}

theorem getPost_put (row : PostRow) : getPost (posts.put row) row.id = .ok (PostRow.post row) := by
  unfold getPost
  rw [KeyedTable.find?_put, if_pos rfl]

theorem startAt_startedProps (text title : String) (startAt : Int) :
    (startedProps api text title startAt).get? "start_at" = some (.int64 startAt) := by
  simp [startedProps]

theorem endedStartAt_of_startedProps {post : AnyPost} {text title : String} {startAt : Int}
    (props : post.props = startedProps api text title startAt) :
    endedStartAt (PostRow.post (AnyPost.row post)) = (IntegralDouble.ofInt startAt).toInt64? := by
  unfold endedStartAt PostRow.post AnyPost.row
  rw [StringMap.get?_mapValues, StringMap.get?_mapValues, props, startAt_startedProps]
  rfl

theorem createCallStartedPost_cases {startAt : Int} {userID channelID title threadID postID thread : String}
    {created : KeyedTable fun row : PostRow => row.id}
    (success : createCallStartedPost posts api startAt userID channelID title threadID = .ok (created, postID, thread)) :
    ∃ post text, post.props = startedProps api text title startAt ∧
      getPost created postID = .ok (PostRow.post (AnyPost.row post)) := by
  unfold createCallStartedPost at success
  cases user : api.getUser userID with
  | error err => simp [user, bind, Except.bind] at success
  | ok user =>
    cases config : api.getConfig with
    | none => simp [user, config, bind, Except.bind, throw, throwThe, MonadExceptOf.throw] at success
    | some showFullName =>
      cases id : api.createPost with
      | error err => simp [user, config, id, bind, Except.bind] at success
      | ok id =>
        simp only [user, config, id, bind, Except.bind, pure, Except.pure, Except.ok.injEq, Prod.mk.injEq] at success
        obtain ⟨rfl, rfl, -⟩ := success
        exact ⟨_, _, rfl, getPost_put _⟩

/-- A post that is read and saved again keeps the start that the end of the call finds. -/
theorem endedStartAt_saved {row : PostRow} {post : AnyPost}
    (kept : post.props.get? "start_at" = (PostRow.post row).props.get? "start_at") :
    endedStartAt (PostRow.post (AnyPost.row post)) = endedStartAt (PostRow.post row) := by
  have again : (PostRow.post (AnyPost.row post)).props.get? "start_at" =
      ((row.props.get? "start_at").map Json.Value.unmarshal).map fun value => value.marshal.unmarshal := by
    unfold PostRow.post AnyPost.row at *
    rw [StringMap.get?_mapValues, StringMap.get?_mapValues, kept, StringMap.get?_mapValues]
    simp [Function.comp_def]
  have once : (PostRow.post row).props.get? "start_at" = (row.props.get? "start_at").map Json.Value.unmarshal :=
    StringMap.get?_mapValues ..
  unfold endedStartAt
  rw [again, once]
  cases row.props.get? "start_at" with
  | none => rfl
  | some json => cases json <;> simp [Json.Value.unmarshal, Any.marshal]

/-- What the end of a call tells of its length, and leaves of its start. -/
theorem updateCallPostEnded_cases {now duration : Int} {postID : String} {participants : List String} {post : AnyPost}
    {ended : KeyedTable fun row : PostRow => row.id} (found : getPost posts postID = .ok post)
    (success : updateCallPostEnded posts api now postID participants = .ok (ended, duration)) :
    duration = ((endedStartAt post).map fun startAt => now - startAt).getD 0 ∧
      ∃ after, getPost ended postID = .ok after ∧ endedStartAt after = endedStartAt post := by
  unfold getPost at found
  cases listed : posts.find? postID with
  | none => simp [listed] at found
  | some row =>
    have same : row.id = postID := (KeyedTable.find?_eq_some_iff.mp listed).2
    rw [listed] at found
    cases found
    unfold updateCallPostEnded getPost at success
    by_cases empty : postID = ""
    · simp [empty, bind, Except.bind, throw, throwThe, MonadExceptOf.throw] at success
    · cases update : api.updatePost with
      | error err => simp [empty, listed, update, bind, Except.bind] at success
      | ok _ =>
        simp only [empty, listed, update, if_false, bind, Except.bind, pure, Except.pure, Except.ok.injEq, Prod.mk.injEq] at success
        obtain ⟨rfl, rfl⟩ := success
        subst same
        refine ⟨rfl, _, getPost_put _, endedStartAt_saved ?_⟩
        simp

/-- They do for a call that starts at zero alone: the callbacks ask the store's post for an integer of 64 bits. Where the start has
so few digits that a double has it, the end of the call finds it. -/
theorem recoversStartAt_iff {startAt : Int} {userID channelID title threadID postID thread : String}
    {created : KeyedTable fun row : PostRow => row.id}
    (success : createCallStartedPost posts api startAt userID channelID title threadID = .ok (created, postID, thread)) :
    ∃ post, getPost created postID = .ok post ∧ (RecoversStartAt startAt post ↔ startAt = 0) ∧
      (startAt.natAbs < 2 ^ 53 → endedStartAt post = some startAt) := by
  obtain ⟨post, text, props, found⟩ := createCallStartedPost_cases success
  have ended : startAt.natAbs < 2 ^ 53 → endedStartAt (PostRow.post (AnyPost.row post)) = some startAt := fun small => by
    rw [endedStartAt_of_startedProps props, IntegralDouble.toInt64?_ofInt small]
  refine ⟨_, found, ⟨fun recovers => ?_, fun zero => ?_⟩, ended⟩
  · rw [← recovers.recordings, recordingsStartAt_post]
  · subst zero
    exact ⟨recordingsStartAt_post _, recordingsStartAt_post _, ended (by decide)⟩

/-- A server that does all that is asked of it. -/
def workingAPI : PostAPI where
  getUser userID := .ok { username := userID, firstName := "", lastName := "" }
  getConfig := some none
  translation text _ := text
  marshalAttachments list := .array (list.map fun attachment => .object [("fallback", .string attachment.fallback),
    ("title", .string attachment.title), ("text", .string attachment.text)])
  createPost := .ok "post"
  updatePost := .ok ()

/-- A call that starts at some time of 2023. -/
def startOfCall : Int := 1700000000000

theorem created_startOfCall : ∃ created, createCallStartedPost .empty workingAPI startOfCall "alice" "channel" "Standup" "" =
    .ok (created, "post", "post") := ⟨_, rfl⟩

/-- The end of such a call finds its start. -/
theorem recoversStartAt_startOfCall : ∃ created post, getPost created "post" = .ok post ∧ endedStartAt post = some startOfCall := by
  obtain ⟨created, success⟩ := created_startOfCall
  obtain ⟨post, found, -, ended⟩ := recoversStartAt_iff success
  exact ⟨created, post, found, ended (by decide)⟩

/-- The callbacks do not. -/
theorem not_recoversStartAt : ¬ ∀ posts api startAt userID channelID title threadID postID thread created,
    startAt.natAbs < 2 ^ 53 →
      createCallStartedPost posts api startAt userID channelID title threadID = .ok (created, postID, thread) →
      ∃ post, getPost created postID = .ok post ∧ RecoversStartAt startAt post := by
  intro all
  obtain ⟨created, success⟩ := created_startOfCall
  obtain ⟨post, found, recovers⟩ := all _ _ _ _ _ _ _ _ _ _ (by decide) success
  obtain ⟨before, text, -, read⟩ := createCallStartedPost_cases success
  rw [read] at found
  cases found
  have zero := recovers.recordings
  rw [recordingsStartAt_post] at zero
  exact absurd zero (by decide)

end CallPosts

end Calls
