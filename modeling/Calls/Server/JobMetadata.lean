import Calls.Public

/-! What is kept of recordings and transcriptions in the props of a call's post, and the callbacks
of the job service that complete it: each posts its files, and the transcription's also puts its
captions on the post of the recording. -/

set_option autoImplicit false

namespace Calls

structure Transcription where
  title : String
  language : String
  fileIDs : List String
  deriving DecidableEq

def Transcription.isValid (transcription : Transcription) : Except String Unit :=
  if transcription.language = "" then .error "language should not be empty"
  else if transcription.fileIDs.length < 2 then .error "invalid FileIDs length"
  else .ok ()

/-- The captions of a transcription as clients get them. -/
structure ClientCaption where
  title : String
  language : String
  fileID : String
  deriving DecidableEq

/-- A valid transcription has the file of its captions and then that of its text. -/
def Transcription.toClientMap (transcription : Transcription) : ClientCaption :=
  { title := if transcription.title = "" then transcription.language else transcription.title
    language := transcription.language
    fileID := transcription.fileIDs[0]?.getD "" }

def toClientCaptions (transcriptions : List Transcription) : List ClientCaption := transcriptions.map Transcription.toClientMap

structure RecordingJobInfo where
  jobID : String
  postID : String
  fileIDs : List String
  deriving DecidableEq

structure TranscribingJobInfo where
  jobID : String
  postID : String
  transcriptions : List Transcription
  deriving DecidableEq

def RecordingJobInfo.isValid (info : RecordingJobInfo) : Except String Unit :=
  if info.postID = "" then .error "PostID should not be empty"
  else if info.fileIDs.length = 0 then .error "invalid FileIDs length"
  else if info.jobID = "" then .error "JobID should not be empty"
  else .ok ()

def TranscribingJobInfo.isValid (info : TranscribingJobInfo) : Except String Unit := do
  if info.postID = "" then throw "PostID should not be empty"
  if info.transcriptions.length = 0 then throw "invalid Transcriptions length"
  info.transcriptions.forM Transcription.isValid
  if info.jobID = "" then throw "JobID should not be empty"

/-- What is kept of a job; a field that is not known is empty. -/
structure JobMetadata where
  fileID : String := ""
  postID : String := ""
  recID : String := ""
  trID : String := ""
  deriving DecidableEq

/-- A value in a post's props: of a map the strings are read; what is no map says nothing of a job. -/
inductive PropValue where
  | map (strings : StringMap String)
  | other
  deriving DecidableEq

namespace JobMetadata

def toMap (metadata : JobMetadata) : PropValue :=
  let field (key value : String) (m : StringMap String) : StringMap String := if value ≠ "" then m.set key value else m
  .map (field "post_id" metadata.postID (field "tr_id" metadata.trID (field "rec_id" metadata.recID (field "file_id" metadata.fileID .empty))))

def fromMap : Option PropValue → JobMetadata
  | some (.map m) =>
    { fileID := (m.get? "file_id").getD "", recID := (m.get? "rec_id").getD ""
      trID := (m.get? "tr_id").getD "", postID := (m.get? "post_id").getD "" }
  | some .other | none => {}

/-- What was written is read again. -/
@[simp] theorem fromMap_toMap (metadata : JobMetadata) : fromMap (some metadata.toMap) = metadata := by
  obtain ⟨fileID, postID, recID, trID⟩ := metadata
  unfold toMap fromMap
  by_cases file : fileID = "" <;> by_cases post : postID = "" <;> by_cases rec : recID = "" <;> by_cases tr : trID = "" <;>
    simp [file, post, rec, tr]

end JobMetadata

/-- The props of a post that the callbacks set or read. The maps of jobs are missing where the prop is no map. -/
structure PostProps where
  startAt : Option Int := none
  title : Option String := none
  recordings : Option (StringMap PropValue) := none
  transcriptions : Option (StringMap PropValue) := none
  recordingID : Option String := none
  transcriptionID : Option String := none
  callPostID : Option String := none
  captions : Option (List ClientCaption) := none
  deriving DecidableEq

structure Post where
  id : String
  userID : String
  channelID : String
  message : String
  type : String
  rootID : String
  fileIDs : List String
  props : PostProps
  deriving DecidableEq

structure FileInfo where
  id : String
  channelID : String
  postID : String
  deriving DecidableEq

/-- What the callbacks use of the server: its posts and files. -/
structure PostStore where
  posts : KeyedTable Post.id
  files : KeyedTable FileInfo.id
  deriving DecidableEq

/-- What the texts of the posts are made of. -/
structure BotEnvironment where
  botID : String
  transcriptionsEnabled : Bool
  translation : String → String
  formatTime : Int → String

structure HTTPResponse where
  code : Nat
  err : String := ""
  msg : String := ""
  deriving DecidableEq

def statusOK : Nat := 200
def statusBadRequest : Nat := 400
def statusInternalServerError : Nat := 500

namespace PostStore

def updateFileInfoPostID (fileID channelID postID : String) (store : PostStore) : PostStore :=
  { store with files := store.files.modify fileID (fun file => { file with channelID, postID }) fun _ => rfl }

def putPost (post : Post) (store : PostStore) : PostStore := { store with posts := store.posts.put post }

def postNotFound (postID : String) : String := "post not found (id=" ++ postID ++ ")"

def saveRecordingMetadata (postID recID trID : String) (store : PostStore) : Except String PostStore :=
  match store.posts.find? postID with
  | none => .error ("failed to get call post: " ++ postNotFound postID)
  | some post =>
    let recordings := (post.props.recordings.getD .empty).set recID ({ trID } : JobMetadata).toMap
    let transcriptions :=
      -- The transcription is mapped to its recording.
      if trID ≠ "" then some ((post.props.transcriptions.getD .empty).set trID ({ recID } : JobMetadata).toMap)
      else post.props.transcriptions
    .ok (store.putPost { post with props := { post.props with recordings := some recordings, transcriptions } })

/-- The text of a post about a job. -/
def jobMessage (env : BotEnvironment) (text : String) (post : Post) : String :=
  let title := post.props.title.getD ""
  if title ≠ "" then env.translation text ++ " of " ++ title ++ " at " ++ env.formatTime (post.props.startAt.getD 0) ++ " UTC"
  else env.translation text

def threadID (post : Post) : String := if post.rootID ≠ "" then post.rootID else post.id

variable (env : BotEnvironment) (callID : String)

/-- The post of a recording; `id` is the one that it gets when it is created. -/
def recordingPost (info : RecordingJobInfo) (id : String) (callPost : Post) : Post :=
  let text := if env.transcriptionsEnabled then "app.call.new_recording_and_transcription_message" else "app.call.new_recording_message"
  { id, userID := env.botID, channelID := callID, message := jobMessage env text callPost, type := "custom_calls_recording"
    rootID := threadID callPost, fileIDs := [info.fileIDs[0]?.getD ""]
    props := { recordingID := some info.jobID, callPostID := some info.postID } }

/-- The first file of the first transcription, which has its captions, and the second one. -/
def captionsFile (info : TranscribingJobInfo) : String := ((info.transcriptions[0]?.bind (·.fileIDs[0]?)).getD "")

def textFile (info : TranscribingJobInfo) : String := ((info.transcriptions[0]?.bind (·.fileIDs[1]?)).getD "")

def transcriptionPost (info : TranscribingJobInfo) (id : String) (callPost : Post) : Post :=
  { id, userID := env.botID, channelID := callID, message := jobMessage env "app.call.new_transcription_message" callPost
    type := "custom_calls_transcription", rootID := threadID callPost, fileIDs := [textFile info]
    props :=
      { callPostID := some info.postID, transcriptionID := some info.jobID, captions := some (toClientCaptions info.transcriptions) } }

/-- A job is completed with its file and its post. -/
def completed (jobID fileID postID : String) (jobs : StringMap PropValue) : StringMap PropValue :=
  jobs.set jobID { JobMetadata.fromMap (jobs.get? jobID) with fileID, postID }.toMap

/-- The callback of a recording, where all that it asks of the server succeeds. `recPostID` is generated. -/
def handleBotPostRecordings (info : RecordingJobInfo) (recPostID : String) (store : PostStore) : PostStore × HTTPResponse :=
  match info.isValid with
  | .error err => (store, { code := statusBadRequest, err })
  | .ok () =>
    match store.posts.find? info.postID with
    | none => (store, { code := statusInternalServerError, err := "failed to get call post: " ++ postNotFound info.postID })
    | some post =>
      let created := store.putPost (recordingPost env callID info recPostID post)
      let recordings := post.props.recordings.map (completed info.jobID (info.fileIDs[0]?.getD "") recPostID)
      (created.putPost { post with props := { post.props with recordings } }, { code := statusOK, msg := "success" })

/-- The callback of a transcription, where all that it asks of the server succeeds. `trPostID` is generated. -/
def handleBotPostTranscriptions (info : TranscribingJobInfo) (trPostID : String) (store : PostStore) : PostStore × HTTPResponse :=
  match info.isValid with
  | .error err => (store, { code := statusBadRequest, err })
  | .ok () =>
    match store.posts.find? info.postID with
    | none => (store, { code := statusInternalServerError, err := "failed to get call post: " ++ postNotFound info.postID })
    | some post =>
      let filed := store.updateFileInfoPostID (captionsFile info) callID info.postID
      let created := filed.putPost (transcriptionPost env callID info trPostID post)
      match post.props.transcriptions with
      | none => (created, { code := statusInternalServerError, err := "unexpected data found in transcriptions post prop" })
      | some transcriptions =>
        let tm := JobMetadata.fromMap (transcriptions.get? info.jobID)
        let updated := { post with
          props := { post.props with transcriptions := some (completed info.jobID (captionsFile info) trPostID transcriptions) } }
        match post.props.recordings with
        | none => (created, { code := statusInternalServerError, err := "unexpected data found in recordings post prop" })
        | some recordings =>
          let rm := JobMetadata.fromMap (recordings.get? tm.recID)
          -- Without the post of the recording there is nothing to put the captions on.
          if rm.postID = "" then (created.putPost updated, { code := statusOK, msg := "success" })
          else
            match created.posts.find? rm.postID with
            | none => (created, { code := statusInternalServerError, err := "failed to get recording post: " ++ postNotFound rm.postID })
            | some recPost =>
              let captioned := created.putPost { recPost with
                props := { recPost.props with captions := some (toClientCaptions info.transcriptions) } }
              (captioned.putPost updated, { code := statusOK, msg := "success" })

end PostStore

/-- Which of the callbacks of a recording and its transcription is handled first. -/
inductive CompletionOrder where
  | recordingFirst
  | transcriptionFirst
  deriving DecidableEq

def CompletionOrder.other : CompletionOrder → CompletionOrder
  | recordingFirst => transcriptionFirst
  | transcriptionFirst => recordingFirst

/-- A recording and its transcription, with the IDs that their posts get. -/
structure Completion where
  recording : RecordingJobInfo
  transcription : TranscribingJobInfo
  recPostID : String
  trPostID : String

/-- The posts after both callbacks, each handled under the lock of the call. -/
def Completion.handle (env : BotEnvironment) (callID : String) (jobs : Completion) (order : CompletionOrder) (store : PostStore) : PostStore :=
  match order with
  | .recordingFirst =>
    (((store.handleBotPostRecordings env callID jobs.recording jobs.recPostID).1).handleBotPostTranscriptions env callID
      jobs.transcription jobs.trPostID).1
  | .transcriptionFirst =>
    (((store.handleBotPostTranscriptions env callID jobs.transcription jobs.trPostID).1).handleBotPostRecordings env callID
      jobs.recording jobs.recPostID).1

/-- A call's post links a recording to its transcription and back. -/
structure JobsLinked (post : Post) (recID trID : String) : Prop where
  recordings : (post.props.recordings.bind (·.get? recID)) = some ({ trID } : JobMetadata).toMap
  transcriptions : (post.props.transcriptions.bind (·.get? trID)) = some ({ recID } : JobMetadata).toMap

/-- The callbacks are valid, for one post of a call that links their jobs, and the IDs of their posts are new. -/
structure Completion.Proper (jobs : Completion) (store : PostStore) (callPost : Post) : Prop where
  recording : jobs.recording.isValid = .ok ()
  transcription : jobs.transcription.isValid = .ok ()
  samePost : jobs.transcription.postID = jobs.recording.postID
  found : store.posts.find? jobs.recording.postID = some callPost
  linked : JobsLinked callPost jobs.recording.jobID jobs.transcription.jobID
  named : jobs.recPostID ≠ ""
  recPostNew : jobs.recPostID ≠ jobs.recording.postID
  trPostNew : jobs.trPostID ≠ jobs.recording.postID
  different : jobs.recPostID ≠ jobs.trPostID

/-- The callbacks leave the call's post as they do in the other order, and the captions on the recording's post. -/
structure Completion.Commutes (env : BotEnvironment) (callID : String) (jobs : Completion) (store : PostStore) (order : CompletionOrder) :
    Prop where
  callPost : (jobs.handle env callID order store).posts.find? jobs.recording.postID =
    (jobs.handle env callID order.other store).posts.find? jobs.recording.postID
  captions : ((jobs.handle env callID order store).posts.find? jobs.recPostID).bind (·.props.captions) =
    some (toClientCaptions jobs.transcription.transcriptions)

theorem jobsLinked_of_saveRecordingMetadata {postID recID trID : String} {before after : PostStore}
    (saved : before.saveRecordingMetadata postID recID trID = .ok after) (transcribed : trID ≠ "") :
    ∃ post, after.posts.find? postID = some post ∧ JobsLinked post recID trID := by
  unfold PostStore.saveRecordingMetadata at saved
  split at saved
  · cases saved
  · next post found =>
    obtain ⟨-, rfl⟩ := KeyedTable.find?_eq_some_iff.mp found
    cases saved
    refine ⟨_, (KeyedTable.find?_put ..).trans (if_pos rfl), ?_, ?_⟩
    · simp
    · simp [transcribed]

namespace PostStore

variable {env : BotEnvironment} {callID : String} {store : PostStore} {callPost : Post}

/-- What the callback of a recording makes of the call's post. -/
def recorded (info : RecordingJobInfo) (recPostID : String) (post : Post) : Post :=
  { post with props :=
    { post.props with recordings := post.props.recordings.map (completed info.jobID (info.fileIDs[0]?.getD "") recPostID) } }

/-- What the callback of a transcription makes of it. -/
def transcribed (info : TranscribingJobInfo) (trPostID : String) (post : Post) : Post :=
  { post with props :=
    { post.props with transcriptions := post.props.transcriptions.map (completed info.jobID (captionsFile info) trPostID) } }

theorem find?_handleBotPostRecordings {info : RecordingJobInfo} {recPostID : String} (valid : info.isValid = .ok ())
    (found : store.posts.find? info.postID = some callPost) (id : String) :
    (store.handleBotPostRecordings env callID info recPostID).1.posts.find? id =
      if id = info.postID then some (recorded info recPostID callPost)
      else if id = recPostID then some (recordingPost env callID info recPostID callPost)
      else store.posts.find? id := by
  obtain ⟨-, named⟩ := KeyedTable.find?_eq_some_iff.mp found
  unfold handleBotPostRecordings
  rw [valid, found]
  simp [putPost, recorded, recordingPost, named]

section

variable {info : TranscribingJobInfo} {trPostID recID : String} {entry : JobMetadata}

/-- The recording has no post yet. -/
theorem find?_handleBotPostTranscriptions (valid : info.isValid = .ok ()) (found : store.posts.find? info.postID = some callPost)
    (transcription : callPost.props.transcriptions.bind (·.get? info.jobID) = some ({ recID } : JobMetadata).toMap)
    (recording : callPost.props.recordings.bind (·.get? recID) = some entry.toMap) (unposted : entry.postID = "") (id : String) :
    (store.handleBotPostTranscriptions env callID info trPostID).1.posts.find? id =
      if id = info.postID then some (transcribed info trPostID callPost)
      else if id = trPostID then some (transcriptionPost env callID info trPostID callPost)
      else store.posts.find? id := by
  obtain ⟨-, named⟩ := KeyedTable.find?_eq_some_iff.mp found
  obtain ⟨transcriptions, trs, tr⟩ := Option.bind_eq_some_iff.mp transcription
  obtain ⟨recordings, recs, rec⟩ := Option.bind_eq_some_iff.mp recording
  unfold handleBotPostTranscriptions
  rw [valid, found]
  simp [trs, tr, recs, rec, unposted, putPost, updateFileInfoPostID, transcribed, transcriptionPost, named]

/-- The recording has a post, which gets the captions. -/
theorem find?_handleBotPostTranscriptions_posted {recPost : Post} (valid : info.isValid = .ok ())
    (found : store.posts.find? info.postID = some callPost)
    (transcription : callPost.props.transcriptions.bind (·.get? info.jobID) = some ({ recID } : JobMetadata).toMap)
    (recording : callPost.props.recordings.bind (·.get? recID) = some entry.toMap) (posted : entry.postID ≠ "")
    (known : store.posts.find? entry.postID = some recPost) (different : entry.postID ≠ trPostID) (id : String) :
    (store.handleBotPostTranscriptions env callID info trPostID).1.posts.find? id =
      if id = info.postID then some (transcribed info trPostID callPost)
      else if id = entry.postID then
        some { recPost with props := { recPost.props with captions := some (toClientCaptions info.transcriptions) } }
      else if id = trPostID then some (transcriptionPost env callID info trPostID callPost)
      else store.posts.find? id := by
  obtain ⟨-, named⟩ := KeyedTable.find?_eq_some_iff.mp found
  obtain ⟨-, recNamed⟩ := KeyedTable.find?_eq_some_iff.mp known
  obtain ⟨transcriptions, trs, tr⟩ := Option.bind_eq_some_iff.mp transcription
  obtain ⟨recordings, recs, rec⟩ := Option.bind_eq_some_iff.mp recording
  unfold handleBotPostTranscriptions
  rw [valid, found]
  simp [trs, tr, recs, rec, posted, putPost, updateFileInfoPostID, transcribed, transcriptionPost, named, different, known, recNamed]

end

theorem recorded_transcribed (recording : RecordingJobInfo) (transcription : TranscribingJobInfo) (recPostID trPostID : String) (post : Post) :
    recorded recording recPostID (transcribed transcription trPostID post) =
      transcribed transcription trPostID (recorded recording recPostID post) := rfl

end PostStore

namespace Completion.Proper

variable {jobs : Completion} {store : PostStore} {callPost : Post}

open PostStore

/-- What the recording's callback writes is what the transcription's one finds. -/
theorem recorded_entry (proper : jobs.Proper store callPost) :
    ((recorded jobs.recording jobs.recPostID callPost).props.recordings.bind (·.get? jobs.recording.jobID)) =
      some ({ fileID := jobs.recording.fileIDs[0]?.getD "", postID := jobs.recPostID, trID := jobs.transcription.jobID } : JobMetadata).toMap := by
  obtain ⟨recordings, recs, entry⟩ := Option.bind_eq_some_iff.mp proper.linked.recordings
  simp [recorded, recs, completed, entry]

theorem find?_recordingFirst (env : BotEnvironment) (callID : String) (proper : jobs.Proper store callPost) (id : String) :
    (jobs.handle env callID .recordingFirst store).posts.find? id =
      if id = jobs.recording.postID then
        some (transcribed jobs.transcription jobs.trPostID (recorded jobs.recording jobs.recPostID callPost))
      else if id = jobs.recPostID then
        some { recordingPost env callID jobs.recording jobs.recPostID callPost with
          props := { (recordingPost env callID jobs.recording jobs.recPostID callPost).props with
            captions := some (toClientCaptions jobs.transcription.transcriptions) } }
      else if id = jobs.trPostID then
        some (transcriptionPost env callID jobs.transcription jobs.trPostID (recorded jobs.recording jobs.recPostID callPost))
      else store.posts.find? id := by
  have first (id : String) : (store.handleBotPostRecordings env callID jobs.recording jobs.recPostID).1.posts.find? id = _ :=
    find?_handleBotPostRecordings proper.recording proper.found id
  have callPostAfter := first jobs.recording.postID
  rw [if_pos rfl, ← proper.samePost] at callPostAfter
  have recPostAfter := first jobs.recPostID
  rw [if_neg proper.recPostNew, if_pos rfl] at recPostAfter
  unfold Completion.handle
  dsimp only
  rw [find?_handleBotPostTranscriptions_posted proper.transcription callPostAfter proper.linked.transcriptions proper.recorded_entry
    proper.named recPostAfter proper.different, first id, proper.samePost]
  by_cases call : id = jobs.recording.postID
  · rw [if_pos call, if_pos call]
  · rw [if_neg call, if_neg call, if_neg call]
    by_cases rec : id = jobs.recPostID
    · rw [if_pos rec, if_pos rec]
    · rw [if_neg rec, if_neg rec, if_neg rec]

theorem find?_transcriptionFirst (env : BotEnvironment) (callID : String) (proper : jobs.Proper store callPost) (id : String) :
    (jobs.handle env callID .transcriptionFirst store).posts.find? id =
      if id = jobs.recording.postID then
        some (recorded jobs.recording jobs.recPostID (transcribed jobs.transcription jobs.trPostID callPost))
      else if id = jobs.recPostID then
        some (recordingPost env callID jobs.recording jobs.recPostID (transcribed jobs.transcription jobs.trPostID callPost))
      else if id = jobs.trPostID then
        some (transcriptionPost env callID jobs.transcription jobs.trPostID callPost)
      else store.posts.find? id := by
  have found : store.posts.find? jobs.transcription.postID = some callPost := by
    rw [proper.samePost]
    exact proper.found
  have first (id : String) : (store.handleBotPostTranscriptions env callID jobs.transcription jobs.trPostID).1.posts.find? id = _ :=
    find?_handleBotPostTranscriptions proper.transcription found proper.linked.transcriptions proper.linked.recordings rfl id
  have callPostAfter := first jobs.recording.postID
  rw [if_pos proper.samePost.symm] at callPostAfter
  unfold Completion.handle
  dsimp only
  rw [find?_handleBotPostRecordings proper.recording callPostAfter, first id, proper.samePost]
  by_cases call : id = jobs.recording.postID
  · rw [if_pos call, if_pos call]
  · rw [if_neg call, if_neg call, if_neg call]

end Completion.Proper

/-- The callbacks commute on the call's post; the recording's post gets the captions exactly where its callback is handled first. -/
theorem commutes_iff_recordingFirst (env : BotEnvironment) (callID : String) {jobs : Completion} {store : PostStore} {callPost : Post}
    (proper : jobs.Proper store callPost) (order : CompletionOrder) :
    jobs.Commutes env callID store order ↔ order = .recordingFirst := by
  have recordingFirst (id : String) := Completion.Proper.find?_recordingFirst env callID proper id
  have transcriptionFirst (id : String) := Completion.Proper.find?_transcriptionFirst env callID proper id
  cases order with
  | recordingFirst =>
    refine ⟨fun _ => rfl, fun _ => ⟨?_, ?_⟩⟩
    · rw [CompletionOrder.other, recordingFirst, transcriptionFirst, if_pos rfl, if_pos rfl, PostStore.recorded_transcribed]
    · rw [recordingFirst, if_neg proper.recPostNew, if_pos rfl]
      rfl
  | transcriptionFirst =>
    refine ⟨fun commutes => ?_, fun same => by cases same⟩
    have captions := commutes.captions
    -- The post of the recording is made when the captions are gone by.
    rw [transcriptionFirst, if_neg proper.recPostNew, if_pos rfl] at captions
    cases captions

def english : BotEnvironment := { botID := "bot", transcriptionsEnabled := true, translation := id, formatTime := fun _ => "12:00AM" }

def callOfWeek : Post :=
  { id := "post", userID := "alice", channelID := "channel", message := "", type := "custom_calls", rootID := "", fileIDs := [], props := {} }

def unlinkedPosts : PostStore := { posts := KeyedTable.put .empty callOfWeek, files := .empty }

/-- The posts once the recording of a call was started with its transcription. -/
def linkedPosts : PostStore := (unlinkedPosts.saveRecordingMetadata "post" "rec" "tr").toOption.getD unlinkedPosts

def bothJobs : Completion :=
  { recording := { jobID := "rec", postID := "post", fileIDs := ["video"] }
    transcription := { jobID := "tr", postID := "post", transcriptions := [{ title := "", language := "en", fileIDs := ["vtt", "text"] }] }
    recPostID := "rec-post", trPostID := "tr-post" }

theorem bothJobs_proper : ∃ callPost, bothJobs.Proper linkedPosts callPost := by
  obtain ⟨callPost, found, linked⟩ : ∃ post, linkedPosts.posts.find? "post" = some post ∧ JobsLinked post "rec" "tr" :=
    jobsLinked_of_saveRecordingMetadata (show unlinkedPosts.saveRecordingMetadata "post" "rec" "tr" = .ok linkedPosts from rfl) (by decide)
  exact ⟨callPost, rfl, rfl, rfl, found, linked, by decide, by decide, by decide, by decide⟩

theorem commutes_of_bothJobs : bothJobs.Commutes english "channel" linkedPosts .recordingFirst := by
  obtain ⟨callPost, proper⟩ := bothJobs_proper
  exact (commutes_iff_recordingFirst english "channel" proper .recordingFirst).mpr rfl

/-- The transcription is completed before the recording: no captions are put on the post of the recording. -/
theorem not_commutes : ¬ ∀ env callID (jobs : Completion) store callPost, jobs.Proper store callPost →
    ∀ order, jobs.Commutes env callID store order := by
  intro commutes
  obtain ⟨callPost, proper⟩ := bothJobs_proper
  have captions := (commutes english "channel" bothJobs linkedPosts callPost proper .transcriptionFirst).captions
  exact absurd captions (by decide)

end Calls
