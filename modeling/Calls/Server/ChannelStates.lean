import Mathlib.Algebra.Order.Ring.Int
import Mathlib.Data.String.Basic
import Calls.Server.OngoingCalls

/-! The states of all the calls that a user may know of: merged from the channels with calls switched
on or off and from the active calls, each for the channels that the user may read. -/

set_option autoImplicit false

namespace Calls

structure CallsChannel where
  channelID : String
  enabled : Bool
  deriving DecidableEq

structure ChannelMember where
  channelID : String
  userID : String
  roles : List String
  deriving DecidableEq

/-- What the server knows of a user's permissions. -/
structure PermissionAPI where
  /-- The memberships of the user, in the order in which they are listed. -/
  members : KeyedTable ChannelMember.channelID
  /-- The error of a page of them. -/
  membersError : Nat → Option String
  rolesGrantPermission : List String → String → Bool
  /-- The team of a channel that can be had. -/
  getChannelTeam : String → Option String
  hasPermissionToTeam : String → String → String → Bool
  hasPermissionTo : String → String → Bool

structure ChannelState where
  channelID : String
  enabled : Option Bool
  call : Option CallStateClient
  deriving DecidableEq

/-- The order in which a loop over the map of calls visits them. -/
structure CallOrder where
  visit : List (String × Call) → List (String × Call)
  perm : ∀ calls, (visit calls).Perm calls

def permissionReadChannel : String := "read_channel"

def perPage : Nat := 200

namespace PermissionAPI

variable (api : PermissionAPI)

def getChannelMembersForUser (page : Nat) : Except String (List ChannelMember) :=
  match api.membersError page with
  | some err => .error err
  | none => .ok ((api.members.rows.drop (page * perPage)).take perPage)

def addMembers (channelMembers : StringMap ChannelMember) (cms : List ChannelMember) : StringMap ChannelMember :=
  cms.foldl (fun channelMembers cm => channelMembers.set cm.channelID cm) channelMembers

theorem length_of_page {page : Nat} {cms : List ChannelMember} (listed : api.getChannelMembersForUser page = .ok cms)
    (full : ¬ cms.length < perPage) : page * perPage < api.members.rows.length := by
  unfold getChannelMembersForUser at listed
  split at listed
  · cases listed
  · cases listed
    simp only [perPage, List.length_take, List.length_drop] at full
    simp only [perPage]
    omega

/-- The loop over the pages, which ends with one that is not full. -/
def channelMembersFrom (page : Nat) (channelMembers : StringMap ChannelMember) : Except String (StringMap ChannelMember) :=
  match listed : api.getChannelMembersForUser page with
  | .error err => .error err
  | .ok cms =>
    let channelMembers := addMembers channelMembers cms
    if cms.length < perPage then .ok channelMembers else channelMembersFrom (page + 1) channelMembers
termination_by api.members.rows.length - page * perPage
decreasing_by
  next full =>
    have more := api.length_of_page listed full
    simp only [perPage] at more ⊢
    omega

def hasPermissionToChannel (cm : Option ChannelMember) (perm : String) : Bool :=
  match cm with
  | none => false
  | some cm =>
    if api.rolesGrantPermission cm.roles perm then true
    else
      match api.getChannelTeam cm.channelID with
      | some teamID => api.hasPermissionToTeam cm.userID teamID perm
      | none => api.hasPermissionTo cm.userID perm

/-- Whether the user may read the channel. -/
def readable (channelID : String) : Bool := api.hasPermissionToChannel (api.members.find? channelID) permissionReadChannel

end PermissionAPI

section
variable (env : Env) (userID : String)

def clientStateOf (call : Call) : StoreCommand CallStateClient := do
  let cs ← getCallStateFromCall env call
  pure (cs.getClientState env.order env.botID userID)

/-- The calls that the user may know of. -/
def callsMapOf (mayRead : String → Bool) (calls : List Call) : StringMap Call :=
  calls.foldl (fun callsMap call => if mayRead call.channelID then callsMap.set call.channelID call else callsMap) .empty

/-- The entries of the channels in the table, and the calls that are left. -/
def tableEntries (mayRead : String → Bool) : List CallsChannel → StringMap Call → StoreCommand (List ChannelState × StringMap Call)
  | [], callsMap => pure ([], callsMap)
  | ch :: channels, callsMap =>
    if mayRead ch.channelID = false then tableEntries mayRead channels callsMap
    else
      match callsMap.get? ch.channelID with
      | none => do
        let (data, left) ← tableEntries mayRead channels callsMap
        pure (⟨ch.channelID, some ch.enabled, none⟩ :: data, left)
      | some call => do
        let state ← clientStateOf env userID call
        let (data, left) ← tableEntries mayRead channels (callsMap.erase ch.channelID)
        pure (⟨ch.channelID, some ch.enabled, some state⟩ :: data, left)

/-- The entries of calls whose channels are not in the table. -/
def callEntries : List (String × Call) → StoreCommand (List ChannelState)
  | [] => pure []
  | (_, call) :: calls => do
    let state ← clientStateOf env userID call
    let data ← callEntries calls
    pure (⟨call.channelID, none, some state⟩ :: data)

/-- `channels` is what is had of the table of channels. -/
def handleGetAllCallChannelStates (api : PermissionAPI) (order : CallOrder)
    (channels : Except String (KeyedTable CallsChannel.channelID)) : StoreCommand (List ChannelState) :=
  match api.channelMembersFrom 0 .empty with
  | .error err => .throw err
  | .ok channelMembers =>
    match channels with
    | .error err => .throw err
    | .ok channels => do
      let calls ← Store.getAllActiveCalls env.faults
      let mayRead (channelID : String) : Bool :=
        api.hasPermissionToChannel (channelMembers.get? channelID) permissionReadChannel
      let (data, left) ← tableEntries env userID mayRead channels.rows (callsMapOf mayRead calls)
      let others ← callEntries env userID (order.visit left.rows)
      pure (data ++ others)

end

/-! ### The memberships -/

namespace PermissionAPI

variable {api : PermissionAPI}

theorem addMembers_append (channelMembers : StringMap ChannelMember) (first second : List ChannelMember) :
    addMembers channelMembers (first ++ second) = addMembers (addMembers channelMembers first) second := List.foldl_append

/-- The pages from one on have the memberships from it on. -/
theorem channelMembersFrom_eq {page : Nat} {channelMembers result : StringMap ChannelMember}
    (success : api.channelMembersFrom page channelMembers = .ok result) :
    result = addMembers channelMembers (api.members.rows.drop (page * perPage)) := by
  fun_induction api.channelMembersFrom page channelMembers with
  | case1 page channelMembers err listed => cases success
  | case2 page channelMembers cms listed now last =>
    rw [← Except.ok.inj success]
    change addMembers channelMembers cms = _
    unfold getChannelMembersForUser at listed
    split at listed
    · cases listed
    · cases listed
      rw [List.length_take] at last
      rw [List.take_of_length_le (by omega)]
  | case3 page channelMembers cms listed now full ih =>
    rw [ih success]
    change addMembers (addMembers channelMembers cms) _ = _
    unfold getChannelMembersForUser at listed
    split at listed
    · cases listed
    · cases listed
      rw [← addMembers_append, Nat.succ_mul, ← List.drop_drop, List.take_append_drop]

theorem channelMembersFrom_ok (works : ∀ page, api.membersError page = none) (page : Nat) (channelMembers : StringMap ChannelMember) :
    ∃ result, api.channelMembersFrom page channelMembers = .ok result := by
  fun_induction api.channelMembersFrom page channelMembers with
  | case1 page channelMembers err listed =>
    unfold getChannelMembersForUser at listed
    rw [works] at listed
    cases listed
  | case2 => exact ⟨_, rfl⟩
  | case3 page channelMembers cms listed now full ih => exact ih

theorem get?_addMembers (channelID : String) :
    (addMembers .empty api.members.rows).get? channelID = api.members.find? channelID := by
  have read := @KeyedTable.read_foldl _ _ _ _ _ _ api.members (fun m cm => m.set cm.channelID cm)
    (fun m => StringMap.get? m channelID) (fun cm _ => some cm) channelID
    (fun m cm same => by simp [same]) (fun m cm other => by simp [Ne.symm other]) .empty
  refine read.trans ?_
  cases api.members.find? channelID <;> rfl

end PermissionAPI

/-! ### The calls that may be known of -/

section
variable {mayRead : String → Bool} {calls : List Call} {callsMap : StringMap Call} {channelID : String} {call : Call}

theorem get?_addCalls :
    let added := calls.foldl (fun callsMap call => if mayRead call.channelID then callsMap.set call.channelID call else callsMap) callsMap
    (∀ call, added.get? channelID = some call →
      call ∈ calls ∧ call.channelID = channelID ∧ mayRead channelID = true ∨ callsMap.get? channelID = some call) ∧
    (added.get? channelID = none ↔
      callsMap.get? channelID = none ∧ ∀ call ∈ calls, call.channelID = channelID → mayRead channelID = false) := by
  dsimp only
  induction calls generalizing callsMap with
  | nil => simp
  | cons first calls ih =>
    rw [List.foldl_cons]
    obtain ⟨found, absent⟩ := @ih (if mayRead first.channelID then callsMap.set first.channelID first else callsMap)
    refine ⟨fun call added => ?_, ?_⟩
    · rcases found call added with ⟨member, here, reads⟩ | before
      · exact .inl ⟨List.mem_cons_of_mem _ member, here, reads⟩
      · split at before
        · next reads =>
          rw [StringMap.get?_set] at before
          split at before
          · next here =>
            cases before
            exact .inl ⟨List.mem_cons_self, here.symm, by rwa [here]⟩
          · exact .inr before
        · exact .inr before
    · rw [absent, List.forall_mem_cons]
      by_cases reads : mayRead first.channelID = true
      · rw [if_pos reads, StringMap.get?_set]
        by_cases here : channelID = first.channelID
        · subst here
          simp [reads]
        · simp [here, Ne.symm here]
      · rw [if_neg reads]
        by_cases here : first.channelID = channelID
        · subst here
          simp [reads]
        · simp [here]

theorem get?_callsMapOf (found : (callsMapOf mayRead calls).get? channelID = some call) :
    call ∈ calls ∧ call.channelID = channelID ∧ mayRead channelID = true := by
  rcases get?_addCalls.1 call found with listed | before
  · exact listed
  · cases before

theorem get?_callsMapOf_eq_none_iff : (callsMapOf mayRead calls).get? channelID = none ↔
    ∀ call ∈ calls, call.channelID = channelID → mayRead channelID = false := by
  unfold callsMapOf
  rw [get?_addCalls.2]
  simp

end

/-! ### The entries -/

section
variable (env : Env) (userID : String) (store : Store)

/-- The call with what the store has of it. -/
def loadedCall (call : Call) : CallState where
  call
  sessions := store.callSessions call.id
  recording := store.activeCallJobs call.id .recording
  transcription := store.activeCallJobs call.id .transcribing
  liveCaptions := store.activeCallJobs call.id .captioning

def stateOf (call : Call) : CallStateClient := (loadedCall store call).getClientState env.order env.botID userID

/-- What a call has in the store can be had. -/
def LoadsCall (call : Call) : Prop :=
  env.faults (.getCallSessions call.id) = false ∧ env.faults (.getActiveCallJobs call.id) = false

theorem clientStateOf_cases (call : Call) :
    (LoadsCall env call ∧ clientStateOf env userID call store = (.ok (stateOf env userID store call), store)) ∨
      (¬ LoadsCall env call ∧ ∃ err, clientStateOf env userID call store = (.error err, store)) := by
  unfold clientStateOf getCallStateFromCall Store.getCallSessions Store.getActiveCallJobs Store.guarded LoadsCall
  cases sessions : env.faults (.getCallSessions call.id) with
  | true => exact .inr ⟨by simp, _, rfl⟩
  | false =>
    cases jobs : env.faults (.getActiveCallJobs call.id) with
    | true => exact .inr ⟨by simp, _, rfl⟩
    | false => exact .inl ⟨⟨rfl, rfl⟩, rfl⟩

variable {env userID store} {mayRead : String → Bool}

/-- The entry of a channel in the table. -/
def tableEntry (env : Env) (userID : String) (store : Store) (callsMap : StringMap Call) (ch : CallsChannel) : ChannelState :=
  ⟨ch.channelID, some ch.enabled, (callsMap.get? ch.channelID).map (stateOf env userID store)⟩

/-- The entries of the channels that may be read are had, with the calls of no such channel left over, or one of their
calls cannot be had. -/
def TableRun (env : Env) (userID : String) (store : Store) (mayRead : String → Bool) (channels : List CallsChannel)
    (callsMap : StringMap Call) : Prop :=
  ((∀ ch ∈ channels, mayRead ch.channelID = true → ∀ call, callsMap.get? ch.channelID = some call → LoadsCall env call) ∧
    ∃ left, tableEntries env userID mayRead channels callsMap store =
        (.ok ((channels.filter fun ch => mayRead ch.channelID).map (tableEntry env userID store callsMap), left), store) ∧
      ∀ channelID, left.get? channelID =
        if (∃ ch ∈ channels, ch.channelID = channelID) ∧ mayRead channelID = true then none else callsMap.get? channelID) ∨
  ((∃ ch ∈ channels, mayRead ch.channelID = true ∧ ∃ call, callsMap.get? ch.channelID = some call ∧ ¬ LoadsCall env call) ∧
    ∃ err, tableEntries env userID mayRead channels callsMap store = (.error err, store))

namespace TableRun

variable {ch : CallsChannel} {channels : List CallsChannel} {callsMap : StringMap Call} {call : Call}

theorem filter_cons_of_reads (reads : mayRead ch.channelID = true) :
    (ch :: channels).filter (fun ch => mayRead ch.channelID) = ch :: channels.filter fun ch => mayRead ch.channelID :=
  List.filter_cons_of_pos reads

/-- A channel that may not be read. -/
theorem hidden (notRead : mayRead ch.channelID = false) (run : TableRun env userID store mayRead channels callsMap) :
    TableRun env userID store mayRead (ch :: channels) callsMap := by
  unfold TableRun tableEntries
  rw [if_pos notRead]
  rcases run with ⟨loads, left, ran, rest⟩ | ⟨⟨other, member, fails⟩, failed⟩
  · refine .inl ⟨fun other member reads => ?_, left, ?_, fun channelID => ?_⟩
    · rcases List.mem_cons.mp member with rfl | member
      · rw [notRead] at reads
        cases reads
      · exact loads other member reads
    · rw [ran, List.filter_cons_of_neg (by simp [notRead])]
    · rw [rest channelID]
      by_cases here : ch.channelID = channelID
      · subst here
        simp [notRead]
      · simp [here]
  · exact .inr ⟨⟨other, List.mem_cons_of_mem _ member, fails⟩, failed⟩

/-- A channel that no call is known of. -/
theorem idle (reads : mayRead ch.channelID = true) (unknown : callsMap.get? ch.channelID = none)
    (run : TableRun env userID store mayRead channels callsMap) :
    TableRun env userID store mayRead (ch :: channels) callsMap := by
  unfold TableRun tableEntries
  rw [if_neg (by simp [reads]), unknown]
  dsimp only
  rcases run with ⟨loads, left, ran, rest⟩ | ⟨⟨other, member, fails⟩, err, failed⟩
  · refine .inl ⟨fun other member reads call held => ?_, left, ?_, fun channelID => ?_⟩
    · rcases List.mem_cons.mp member with rfl | member
      · rw [unknown] at held
        cases held
      · exact loads other member reads call held
    · rw [Command.bind_run, ran, filter_cons_of_reads reads]
      simp [tableEntry, unknown]
    · rw [rest channelID]
      by_cases here : ch.channelID = channelID
      · subst here
        simp [unknown]
      · simp [here]
  · refine .inr ⟨⟨other, List.mem_cons_of_mem _ member, fails⟩, err, ?_⟩
    rw [Command.bind_run, failed]

/-- A channel with a call, which is taken out for those that follow. -/
theorem active (reads : mayRead ch.channelID = true) (known : callsMap.get? ch.channelID = some call)
    (others : ∀ other ∈ channels, other.channelID ≠ ch.channelID)
    (run : TableRun env userID store mayRead channels (callsMap.erase ch.channelID)) :
    TableRun env userID store mayRead (ch :: channels) callsMap := by
  have kept (other : CallsChannel) (member : other ∈ channels) :
      StringMap.get? (callsMap.erase ch.channelID) other.channelID = callsMap.get? other.channelID := by
    rw [StringMap.get?_erase, if_neg (others other member)]
  unfold TableRun tableEntries
  rw [if_neg (by simp [reads]), known]
  dsimp only
  rcases clientStateOf_cases env userID store call with ⟨loaded, state⟩ | ⟨broken, err, state⟩
  · rcases run with ⟨loads, left, ran, rest⟩ | ⟨⟨other, member, reads, call', held, fails⟩, err, failed⟩
    · refine .inl ⟨fun other member reads held holds => ?_, left, ?_, fun channelID => ?_⟩
      · rcases List.mem_cons.mp member with rfl | member
        · rw [known] at holds
          cases holds
          exact loaded
        · exact loads other member reads held (by rw [kept other member, holds])
      · rw [Command.bind_run, state]
        dsimp only
        rw [Command.bind_run, ran, filter_cons_of_reads reads]
        have same : (channels.filter fun ch => mayRead ch.channelID).map
              (tableEntry env userID store (callsMap.erase ch.channelID)) =
            (channels.filter fun ch => mayRead ch.channelID).map (tableEntry env userID store callsMap) := by
          refine List.map_congr_left fun other member => ?_
          unfold tableEntry
          rw [kept other (List.mem_filter.mp member).1]
        rw [same]
        simp [tableEntry, known]
      · rw [rest channelID, StringMap.get?_erase]
        by_cases here : ch.channelID = channelID
        · subst here
          simp [reads]
        · simp [here, Ne.symm here]
    · refine .inr ⟨⟨other, List.mem_cons_of_mem _ member, reads, call', ?_, fails⟩, err, ?_⟩
      · rwa [kept other member] at held
      · rw [Command.bind_run, state]
        dsimp only
        rw [Command.bind_run, failed]
  · refine .inr ⟨⟨ch, List.mem_cons_self, reads, call, known, broken⟩, err, ?_⟩
    rw [Command.bind_run, state]

end TableRun

theorem tableEntries_cases (channels : List CallsChannel) (callsMap : StringMap Call)
    (nodup : (channels.map CallsChannel.channelID).Nodup) : TableRun env userID store mayRead channels callsMap := by
  induction channels generalizing callsMap with
  | nil => exact .inl ⟨fun ch member => absurd member List.not_mem_nil, callsMap, rfl, fun channelID => by simp⟩
  | cons ch channels ih =>
    obtain ⟨fresh, nodup⟩ := List.nodup_cons.mp nodup
    by_cases hidden : mayRead ch.channelID = false
    · exact (ih callsMap nodup).hidden hidden
    · have reads : mayRead ch.channelID = true := by simpa using hidden
      cases known : callsMap.get? ch.channelID with
      | none => exact (ih callsMap nodup).idle reads known
      | some call =>
        refine TableRun.active reads known (fun other member same => ?_) (ih _ nodup)
        exact fresh (List.mem_map.mpr ⟨other, member, same⟩)

/-- The entry of a call whose channel is not in the table. -/
def callEntry (env : Env) (userID : String) (store : Store) (row : String × Call) : ChannelState :=
  ⟨row.2.channelID, none, some (stateOf env userID store row.2)⟩

theorem callEntries_cases : ∀ rows : List (String × Call),
    ((∀ row ∈ rows, LoadsCall env row.2) ∧
      callEntries env userID rows store = (.ok (rows.map (callEntry env userID store)), store)) ∨
    ((∃ row ∈ rows, ¬ LoadsCall env row.2) ∧ ∃ err, callEntries env userID rows store = (.error err, store))
  | [] => .inl ⟨fun row member => absurd member List.not_mem_nil, rfl⟩
  | (channelID, call) :: rows => by
    unfold callEntries
    rcases clientStateOf_cases env userID store call with ⟨loaded, state⟩ | ⟨broken, err, state⟩
    · rcases callEntries_cases rows with ⟨loads, ran⟩ | ⟨⟨row, member, fails⟩, err, failed⟩
      · refine .inl ⟨fun row member => ?_, ?_⟩
        · rcases List.mem_cons.mp member with rfl | member
          · exact loaded
          · exact loads row member
        · rw [Command.bind_run, state]
          dsimp only
          rw [Command.bind_run, ran]
          rfl
      · refine .inr ⟨⟨row, List.mem_cons_of_mem _ member, fails⟩, err, ?_⟩
        rw [Command.bind_run, state]
        dsimp only
        rw [Command.bind_run, failed]
    · refine .inr ⟨⟨(channelID, call), List.mem_cons_self, broken⟩, err, ?_⟩
      rw [Command.bind_run, state]

end

/-! ### The response -/

theorem StringMap.mem_rows_iff {ν : Type} {m : StringMap ν} {key : String} {value : ν} :
    (key, value) ∈ m.rows ↔ m.get? key = some value := by
  unfold StringMap.get?
  rw [Option.map_eq_some_iff]
  constructor
  · intro member
    have stored : (key, value) ∈ m := member
    exact ⟨_, KeyedTable.find?_self stored, rfl⟩
  · intro found
    obtain ⟨row, found, rfl⟩ := found
    obtain ⟨member, rfl⟩ := KeyedTable.find?_eq_some_iff.mp found
    exact member

/-- The calls of the store that the user may know of, by their channels. -/
def knownCalls (api : PermissionAPI) (store : Store) : StringMap Call :=
  callsMapOf api.readable (store.calls.rows.filter Store.isActive)

/-- The entry of a channel. -/
def entryOf (env : Env) (userID : String) (api : PermissionAPI) (channels : KeyedTable CallsChannel.channelID) (store : Store)
    (channelID : String) : ChannelState :=
  ⟨channelID, (channels.find? channelID).map CallsChannel.enabled,
    ((knownCalls api store).get? channelID).map (stateOf env userID store)⟩

/-- What there is an entry for: a channel that may be read, and that is in the table or has a call. -/
def HasEntry (api : PermissionAPI) (channels : KeyedTable CallsChannel.channelID) (store : Store) (channelID : String) : Prop :=
  api.readable channelID = true ∧ (channels.contains channelID = true ∨ (knownCalls api store).get? channelID ≠ none)

section
variable {env : Env} {userID : String} {api : PermissionAPI} {order : CallOrder} {channels : KeyedTable CallsChannel.channelID}
  {store : Store}

theorem knownCalls_readable {channelID : String} {call : Call} (known : (knownCalls api store).get? channelID = some call) :
    call ∈ store.calls ∧ Store.isActive call = true ∧ call.channelID = channelID ∧ api.readable channelID = true := by
  obtain ⟨listed, here, reads⟩ := get?_callsMapOf known
  obtain ⟨member, active⟩ := List.mem_filter.mp listed
  exact ⟨member, active, here, reads⟩

/-- What is left of the calls has the channels that are not in the table. -/
def LeavesCalls (api : PermissionAPI) (channels : KeyedTable CallsChannel.channelID) (store : Store) (left : StringMap Call) : Prop :=
  ∀ channelID, left.get? channelID =
    if (∃ ch ∈ channels.rows, ch.channelID = channelID) ∧ api.readable channelID = true then none
    else (knownCalls api store).get? channelID

section
variable {left : StringMap Call} (rest : LeavesCalls api channels store left)

include rest

theorem known_of_left {channelID : String} {call : Call} (held : left.get? channelID = some call) :
    (knownCalls api store).get? channelID = some call ∧ call.channelID = channelID ∧ api.readable channelID = true ∧
      channels.find? channelID = none := by
  rw [rest channelID] at held
  split at held
  · cases held
  · next absent =>
    obtain ⟨-, -, here, reads⟩ := knownCalls_readable held
    refine ⟨held, here, reads, KeyedTable.find?_eq_none_iff.mpr fun ch member same => absent ⟨⟨ch, member, same⟩, reads⟩⟩

theorem nodup_entries : (((channels.rows.filter fun ch => api.readable ch.channelID).map
      (tableEntry env userID store (knownCalls api store)) ++
    (order.visit left.rows).map (callEntry env userID store)).map ChannelState.channelID).Nodup := by
  rw [List.map_append, List.map_map, List.map_map]
  have second : (order.visit left.rows).map (ChannelState.channelID ∘ callEntry env userID store) =
      (order.visit left.rows).map Prod.fst := by
    refine List.map_congr_left fun row member => ?_
    exact (known_of_left rest (StringMap.mem_rows_iff.mp ((order.perm left.rows).mem_iff.mp member))).2.1
  rw [second]
  refine List.nodup_append.mpr ⟨?_, ?_, ?_⟩
  · exact channels.nodup.sublist (List.filter_sublist.map CallsChannel.channelID)
  · exact ((order.perm left.rows).map Prod.fst).nodup_iff.mpr left.nodup
  · intro channelID inTable other inCalls same
    subst same
    obtain ⟨ch, member, rfl⟩ := List.mem_map.mp inTable
    obtain ⟨row, listed, same⟩ := List.mem_map.mp inCalls
    have absent := (known_of_left rest (StringMap.mem_rows_iff.mp ((order.perm left.rows).mem_iff.mp listed))).2.2.2
    rw [same] at absent
    exact KeyedTable.find?_eq_none_iff.mp absent ch (List.mem_filter.mp member).1 rfl

theorem mem_entries_iff {entry : ChannelState} :
    entry ∈ (channels.rows.filter fun ch => api.readable ch.channelID).map (tableEntry env userID store (knownCalls api store)) ++
        (order.visit left.rows).map (callEntry env userID store) ↔
      ∃ channelID, HasEntry api channels store channelID ∧ entry = entryOf env userID api channels store channelID := by
  rw [List.mem_append]
  constructor
  · rintro (inTable | inCalls)
    · obtain ⟨ch, member, rfl⟩ := List.mem_map.mp inTable
      obtain ⟨member, reads⟩ := List.mem_filter.mp member
      have found : channels.find? ch.channelID = some ch := KeyedTable.find?_self member
      refine ⟨ch.channelID, ⟨reads, .inl (KeyedTable.contains_iff.mpr ⟨ch, member, rfl⟩)⟩, ?_⟩
      unfold tableEntry entryOf
      rw [found]
      rfl
    · obtain ⟨row, member, rfl⟩ := List.mem_map.mp inCalls
      have held := StringMap.mem_rows_iff.mp ((order.perm left.rows).mem_iff.mp member)
      obtain ⟨known, here, reads, absent⟩ := known_of_left rest held
      refine ⟨row.1, ⟨reads, .inr (by rw [known]; exact Option.some_ne_none _)⟩, ?_⟩
      unfold callEntry entryOf
      rw [known, absent, here]
      rfl
  · rintro ⟨channelID, ⟨reads, has⟩, rfl⟩
    cases found : channels.find? channelID with
    | some ch =>
      obtain ⟨member, rfl⟩ := KeyedTable.find?_eq_some_iff.mp found
      refine .inl (List.mem_map.mpr ⟨ch, List.mem_filter.mpr ⟨member, reads⟩, ?_⟩)
      unfold tableEntry entryOf
      rw [found]
      rfl
    | none =>
      have absent : ¬ ((∃ ch ∈ channels.rows, ch.channelID = channelID) ∧ api.readable channelID = true) := by
        rintro ⟨⟨ch, member, same⟩, -⟩
        exact KeyedTable.find?_eq_none_iff.mp found ch member same
      have known : (knownCalls api store).get? channelID ≠ none := by
        rcases has with contained | known
        · rw [KeyedTable.contains, found] at contained
          cases contained
        · exact known
      obtain ⟨call, known⟩ := Option.ne_none_iff_exists'.mp known
      have held : left.get? channelID = some call := by rw [rest channelID, if_neg absent, known]
      refine .inr (List.mem_map.mpr ⟨(channelID, call), (order.perm left.rows).mem_iff.mpr (StringMap.mem_rows_iff.mpr held), ?_⟩)
      unfold callEntry entryOf
      rw [known, found, (known_of_left rest held).2.1]
      rfl

end

/-- The calls of the channels are had, and each channel has its one entry; or one of the calls is not had. -/
theorem handleGetAllCallChannelStates_cases (env : Env) (userID : String) (order : CallOrder)
    (channels : KeyedTable CallsChannel.channelID) (store : Store) {channelMembers : StringMap ChannelMember}
    (members : api.channelMembersFrom 0 .empty = .ok channelMembers) (listed : env.faults .getAllActiveCalls = false) :
    ((∀ channelID call, (knownCalls api store).get? channelID = some call → LoadsCall env call) ∧
      ∃ data, handleGetAllCallChannelStates env userID api order (.ok channels) store = (.ok data, store) ∧
        (data.map ChannelState.channelID).Nodup ∧
        ∀ entry, entry ∈ data ↔ ∃ channelID, HasEntry api channels store channelID ∧ entry = entryOf env userID api channels store channelID) ∨
    ((∃ channelID call, (knownCalls api store).get? channelID = some call ∧ ¬ LoadsCall env call) ∧
      ∃ err, handleGetAllCallChannelStates env userID api order (.ok channels) store = (.error err, store)) := by
  have mayRead : (fun channelID => api.hasPermissionToChannel (channelMembers.get? channelID) permissionReadChannel) = api.readable := by
    funext channelID
    unfold PermissionAPI.readable
    rw [PermissionAPI.channelMembersFrom_eq members, Nat.zero_mul, List.drop_zero, PermissionAPI.get?_addMembers]
  have calls : Store.getAllActiveCalls env.faults store = (.ok (store.calls.rows.filter Store.isActive), store) := by
    unfold Store.getAllActiveCalls Store.guarded
    rw [listed]
    rfl
  unfold handleGetAllCallChannelStates
  rw [members]
  dsimp only
  rw [Command.bind_run, calls, mayRead]
  dsimp only
  change _ ∧ (∃ data, (tableEntries env userID api.readable channels.rows (knownCalls api store) >>= _) store = _ ∧ _) ∨
    _ ∧ ∃ err, (tableEntries env userID api.readable channels.rows (knownCalls api store) >>= _) store = _
  rcases tableEntries_cases channels.rows (knownCalls api store) channels.nodup with
    ⟨loads, left, ran, rest⟩ | ⟨⟨ch, member, reads, call, known, fails⟩, err, failed⟩
  · rw [Command.bind_run, ran]
    dsimp only
    rcases callEntries_cases (order.visit left.rows) with ⟨others, entries⟩ | ⟨⟨row, member, fails⟩, err, failed⟩
    · refine .inl ⟨fun channelID call known => ?_, ?_⟩
      · by_cases inTable : (∃ ch ∈ channels.rows, ch.channelID = channelID) ∧ api.readable channelID = true
        · obtain ⟨⟨ch, member, rfl⟩, reads⟩ := inTable
          exact loads ch member reads call known
        · have held : left.get? channelID = some call := by rw [rest channelID, if_neg inTable, known]
          exact others (channelID, call) ((order.perm left.rows).mem_iff.mpr (StringMap.mem_rows_iff.mpr held))
      · refine ⟨(channels.rows.filter fun ch => api.readable ch.channelID).map (tableEntry env userID store (knownCalls api store)) ++
          (order.visit left.rows).map (callEntry env userID store), ?_, nodup_entries rest, fun entry => mem_entries_iff rest⟩
        rw [Command.bind_run, entries]
        rfl
    · have held := StringMap.mem_rows_iff.mp ((order.perm left.rows).mem_iff.mp member)
      rw [rest row.1] at held
      split at held
      · cases held
      · refine .inr ⟨⟨row.1, row.2, held, fails⟩, err, ?_⟩
        rw [Command.bind_run, failed]
  · refine .inr ⟨⟨ch.channelID, call, known, fails⟩, err, ?_⟩
    rw [Command.bind_run, failed]

end

/-! ### What the user learns -/

/-- Client states that differ in the order of the sessions alone. -/
structure SameCallState (left right : CallStateClient) : Prop where
  sessions : left.sessions.Perm right.sessions
  rest : { left with sessions := [] } = { right with sessions := [] }

/-- Entries that differ in the order of the sessions alone. -/
structure SameEntry (left right : ChannelState) : Prop where
  channelID : left.channelID = right.channelID
  enabled : left.enabled = right.enabled
  call : Option.Rel SameCallState left.call right.call

/-- Responses that are equal as sets. -/
structure SameResponse (data otherData : List ChannelState) : Prop where
  left : ∀ entry ∈ data, ∃ other ∈ otherData, SameEntry entry other
  right : ∀ other ∈ otherData, ∃ entry ∈ data, SameEntry entry other

def OneActiveCall (calls : KeyedTable Call.id) : Prop :=
  ∀ left ∈ calls, ∀ right ∈ calls, left.channelID = right.channelID → Store.isActive left = true → Store.isActive right = true →
    left = right

/-- The tables have the same of the channels that may be read: their rows, their active calls and the sessions and jobs of these. -/
structure AgreesOn (mayRead : String → Bool) (channels otherChannels : KeyedTable CallsChannel.channelID) (store other : Store) : Prop where
  channels : ∀ ch, mayRead ch.channelID = true → (ch ∈ channels ↔ ch ∈ otherChannels)
  calls : ∀ call, mayRead call.channelID = true → Store.isActive call = true → (call ∈ store.calls ↔ call ∈ other.calls)
  sessions : ∀ call ∈ store.calls, mayRead call.channelID = true → Store.isActive call = true →
    ∀ session, session.callID = call.id → (session ∈ store.sessions ↔ session ∈ other.sessions)
  jobs : ∀ call ∈ store.calls, mayRead call.channelID = true → Store.isActive call = true →
    ∀ job, job.callID = call.id → (job ∈ store.jobs ↔ job ∈ other.jobs)

/-- Each channel that may be read and is in the table or has an active call is listed once, with the state of its active call if
there is one. -/
structure ListsReadable (env : Env) (userID : String) (api : PermissionAPI) (channels : KeyedTable CallsChannel.channelID)
    (store : Store) (data : List ChannelState) : Prop where
  once : (data.map ChannelState.channelID).Nodup
  listed : ∀ channelID, channelID ∈ data.map ChannelState.channelID ↔
    api.readable channelID = true ∧
      (channels.contains channelID = true ∨ ∃ call ∈ store.calls, call.channelID = channelID ∧ Store.isActive call = true)
  call : ∀ entry ∈ data, entry.call.isSome = true ↔
    ∃ call ∈ store.calls, call.channelID = entry.channelID ∧ Store.isActive call = true
  state : ∀ entry ∈ data, ∀ state, entry.call = some state →
    ∃ call ∈ store.calls, call.channelID = entry.channelID ∧ Store.isActive call = true ∧ state = stateOf env userID store call
  enabled : ∀ entry ∈ data, entry.enabled = (channels.find? entry.channelID).map CallsChannel.enabled

section
variable {env : Env} {userID : String} {api : PermissionAPI} {channels otherChannels : KeyedTable CallsChannel.channelID}
  {store other : Store}

theorem knownCalls_ne_none_iff {channelID : String} (reads : api.readable channelID = true) :
    (knownCalls api store).get? channelID ≠ none ↔ ∃ call ∈ store.calls, call.channelID = channelID ∧ Store.isActive call = true := by
  unfold knownCalls
  rw [ne_eq, get?_callsMapOf_eq_none_iff]
  simp only [List.mem_filter, reads, Bool.true_eq_false, imp_false, not_forall, Decidable.not_not]
  constructor
  · rintro ⟨call, ⟨member, active⟩, here⟩
    exact ⟨call, member, here, active⟩
  · rintro ⟨call, member, here, active⟩
    exact ⟨call, ⟨member, active⟩, here⟩

theorem listsReadable_of_entries {data : List ChannelState} (once : (data.map ChannelState.channelID).Nodup)
    (entries : ∀ entry, entry ∈ data ↔
      ∃ channelID, HasEntry api channels store channelID ∧ entry = entryOf env userID api channels store channelID) :
    ListsReadable env userID api channels store data := by
  refine ⟨once, fun channelID => ?_, fun entry member => ?_, fun entry member state held => ?_, fun entry member => ?_⟩
  · rw [List.mem_map]
    constructor
    · rintro ⟨entry, member, rfl⟩
      obtain ⟨channelID, ⟨reads, has⟩, rfl⟩ := (entries entry).mp member
      exact ⟨reads, has.imp id (knownCalls_ne_none_iff reads).mp⟩
    · rintro ⟨reads, has⟩
      exact ⟨_, (entries _).mpr ⟨channelID, ⟨reads, has.imp id (knownCalls_ne_none_iff reads).mpr⟩, rfl⟩, rfl⟩
  · obtain ⟨channelID, ⟨reads, -⟩, rfl⟩ := (entries entry).mp member
    unfold entryOf
    dsimp only
    rw [← knownCalls_ne_none_iff reads, Option.isSome_map, Option.isSome_iff_ne_none]
  · obtain ⟨channelID, ⟨reads, -⟩, rfl⟩ := (entries entry).mp member
    obtain ⟨call, known, rfl⟩ := Option.map_eq_some_iff.mp held
    obtain ⟨listed, active, here, -⟩ := knownCalls_readable known
    exact ⟨call, listed, here, active, rfl⟩
  · obtain ⟨channelID, -, rfl⟩ := (entries entry).mp member
    rfl

theorem AgreesOn.symm (agrees : AgreesOn api.readable channels otherChannels store other) :
    AgreesOn api.readable otherChannels channels other store := by
  refine ⟨fun ch reads => (agrees.channels ch reads).symm, fun call reads active => (agrees.calls call reads active).symm,
    fun call member reads active session here => ?_, fun call member reads active job here => ?_⟩
  · exact (agrees.sessions call ((agrees.calls call reads active).mpr member) reads active session here).symm
  · exact (agrees.jobs call ((agrees.calls call reads active).mpr member) reads active job here).symm

theorem AgreesOn.knows (agrees : AgreesOn api.readable channels otherChannels store other) (one : OneActiveCall other.calls)
    {channelID : String} {call : Call} (known : (knownCalls api store).get? channelID = some call) :
    (knownCalls api other).get? channelID = some call := by
  obtain ⟨member, active, here, reads⟩ := knownCalls_readable known
  have listed : call ∈ other.calls := (agrees.calls call (by rwa [here]) active).mp member
  obtain ⟨same, found⟩ := Option.ne_none_iff_exists'.mp ((knownCalls_ne_none_iff reads).mpr ⟨call, listed, here, active⟩)
  obtain ⟨sameMember, sameActive, sameHere, -⟩ := knownCalls_readable found
  rw [found, one same sameMember call listed (sameHere.trans here.symm) sameActive active]

theorem AgreesOn.knownCalls (agrees : AgreesOn api.readable channels otherChannels store other) (one : OneActiveCall store.calls)
    (otherOne : OneActiveCall other.calls) (channelID : String) :
    (Calls.knownCalls api store).get? channelID = (Calls.knownCalls api other).get? channelID := by
  cases known : (Calls.knownCalls api store).get? channelID with
  | some call => exact (agrees.knows otherOne known).symm
  | none =>
    cases found : (Calls.knownCalls api other).get? channelID with
    | none => rfl
    | some call =>
      rw [agrees.symm.knows one found] at known
      cases known

theorem AgreesOn.find? (agrees : AgreesOn api.readable channels otherChannels store other) {channelID : String}
    (reads : api.readable channelID = true) : channels.find? channelID = otherChannels.find? channelID := by
  have same (ch : CallsChannel) : channels.find? channelID = some ch ↔ otherChannels.find? channelID = some ch := by
    rw [KeyedTable.find?_eq_some_iff, KeyedTable.find?_eq_some_iff]
    refine and_congr_left fun here => agrees.channels ch ?_
    rw [here, reads]
  exact Option.ext same

/-- The first row of a listing is one that no other row is before. -/
theorem firstBy_least {α : Type} {before : α → α → Bool}
    (trans : ∀ a b c, before a b = false → before b c = false → before a c = false)
    (asymm : ∀ a b, before a b = true → before b a = false) {rows : List α} {first : α} (found : rows.firstBy before = some first) :
    ∀ row ∈ rows, before row first = false := by
  have irrefl (a : α) : before a a = false := by
    cases self : before a a with
    | false => rfl
    | true => exact self.symm.trans (asymm a a self)
  induction rows generalizing first with
  | nil => cases found
  | cons head tail ih =>
    unfold List.firstBy at found
    cases rest : tail.firstBy before with
    | none =>
      rw [rest] at found
      cases found
      rw [List.firstBy_eq_none_iff.mp rest]
      intro row member
      rw [List.mem_singleton.mp member]
      exact irrefl head
    | some best =>
      rw [rest] at found
      have least := ih rest
      dsimp only at found
      split at found
      · next earlier =>
        cases found
        intro row member
        rcases List.mem_cons.mp member with rfl | member
        · exact asymm _ row earlier
        · exact least row member
      · next later =>
        cases found
        intro row member
        rcases List.mem_cons.mp member with rfl | member
        · exact irrefl row
        · exact trans row best head (least row member) (by simpa using later)

theorem jobBefore_eq_false_iff {left right : CallJob} : Store.jobBefore left right = false ↔
    left.startAt ≤ right.startAt ∧ (left.startAt = right.startAt → right.id ≤ left.id) := by
  unfold Store.jobBefore
  rw [decide_eq_false_iff_not, not_or, not_and, not_lt]
  simp only [not_lt]

theorem jobBefore_trans (a b c : CallJob) (first : Store.jobBefore a b = false) (second : Store.jobBefore b c = false) :
    Store.jobBefore a c = false := by
  rw [jobBefore_eq_false_iff] at *
  refine ⟨first.1.trans second.1, fun same => ?_⟩
  have equal : a.startAt = b.startAt ∧ b.startAt = c.startAt := by
    have lower := first.1
    have upper := second.1
    omega
  exact (second.2 equal.2).trans (first.2 equal.1)

theorem jobBefore_asymm (a b : CallJob) (before : Store.jobBefore a b = true) : Store.jobBefore b a = false := by
  rw [jobBefore_eq_false_iff]
  unfold Store.jobBefore at before
  rw [decide_eq_true_eq] at before
  rcases before with later | ⟨same, less⟩
  · exact ⟨later.le, fun same => absurd same later.ne⟩
  · exact ⟨same.ge, fun _ => less.le⟩

theorem activeCallJobs_eq {callID : String} (same : ∀ job, job.callID = callID → (job ∈ store.jobs ↔ job ∈ other.jobs)) (type : JobType) :
    store.activeCallJobs callID type = other.activeCallJobs callID type := by
  have listed (job : CallJob) :
      job ∈ store.jobs.rows.filter (fun job => job.callID = callID ∧ job.endAt = 0 ∧ job.type = type) ↔
        job ∈ other.jobs.rows.filter fun job => job.callID = callID ∧ job.endAt = 0 ∧ job.type = type := by
    rw [List.mem_filter, List.mem_filter, decide_eq_true_eq]
    exact and_congr_left fun facts => same job facts.1
  have least {tables : Store} {first : CallJob} (found : tables.activeCallJobs callID type = some first) :=
    firstBy_least jobBefore_trans jobBefore_asymm found
  cases found : store.activeCallJobs callID type with
  | none =>
    have empty := List.firstBy_eq_none_iff.mp found
    refine (List.firstBy_eq_none_iff.mpr (List.eq_nil_iff_forall_not_mem.mpr fun job member => ?_)).symm
    have member := (listed job).mpr member
    rw [empty] at member
    cases member
  | some first =>
    have member := List.firstBy_mem found
    cases otherFound : other.activeCallJobs callID type with
    | none =>
      have empty := List.firstBy_eq_none_iff.mp otherFound
      rw [listed, empty] at member
      cases member
    | some second =>
      have otherMember := List.firstBy_mem otherFound
      obtain ⟨lower, lowerID⟩ := jobBefore_eq_false_iff.mp (least found second ((listed second).mpr otherMember))
      obtain ⟨upper, upperID⟩ := jobBefore_eq_false_iff.mp (least otherFound first ((listed first).mp member))
      have started : first.startAt = second.startAt := le_antisymm upper lower
      have id : first.id = second.id := le_antisymm (lowerID started.symm) (upperID started)
      have stored := (Store.activeCallJobs_eq_some found).1
      have otherStored := (same second (Store.activeCallJobs_eq_some otherFound).2.1).mpr (Store.activeCallJobs_eq_some otherFound).1
      rw [KeyedTable.eq_of_key_eq stored otherStored id]

theorem AgreesOn.sameState (agrees : AgreesOn api.readable channels otherChannels store other) {call : Call} (member : call ∈ store.calls)
    (reads : api.readable call.channelID = true) (active : Store.isActive call = true) (order : IterationOrder) :
    SameCallState (stateOf env userID store call) (stateOf { env with order } userID other call) := by
  have jobs (type : JobType) : store.activeCallJobs call.id type = other.activeCallJobs call.id type :=
    activeCallJobs_eq (agrees.jobs call member reads active) type
  have sessions : (store.callSessions call.id).rows.Perm (other.callSessions call.id).rows := by
    refine (List.perm_ext_iff_of_nodup (store.callSessions call.id).nodup.of_map (other.callSessions call.id).nodup.of_map).mpr
      fun session => ?_
    rw [← KeyedTable.mem_def, ← KeyedTable.mem_def, Store.mem_callSessions, Store.mem_callSessions]
    exact and_congr_left fun here => agrees.sessions call member reads active session here
  unfold stateOf loadedCall
  rw [jobs, jobs, jobs]
  refine ⟨?_, rfl⟩
  unfold CallState.getClientState CallState.getStates
  dsimp only
  refine .map _ (.filter _ ?_)
  exact (env.order.perm _).trans (sessions.trans (order.perm _).symm)

theorem AgreesOn.hasEntry (agrees : AgreesOn api.readable channels otherChannels store other) (one : OneActiveCall store.calls)
    (otherOne : OneActiveCall other.calls) {channelID : String} (has : HasEntry api channels store channelID) :
    HasEntry api otherChannels other channelID := by
  obtain ⟨reads, has⟩ := has
  refine ⟨reads, ?_⟩
  rw [← agrees.knownCalls one otherOne channelID, KeyedTable.contains, ← agrees.find? reads]
  exact has

theorem AgreesOn.sameEntry (agrees : AgreesOn api.readable channels otherChannels store other) (one : OneActiveCall store.calls)
    (otherOne : OneActiveCall other.calls) {channelID : String} (has : HasEntry api channels store channelID) (order : IterationOrder) :
    SameEntry (entryOf env userID api channels store channelID)
      (entryOf { env with order } userID api otherChannels other channelID) := by
  unfold entryOf
  rw [agrees.find? has.1, ← agrees.knownCalls one otherOne channelID]
  refine ⟨rfl, rfl, ?_⟩
  dsimp only
  cases found : (Calls.knownCalls api store).get? channelID with
  | none => exact .none
  | some call =>
    obtain ⟨member, active, here, reads⟩ := knownCalls_readable found
    exact .some (agrees.sameState member (by rwa [here]) active order)

theorem had_of_response {order : CallOrder} {data : List ChannelState} {after : Store}
    (responds : handleGetAllCallChannelStates env userID api order (.ok channels) store = (.ok data, after)) :
    (∃ channelMembers, api.channelMembersFrom 0 .empty = .ok channelMembers) ∧ env.faults .getAllActiveCalls = false := by
  unfold handleGetAllCallChannelStates at responds
  cases members : api.channelMembersFrom 0 .empty with
  | error err =>
    rw [members] at responds
    cases responds
  | ok channelMembers =>
    rw [members] at responds
    refine ⟨⟨_, rfl⟩, ?_⟩
    cases listed : env.faults .getAllActiveCalls with
    | false => rfl
    | true =>
      dsimp only at responds
      unfold Store.getAllActiveCalls Store.guarded at responds
      rw [listed] at responds
      cases responds

/-- The response lists what the user may read, and what it has of two stores that agree on this is the same; there is one where
nothing fails. -/
theorem handleGetAllCallChannelStates_confined (env : Env) (userID : String) (api : PermissionAPI) (order : CallOrder)
    (channels : KeyedTable CallsChannel.channelID) (store : Store) :
    (∀ data after, handleGetAllCallChannelStates env userID api order (.ok channels) store = (.ok data, after) →
      after = store ∧ ListsReadable env userID api channels store data) ∧
    (∀ sessionOrder callOrder otherChannels other, OneActiveCall store.calls → OneActiveCall other.calls →
      AgreesOn api.readable channels otherChannels store other →
      ∀ data after, handleGetAllCallChannelStates env userID api order (.ok channels) store = (.ok data, after) →
        ∃ otherData, handleGetAllCallChannelStates { env with order := sessionOrder } userID api callOrder (.ok otherChannels) other =
          (.ok otherData, other) ∧ SameResponse data otherData) ∧
    ((∀ page, api.membersError page = none) → env.StoreWorks →
      ∃ data, handleGetAllCallChannelStates env userID api order (.ok channels) store = (.ok data, store)) := by
  refine ⟨fun data after responds => ?_, fun sessionOrder callOrder otherChannels other one otherOne agrees data after responds => ?_,
    fun pages works => ?_⟩
  · obtain ⟨⟨channelMembers, members⟩, listed⟩ := had_of_response responds
    rcases handleGetAllCallChannelStates_cases env userID order channels store members listed with
      ⟨-, shown, ran, once, entries⟩ | ⟨-, err, failed⟩
    · rw [ran] at responds
      cases responds
      exact ⟨rfl, listsReadable_of_entries once entries⟩
    · rw [failed] at responds
      cases responds
  · obtain ⟨⟨channelMembers, members⟩, listed⟩ := had_of_response responds
    rcases handleGetAllCallChannelStates_cases env userID order channels store members listed with
      ⟨loads, shown, ran, -, entries⟩ | ⟨-, err, failed⟩
    · rw [ran] at responds
      cases responds
      rcases handleGetAllCallChannelStates_cases { env with order := sessionOrder } userID callOrder otherChannels other members listed with
        ⟨-, otherData, otherRan, -, otherEntries⟩ | ⟨⟨channelID, call, known, fails⟩, -⟩
      · refine ⟨otherData, otherRan, fun entry member => ?_, fun entry member => ?_⟩
        · obtain ⟨channelID, has, rfl⟩ := (entries entry).mp member
          exact ⟨_, (otherEntries _).mpr ⟨channelID, agrees.hasEntry one otherOne has, rfl⟩, agrees.sameEntry one otherOne has sessionOrder⟩
        · obtain ⟨channelID, otherHas, rfl⟩ := (otherEntries entry).mp member
          have has := agrees.symm.hasEntry otherOne one otherHas
          exact ⟨_, (entries _).mpr ⟨channelID, has, rfl⟩, agrees.sameEntry one otherOne has sessionOrder⟩
      · exact absurd (loads channelID call ((agrees.knownCalls one otherOne channelID).trans known)) fails
    · rw [failed] at responds
      cases responds
  · obtain ⟨channelMembers, members⟩ := PermissionAPI.channelMembersFrom_ok pages 0 .empty
    rcases handleGetAllCallChannelStates_cases env userID order channels store members (works _) with
      ⟨-, data, ran, -⟩ | ⟨⟨channelID, call, -, fails⟩, -⟩
    · exact ⟨data, ran⟩
    · exact absurd ⟨works _, works _⟩ fails

end

/-- A call that bob has started. -/
def callOfBob (id channelID : String) : Call :=
  { id, channelID, startAt := 1000, createAt := 1000, ownerID := "bob", props := .zero }

/-- Alice is a member of one channel, which her role lets her read. -/
def apiOfAlice : PermissionAPI where
  members := ⟨[⟨"open", "alice", ["channel_user"]⟩], by decide⟩
  membersError _ := none
  rolesGrantPermission roles _ := roles.contains "channel_user"
  getChannelTeam _ := some "team"
  hasPermissionToTeam _ _ _ := false
  hasPermissionTo _ _ := false

def openCalls : Store := { Store.empty with calls := ⟨[callOfBob "call-1" "open"], by decide⟩ }

def secretCalls : Store := { Store.empty with calls := ⟨[callOfBob "call-2" "secret", callOfBob "call-1" "open"], by decide⟩ }

/-- She does not learn of a call elsewhere. -/
theorem confined_of_secretCalls : ∃ data otherData,
    handleGetAllCallChannelStates (.quiet 2000 "new") "alice" apiOfAlice ⟨id, fun _ => .refl _⟩ (.ok .empty) openCalls =
        (.ok data, openCalls) ∧
      handleGetAllCallChannelStates (.quiet 2000 "new") "alice" apiOfAlice ⟨id, fun _ => .refl _⟩ (.ok .empty) secretCalls =
        (.ok otherData, secretCalls) ∧
      SameResponse data otherData ∧ "open" ∈ data.map ChannelState.channelID := by
  obtain ⟨lists, leaks, responds⟩ :=
    handleGetAllCallChannelStates_confined (.quiet 2000 "new") "alice" apiOfAlice ⟨id, fun _ => .refl _⟩ .empty openCalls
  obtain ⟨data, ran⟩ := responds (fun _ => rfl) fun _ => rfl
  have agrees : AgreesOn apiOfAlice.readable .empty .empty openCalls secretCalls := by
    refine ⟨fun ch _ => Iff.rfl, fun call reads _ => ?_, fun _ _ _ _ _ _ => Iff.rfl, fun _ _ _ _ _ _ => Iff.rfl⟩
    have others : call ∈ secretCalls.calls ↔ call = callOfBob "call-2" "secret" ∨ call ∈ openCalls.calls := List.mem_cons
    rw [others, or_iff_right]
    rintro rfl
    revert reads
    decide
  obtain ⟨otherData, otherRan, same⟩ := leaks .stored ⟨id, fun _ => .refl _⟩ .empty secretCalls (by unfold OneActiveCall; decide)
    (by unfold OneActiveCall; decide) agrees data openCalls ran
  refine ⟨data, otherData, ran, otherRan, same, ((lists data openCalls ran).2.listed "open").mpr ⟨by decide, .inr ?_⟩⟩
  exact ⟨callOfBob "call-1" "open", by decide, rfl, by decide⟩

end Calls
