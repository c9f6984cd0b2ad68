import AimServer.Store.Pool
import AimServer.Session.Lookups
import AimServer.Properties.Client

/-!
Contract: a request as it is pushed and as it is listed.

Owns: what `OnSendRequestResponse` pushes to the approver and leaves in
`t_friend_request`, what `OnPendingRequestsResponse` makes of the row, and the
exact condition under which the two messages differ in nothing but their time.

The push is built from the arguments and the sender's session, the list from the
row and the cache. The list gives a group name to invitations only, and a pending
duplicate keeps the message it was stored with.
-/

namespace AimServer

open AimServer.Lib

/-- Nothing but the time differs. -/
def FriendRequest.Agrees (pushed listed : FriendRequest) : Prop :=
  { pushed with timestamp := listed.timestamp } = listed

/-- There is an entry with the id of the pushed request, and every such entry
agrees with it. -/
def FriendRequest.ListedIn (pushed : FriendRequest) (entries : List FriendRequest) : Prop :=
  (∃ entry ∈ entries, entry.reqid = pushed.reqid) ∧
    ∀ entry ∈ entries, entry.reqid = pushed.reqid → pushed.Agrees entry

namespace Store

/-- Whom a request is addressed to. -/
def approverId (req : SendRequestReq) (s : Store) : Int :=
  if req.reqtype = 3 then ((s.getUserByID req.groupid).map User.ownerid).getD 0 else req.targetid

/-- The `AddFriendRequest` a request leads to. -/
def requestCall (user : User) (req : SendRequestReq) (s : Store) : RequestCall where
  fromId := user.userid
  toId := s.approverId req
  reqType := req.reqtype
  groupId := if req.reqtype = 1 then 0 else req.groupid
  message := req.message

/-- The group name in the push. -/
def pushedGroupname (req : SendRequestReq) (s : Store) : Bytes :=
  if req.reqtype = 1 then [] else ((s.getUserByID req.groupid).map User.nickname).getD []

/-- The session copy of a user has the name and the face of his record. -/
def CopyCurrent (user : User) (s : Store) : Prop :=
  ∃ record, s.getUserByID user.userid = some record ∧ record.nickname = user.nickname ∧
    record.customface = user.customface

/-- The pushed message. -/
def pushedRequest (user : User) (req : SendRequestReq) (reqid now : Int) (s : Store) :
    FriendRequest where
  reqid := reqid
  fromid := user.userid
  fromname := user.nickname
  fromface := user.customface
  toid := s.approverId req
  reqtype := req.reqtype
  groupid := (s.requestCall user req).groupId
  groupname := s.pushedGroupname req
  timestamp := now
  message := req.message

end Store

namespace World

/-- In this step `user` sends `req`, its approver is online, and `request` is
pushed to him. -/
structure Pushes (pb : ImProto) (w : World) (label : Step) (user : User) (req : SendRequestReq)
    (approver : User) (request : FriendRequest) : Prop where
  asked : ∃ ask, w.asks label .sendRequest pb.sendRequestReq = some ask ∧
    ask.session.user = some user ∧ ask.req = req
  online : ∃ session, w.getSessionByID (w.store.approverId req) = some session ∧
    session.user = some approver ∧
      (session.conn, ⟨cmdNewRequestPush, 0, 0, .newRequest request⟩) ∈ w.sent pb label

/-- In this step the approver is sent the list of his requests. -/
def Lists (pb : ImProto) (w : World) (label : Step) (approver : User)
    (entries : List FriendRequest) : Prop :=
  ∃ session msg viewer, w.dispatched label = some (.pendingRequests, session, msg) ∧
    session.user = some viewer ∧ viewer.userid = approver.userid ∧
      ∃ seq code text, (session.conn, ⟨MsgType.pendingRequests.cmd, seq, 0,
        .pendingRequests code text entries⟩) ∈ w.sent pb label

end World

/-- A request with an id of its own, from a user whose requests are listed, for a
group without a name if it is an application, and with the message of its pending
duplicate if there is one; and the list is read. -/
structure ListsAsPushed (w : World) (label later : Step) (user : User) (req : SendRequestReq) :
    Prop where
  shown : 0 < user.userid
  unnamed : req.reqtype = 3 → w.store.pushedGroupname req = []
  reused : label.env.sql 0 = true → ∀ entry ∈ w.store.db.tables.friendRequests.rows.find?
    (fun entry => (w.store.requestCall user req).matchesRow entry.2),
      entry.2.message = req.message
  numbered : (label.env.sql 0 = true →
    (w.store.requestCall user req).pendingId w.store.db.tables = none) → label.env.sql 2 = true
  read : later.env.sql 0 = true

/-- `AUTO_INCREMENT` counts from 1. -/
def KeysFromOne (tables : Tables) : Prop :=
  0 < tables.friendRequests.next ∧ ∀ entry ∈ tables.friendRequests.rows, 0 < entry.1

/-- The row behind a request with this id: a pending duplicate, or a new row whose
key the last query may have failed to read. -/
inductive Filed (env : Env) (call : RequestCall) (tables : Tables) (reqid : Int) :
    Tables → Prop
  | reused {entry : Int × FriendRequestRow} (granted : env.sql 0 = true)
      (found : tables.friendRequests.rows.find? (fun entry => call.matchesRow entry.2) = some entry)
      (isId : reqid = entry.1) : Filed env call tables reqid tables
  | stored (fresh : env.sql 0 = true → call.pendingId tables = none)
      (isId : reqid = if env.sql 2 then tables.friendRequests.next else 0) :
      Filed env call tables reqid
        { tables with friendRequests := tables.friendRequests.insert (call.row env.now) }

namespace Store

/-- `AddFriendRequest` reads and writes no record. -/
theorem addFriendRequest_cachedUsers (fromId toId reqType groupId : Int) (message : Bytes)
    (s : Store) :
    (s.addFriendRequest fromId toId reqType groupId message).2.cachedUsers = s.cachedUsers := by
  refine addFriendRequest_relates
    (fun before after => after.cachedUsers = before.cachedUsers) ?_ ?_ ?_ _ _ _ _ _ _
  · intro s middle next first second
    exact second.trans first
  · intro s
    rfl
  · intro row s
    rfl

/-- A request that gets an id has a row. -/
theorem filed_of_addFriendRequest {call : RequestCall} {env : Env} {s next : Store} {reqid : Int}
    (outcomes : s.db.outcomes = env.sql) (clock : s.db.clock = env.now)
    (added : s.addFriendRequest call.fromId call.toId call.reqType call.groupId call.message =
      (some reqid, next)) : Filed env call s.db.tables reqid next.db.tables := by
  have sequential := ConnectionPool.addFriendRequest_sequential s call
  rw [added, outcomes, clock] at sequential
  split at sequential
  · rename_i id found
    obtain ⟨isId, sameTables⟩ := Prod.mk.inj sequential
    rw [sameTables]
    split at found
    · rename_i granted
      obtain ⟨entry, isFirst, rfl⟩ := Option.map_eq_some_iff.mp found
      exact .reused granted isFirst (Option.some.inj isId)
    · cases found
  · rename_i missing
    split at sequential
    · obtain ⟨isId, newTables⟩ := Prod.mk.inj sequential
      rw [newTables]
      refine .stored ?_ (Option.some.inj isId)
      intro granted
      rw [if_pos granted] at missing
      exact missing
    · cases sequential

end Store

namespace World

section Send

variable {pb : ImProto} {s : ClientSession} {msg : MessageContainer} {user : User}
  {req : SendRequestReq} {w : World}

/-- `OnSendRequestResponse` refuses, or stores the request it was asked for. -/
theorem onSendRequestResponse_cases (signedIn : s.user = some user)
    (parsed : pb.sendRequestReq msg.payload = some req) :
    (∃ code text, w.onSendRequestResponse pb s msg =
      w.reply s .sendRequest (.sendRequest code text)) ∨
    (req.reqtype = 1 ∨ req.reqtype = 2 ∨ req.reqtype = 3) ∧
    ∃ sent failed, w.onSendRequestResponse pb s msg =
      w.storeRequest s user (w.store.requestCall user req).toId req.reqtype
        (w.store.requestCall user req).groupId (w.store.pushedGroupname req) req.message sent
        failed := by
  unfold onSendRequestResponse
  rw [signedIn, parsed]
  dsimp only
  split
  · rename_i isFriend
    unfold sendFriendRequest
    dsimp only
    split
    · exact Or.inl ⟨_, _, rfl⟩
    split
    · exact Or.inl ⟨_, _, rfl⟩
    split
    · exact Or.inl ⟨_, _, rfl⟩
    split
    · exact Or.inl ⟨_, _, rfl⟩
    · simp only [Store.requestCall, Store.approverId, Store.pushedGroupname, isFriend]
      exact Or.inr ⟨by decide, _, _, rfl⟩
  split
  · rename_i isInvitation
    unfold sendInvitation
    dsimp only
    split
    · exact Or.inl ⟨_, _, rfl⟩
    rename_i group found
    split
    · exact Or.inl ⟨_, _, rfl⟩
    split
    · exact Or.inl ⟨_, _, rfl⟩
    split
    · exact Or.inl ⟨_, _, rfl⟩
    split
    · exact Or.inl ⟨_, _, rfl⟩
    · simp only [Store.requestCall, Store.approverId, Store.pushedGroupname, isInvitation, found]
      exact Or.inr ⟨by decide, _, _, rfl⟩
  split
  · rename_i isApplication
    unfold sendApplication
    dsimp only
    split
    · exact Or.inl ⟨_, _, rfl⟩
    rename_i group found
    split
    · exact Or.inl ⟨_, _, rfl⟩
    split
    · exact Or.inl ⟨_, _, rfl⟩
    split
    · exact Or.inl ⟨_, _, rfl⟩
    · simp only [Store.requestCall, Store.approverId, Store.pushedGroupname, isApplication, found]
      exact Or.inr ⟨by decide, _, _, rfl⟩
  · exact Or.inl ⟨_, _, rfl⟩

/-- A stored request is pushed to its addressee before the reply. -/
theorem storeRequest_filed (env : Env) {call : RequestCall} {groupname : Bytes}
    {sent failed : String} (isUser : user.userid = call.fromId)
    (outcomes : w.store.db.outcomes = env.sql) (clock : w.store.db.clock = env.now)
    (time : w.env.now = env.now) {next : World}
    (stored : w.storeRequest s user call.toId call.reqType call.groupId groupname call.message sent
      failed = next) :
    (∃ code text, next.outbox =
      w.outbox ++ [replyFrame s .sendRequest (.sendRequest code text)]) ∨
    ∃ reqid code text, Filed env call w.store.db.tables reqid next.store.db.tables ∧
      next.store.cachedUsers = w.store.cachedUsers ∧
      next.outbox = w.outbox ++ w.newRequestFrames call.toId
        ⟨reqid, user.userid, user.nickname, user.customface, 0, call.reqType, call.groupId,
          groupname, env.now, call.message⟩ ++
            [replyFrame s .sendRequest (.sendRequest code text)] := by
  rw [storeRequest, isUser] at stored
  cases added : w.store.addFriendRequest call.fromId call.toId call.reqType call.groupId
    call.message with
  | mk result store =>
      rw [added] at stored
      cases result with
      | none =>
          subst stored
          exact Or.inl ⟨_, _, rfl⟩
      | some reqid =>
          subst stored
          have filed := Store.filed_of_addFriendRequest outcomes clock added
          refine Or.inr ⟨reqid, 0, sent, filed, ?_, ?_⟩
          · have kept := w.store.addFriendRequest_cachedUsers call.fromId call.toId call.reqType
              call.groupId call.message
            rw [added] at kept
            exact kept
          · rw [isUser, ← time]
            rfl

/-- What is pushed, and the row it is about. -/
theorem Pushes.filed {label : Step} {approver : User} {request : FriendRequest}
    (pushes : Pushes pb w label user req approver request) (keyed : w.Keyed) :
    approver.userid = w.store.approverId req ∧
      (req.reqtype = 1 ∨ req.reqtype = 2 ∨ req.reqtype = 3) ∧
      (w.step pb label).store.cachedUsers = w.store.cachedUsers ∧
        ∃ reqid, request = w.store.pushedRequest user req reqid label.env.now ∧
          Filed label.env (w.store.requestCall user req) w.store.db.tables reqid
            (w.step pb label).store.db.tables := by
  obtain ⟨⟨ask, asked, signedIn, rfl⟩, session, found, isApprover, pushed⟩ := pushes
  obtain ⟨reached, parsed⟩ := dispatched_of_asks asked
  have isId : approver.userid = w.store.approverId ask.req := by
    have sameId := (mem_of_found found).2
    rwa [ClientSession.userID, isApprover] at sameId
  have handled : w.step pb label =
      ((w.withEnv label.env).setSession ask.session).onSendRequestResponse pb ask.session ask.msg :=
    step_of_dispatched pb reached
  have refuted : ∀ code text, (w.step pb label).outbox =
      w.outbox ++ [replyFrame ask.session .sendRequest (.sendRequest code text)] → False := by
    intro code text outbox
    rw [sent_eq outbox, List.mem_singleton] at pushed
    cases congrArg (fun entry => entry.2.body) pushed
  rcases onSendRequestResponse_cases (w := (w.withEnv label.env).setSession ask.session) signedIn
    parsed with ⟨code, text, refused⟩ | ⟨type, sent, failed, accepted⟩
  · refine absurd ?_ (refuted code text)
    rw [handled, refused]
    rfl
  · have stored := accepted.symm.trans handled.symm
    rcases storeRequest_filed label.env rfl rfl rfl rfl stored with
      ⟨code, text, outbox⟩ | ⟨reqid, code, text, filed, cached, outbox⟩
    · exact absurd outbox (refuted code text)
    · refine ⟨isId, type, cached, reqid, ?_, filed⟩
      obtain ⟨other, isFound, sameConn, sameUser⟩ :=
        found_of_faces (faces_of_dispatched keyed reached) found
      have frames : ((w.withEnv label.env).setSession ask.session).newRequestFrames
          (w.store.approverId ask.req) ⟨reqid, user.userid, user.nickname, user.customface, 0,
            ask.req.reqtype, (w.store.requestCall user ask.req).groupId,
              w.store.pushedGroupname ask.req, label.env.now, ask.req.message⟩ =
          [(other.conn, ⟨cmdNewRequestPush, 0, 0,
            .newRequest (w.store.pushedRequest user ask.req reqid label.env.now)⟩)] := by
        rw [newRequestFrames, isFound]
        simp only [sameUser, isApprover, isId]
        rfl
      have sent : w.sent pb label = [(other.conn, ⟨cmdNewRequestPush, 0, 0,
          .newRequest (w.store.pushedRequest user ask.req reqid label.env.now)⟩),
            replyFrame ask.session .sendRequest (.sendRequest code text)] := by
        apply sent_eq
        rw [outbox, List.append_assoc]
        exact congrArg (fun pushes => w.outbox ++ (pushes ++ _)) frames
      rw [sent, List.mem_cons, List.mem_singleton] at pushed
      rcases pushed with isPush | isReply
      · have sameBody := congrArg (fun entry => entry.2.body) isPush
        exact Body.newRequest.inj sameBody
      · cases congrArg (fun entry => entry.2.body) isReply

end Send

section List

variable {pb : ImProto} {w : World} {label : Step} {approver : User} {entries : List FriendRequest}

theorem pendingEntry_of_cachedUsers {s store : Store} (same : store.cachedUsers = s.cachedUsers)
    (entry : Int × FriendRequestRow) : pendingEntry store entry = pendingEntry s entry := by
  have records : ∀ id, store.getUserByID id = s.getUserByID id := by
    intro id
    rw [Store.getUserByID, Store.getUserByID, same]
  simp only [pendingEntry, records]

/-- The list has an entry for each pending row of the approver with a positive
sender, when it was read. -/
theorem Lists.mem_iff (lists : Lists pb w label approver entries) {listed : FriendRequest} :
    listed ∈ entries ↔ label.env.sql 0 = true ∧ ∃ id row,
      w.request id = some row ∧ (row.toId = approver.userid ∧ row.status = 0 ∧ 0 < row.fromId) ∧
        listed = pendingEntry w.store (id, row) := by
  obtain ⟨session, msg, viewer, reached, signedIn, isApprover, seq, code, text, sent⟩ := lists
  have handled : w.step pb label =
      ((w.withEnv label.env).setSession session).onPendingRequestsResponse session :=
    step_of_dispatched pb reached
  have outbox : ∃ (rows : Option (List (Int × FriendRequestRow))) (store : Store),
      ((w.withEnv label.env).setSession session).store.getPendingRequests viewer.userid =
        (rows, store) ∧
      (w.step pb label).outbox = w.outbox ++ [replyFrame session .pendingRequests
        (.pendingRequests 0 "ok" ((rows.getD []).map (pendingEntry store)))] := by
    rw [handled, onPendingRequestsResponse, signedIn]
    exact ⟨_, _, rfl, rfl⟩
  obtain ⟨rows, store, queried, outbox⟩ := outbox
  rw [sent_eq outbox, List.mem_singleton] at sent
  obtain ⟨-, -, rfl⟩ := Body.pendingRequests.inj (congrArg (fun entry => entry.2.body) sent)
  have sameRecords : store.cachedUsers = w.store.cachedUsers := by
    have advanced := congrArg Prod.snd queried
    rw [Store.getPendingRequests, Store.query_store] at advanced
    change _ = store at advanced
    rw [← advanced]
    rfl
  have answer : rows = if label.env.sql 0 then
      some (w.store.db.tables.friendRequests.rows.filter fun entry =>
        entry.2.toId = viewer.userid ∧ entry.2.status = 0 ∧ entry.2.fromId > 0).reverse
      else none := by
    have read := congrArg Prod.fst queried
    simp only [Store.getPendingRequests, Store.query, MySql.query_fst] at read
    exact read.symm
  rw [List.mem_map]
  by_cases granted : label.env.sql 0 = true
  · rw [if_pos granted] at answer
    rw [answer]
    constructor
    · rintro ⟨⟨id, row⟩, member, rfl⟩
      rw [Option.getD_some, List.mem_reverse, List.mem_filter, decide_eq_true_eq] at member
      refine ⟨granted, id, row, AutoTable.find_eq_some_iff.mpr member.1, ?_,
        pendingEntry_of_cachedUsers sameRecords _⟩
      rw [← isApprover]
      exact member.2
    · rintro ⟨-, id, row, stored, shown, rfl⟩
      refine ⟨(id, row), ?_, pendingEntry_of_cachedUsers sameRecords _⟩
      rw [Option.getD_some, List.mem_reverse, List.mem_filter, decide_eq_true_eq]
      rw [← isApprover] at shown
      exact ⟨AutoTable.find_eq_some_iff.mp stored, shown⟩
  · rw [if_neg granted] at answer
    rw [answer]
    simp [granted]

/-- The entry of a request is the one of the row under its id. -/
theorem Lists.listedIn_iff (lists : Lists pb w label approver entries) {pushed : FriendRequest} :
    pushed.ListedIn entries ↔ label.env.sql 0 = true ∧ ∃ row, w.request pushed.reqid = some row ∧
      (row.toId = approver.userid ∧ row.status = 0 ∧ 0 < row.fromId) ∧
        pushed.Agrees (pendingEntry w.store (pushed.reqid, row)) := by
  constructor
  · rintro ⟨⟨entry, member, sameId⟩, all⟩
    have agrees := all entry member sameId
    obtain ⟨granted, id, row, stored, shown, rfl⟩ := lists.mem_iff.mp member
    obtain rfl : id = pushed.reqid := sameId
    exact ⟨granted, row, stored, shown, agrees⟩
  · rintro ⟨granted, row, stored, shown, agrees⟩
    refine ⟨⟨_, lists.mem_iff.mpr ⟨granted, _, row, stored, shown, rfl⟩, rfl⟩, ?_⟩
    intro entry member sameId
    obtain ⟨-, id, other, isOther, -, rfl⟩ := lists.mem_iff.mp member
    obtain rfl : id = pushed.reqid := sameId
    obtain rfl : row = other := Option.some.inj (stored.symm.trans isOther)
    exact agrees

end List

section Agreement

variable {pb : ImProto} {w : World} {label later : Step} {user approver : User}
  {req : SendRequestReq} {request : FriendRequest} {entries : List FriendRequest}

/-- What is made of a row with the fields of the request. -/
theorem pushedRequest_agrees_iff {s : Store} {row : FriendRequestRow} (reqid now : Int)
    (type : req.reqtype = 1 ∨ req.reqtype = 2 ∨ req.reqtype = 3) (current : s.CopyCurrent user)
    (fits : (s.requestCall user req).matchesRow row = true) :
    (s.pushedRequest user req reqid now).Agrees (pendingEntry s (reqid, row)) ↔
      row.message = req.message ∧ (req.reqtype = 3 → s.pushedGroupname req = []) := by
  obtain ⟨record, isRecord, sameName, sameFace⟩ := current
  simp only [RequestCall.matchesRow, Store.pendingMatch, decide_eq_true_eq] at fits
  obtain ⟨isFrom, isTo, isType, isGroup, -⟩ := fits
  change row.fromId = user.userid at isFrom
  change row.reqtype = req.reqtype at isType
  change row.toId = s.approverId req at isTo
  have listedGroupname : (s.pushedGroupname req = if req.reqtype = 2 then
      ((s.getUserByID row.groupId).map User.nickname).getD [] else []) ↔
        (req.reqtype = 3 → s.pushedGroupname req = []) := by
    rw [isGroup]
    unfold Store.requestCall Store.pushedGroupname
    rcases type with isType | isType | isType <;> simp [isType]
  simp only [FriendRequest.Agrees, Store.pushedRequest, pendingEntry, FriendRequest.mk.injEq,
    isFrom, isTo, isType, isGroup.symm, isRecord, Option.map_some, Option.getD_some, sameName,
    sameFace, true_and, listedGroupname]
  constructor
  · rintro ⟨unnamed, sameMessage⟩
    exact ⟨sameMessage.symm, unnamed⟩
  · rintro ⟨sameMessage, unnamed⟩
    exact ⟨unnamed, sameMessage.symm⟩

/-- What is made of the row under the id of the request, when it has its fields. -/
theorem pushedRequest_listedIn_iff {next : World} {reqid : Int} {row : FriendRequestRow}
    (now : Int) (type : req.reqtype = 1 ∨ req.reqtype = 2 ∨ req.reqtype = 3)
    (current : w.store.CopyCurrent user) (isApprover : approver.userid = w.store.approverId req)
    (cached : next.store.cachedUsers = w.store.cachedUsers)
    (lists : Lists pb next later approver entries) (isRow : next.request reqid = some row)
    (fits : (w.store.requestCall user req).matchesRow row = true) :
    (w.store.pushedRequest user req reqid now).ListedIn entries ↔
      later.env.sql 0 = true ∧ 0 < user.userid ∧ row.message = req.message ∧
        (req.reqtype = 3 → w.store.pushedGroupname req = []) := by
  have isRequest : next.request (w.store.pushedRequest user req reqid now).reqid = some row := isRow
  have agrees := pushedRequest_agrees_iff reqid now type current fits
  rw [← pendingEntry_of_cachedUsers cached] at agrees
  rw [lists.listedIn_iff, isRequest]
  simp only [RequestCall.matchesRow, Store.pendingMatch, decide_eq_true_eq] at fits
  have isFrom : row.fromId = user.userid := fits.1
  have isTo : row.toId = approver.userid := fits.2.1.trans isApprover.symm
  constructor
  · rintro ⟨read, other, isOther, ⟨-, -, shown⟩, agree⟩
    cases isOther
    rw [isFrom] at shown
    exact ⟨read, shown, agrees.mp agree⟩
  · rintro ⟨read, shown, same⟩
    rw [← isFrom] at shown
    exact ⟨read, row, rfl, ⟨isTo, fits.2.2.2.2, shown⟩, agrees.mpr same⟩

/-- The condition when a pending duplicate is found. -/
theorem listsAsPushed_reused_iff {entry : Int × FriendRequestRow}
    (granted : label.env.sql 0 = true)
    (found : w.store.db.tables.friendRequests.rows.find?
      (fun entry => (w.store.requestCall user req).matchesRow entry.2) = some entry) :
    ListsAsPushed w label later user req ↔
      later.env.sql 0 = true ∧ 0 < user.userid ∧ entry.2.message = req.message ∧
        (req.reqtype = 3 → w.store.pushedGroupname req = []) := by
  constructor
  · intro holds
    exact ⟨holds.read, holds.shown, holds.reused granted entry found, holds.unnamed⟩
  · rintro ⟨read, shown, same, unnamed⟩
    refine ⟨shown, unnamed, ?_, ?_, read⟩
    · intro _ other isOther
      cases found.symm.trans isOther
      exact same
    · intro fresh
      have missing := fresh granted
      rw [RequestCall.pendingId, found] at missing
      cases missing

/-- The condition when none is. -/
theorem listsAsPushed_stored_iff (fresh : label.env.sql 0 = true →
    (w.store.requestCall user req).pendingId w.store.db.tables = none) :
    ListsAsPushed w label later user req ↔ label.env.sql 2 = true ∧
      later.env.sql 0 = true ∧ 0 < user.userid ∧
        (req.reqtype = 3 → w.store.pushedGroupname req = []) := by
  constructor
  · intro holds
    exact ⟨holds.numbered fresh, holds.read, holds.shown, holds.unnamed⟩
  · rintro ⟨numbered, read, shown, unnamed⟩
    refine ⟨shown, unnamed, ?_, fun _ => numbered, read⟩
    intro granted entry found
    have missing := fresh granted
    rw [RequestCall.pendingId, found] at missing
    cases missing

/-- The pushed request and its entry in a list that is sent right after differ in
nothing but the time exactly when the request is listed as it was pushed. -/
theorem pushed_request_listed_iff (keyed : w.Keyed) (current : w.store.CopyCurrent user)
    (pushes : Pushes pb w label user req approver request)
    (lists : Lists pb (w.step pb label) later approver entries) :
    (ListsAsPushed w label later user req → request.ListedIn entries) ∧
      (KeysFromOne w.store.db.tables →
        (request.ListedIn entries ↔ ListsAsPushed w label later user req)) := by
  obtain ⟨isApprover, type, cached, reqid, rfl, filed⟩ := pushes.filed keyed
  have listed_iff : ∀ row, (w.step pb label).request reqid = some row →
      (w.store.requestCall user req).matchesRow row = true → _ :=
    fun row isRow fits => pushedRequest_listedIn_iff label.env.now type current isApprover cached
      lists isRow fits
  have hasRow : (w.store.pushedRequest user req reqid label.env.now).ListedIn entries →
      ∃ row, (w.step pb label).request reqid = some row := by
    intro listed
    obtain ⟨-, row, isRow, -⟩ := lists.listedIn_iff.mp listed
    exact ⟨row, isRow⟩
  unfold request at listed_iff hasRow
  generalize (w.step pb label).store.db.tables = next at filed listed_iff hasRow
  cases filed with
  | @reused entry granted found isId =>
      have isRow : w.store.db.tables.friendRequests.find reqid = some entry.2 := by
        rw [isId]
        exact AutoTable.find_eq_some_iff.mpr (List.mem_of_find?_eq_some found)
      have fits : (w.store.requestCall user req).matchesRow entry.2 = true := by
        simpa using List.find?_some found
      have asPushed := (listed_iff entry.2 isRow fits).trans
        (listsAsPushed_reused_iff granted found).symm
      exact ⟨asPushed.mpr, fun _ => asPushed⟩
  | stored fresh isId =>
      rw [listsAsPushed_stored_iff fresh]
      by_cases numbered : label.env.sql 2 = true
      · rw [if_pos numbered] at isId
        have isRow : (w.store.db.tables.friendRequests.insert
            ((w.store.requestCall user req).row label.env.now)).find reqid =
              some ((w.store.requestCall user req).row label.env.now) := by
          rw [AutoTable.find_insert, if_pos isId]
        have same : ((w.store.requestCall user req).row label.env.now).message = req.message := rfl
        have listed := listed_iff _ isRow (RequestCall.matchesRow_own _ _)
        have asPushed : (w.store.pushedRequest user req reqid label.env.now).ListedIn entries ↔
            label.env.sql 2 = true ∧ later.env.sql 0 = true ∧ 0 < user.userid ∧
              (req.reqtype = 3 → w.store.pushedGroupname req = []) := by
          rw [listed]
          simp only [numbered, same, true_and]
        exact ⟨asPushed.mpr, fun _ => asPushed⟩
      · rw [if_neg numbered] at isId
        refine ⟨fun holds => absurd holds.1 numbered, ?_⟩
        rintro ⟨nextPositive, positive⟩
        refine iff_of_false ?_ (fun holds => numbered holds.1)
        intro listed
        obtain ⟨row, isRow⟩ := hasRow listed
        rw [isId, AutoTable.find_insert, if_neg (ne_of_lt nextPositive)] at isRow
        exact absurd (positive _ (AutoTable.find_eq_some_iff.mp isRow)) (lt_irrefl 0)

end Agreement

end World

/-! ### Sample requests -/

namespace PushRuns

/-- Alice owns the group, and nobody is a member. -/
def tables : Tables := Sample.clubOf []

def alice : User := { Store.initUser .allOk tables Sample.alice with status := 1 }

def bob : User := { Store.initUser .allOk tables Sample.bob with status := 1 }

def online : World := World.runFrom wireProto (.boot tables) Sample.bothLogIn

/-- Alice asks Bob to be her friend. -/
def asksBob : Step := Client.send 0 .sendRequest (Client.sendRequest 1 2 0)

def shownToBob : FriendRequest := ⟨1, 1, str "Alice", [], 2, 1, 0, [], 0, []⟩

/-- Bob applies to the group of Alice. -/
def applies : Step := Client.send 1 .sendRequest (Client.sendRequest 3 0 268435456)

def shownToAlice : FriendRequest :=
  ⟨1, 2, str "Bob", [], 1, 3, 268435456, str "club", 0, []⟩

end PushRuns

open PushRuns in
/-- Bob's list shows what was pushed to him. -/
theorem pushed_request_listed_friend : shownToBob.ListedIn [shownToBob] := by
  have keyed : online.Keyed := World.keyed_run wireProto tables Sample.bothLogIn
  have pushes : online.Pushes wireProto asksBob alice ⟨1, 2, 0, []⟩ bob shownToBob := by
    have reached : online.dispatched asksBob = some (.sendRequest, ⟨0, 1, some alice, 0, []⟩,
      MsgType.sendRequest.container (Client.sendRequest 1 2 0)) := by decide +kernel
    exact ⟨⟨_, World.asks_of_dispatched reached rfl, rfl, rfl⟩,
      ⟨⟨1, 1, some bob, 0, []⟩, by decide +kernel, rfl, by decide +kernel⟩⟩
  have lists : (online.step wireProto asksBob).Lists wireProto
      (Client.send 1 .pendingRequests []) bob [shownToBob] :=
    ⟨⟨1, 1, some bob, 0, []⟩, MsgType.pendingRequests.container [], bob, by decide +kernel,
      rfl, rfl, 1, 0, "ok", by decide +kernel⟩
  refine (World.pushed_request_listed_iff keyed ?_ pushes lists).1 ?_
  · exact ⟨alice, by decide +kernel, rfl, rfl⟩
  · refine ⟨by decide, ?_, ?_, fun _ => rfl, rfl⟩
    · intro isApplication
      cases isApplication
    · intro _ entry found
      cases found

open PushRuns in
/-- The name of the group is pushed to its owner and missing in his list. -/
theorem application_listed_without_name :
    ¬ ∀ (pb : ImProto) (w : World) (label later : Step) (user approver : User)
      (req : SendRequestReq) (request : FriendRequest) (entries : List FriendRequest), w.Keyed →
      w.store.CopyCurrent user → w.Pushes pb label user req approver request →
      (w.step pb label).Lists pb later approver entries → later.env.sql 0 = true →
        request.ListedIn entries := by
  intro always
  have pushes : online.Pushes wireProto applies bob ⟨3, 0, 268435456, []⟩ alice shownToAlice := by
    have reached : online.dispatched applies = some (.sendRequest, ⟨1, 1, some bob, 0, []⟩,
      MsgType.sendRequest.container (Client.sendRequest 3 0 268435456)) := by decide +kernel
    have fields : (wireProto.sendRequestReq (Client.sendRequest 3 0 268435456)).map
        (fun req => (req.reqtype, req.targetid, req.groupid, req.message)) =
          some (3, 0, 268435456, []) := by decide +kernel
    obtain ⟨⟨reqtype, targetid, groupid, message⟩, parsed, same⟩ := Option.map_eq_some_iff.mp fields
    cases same
    exact ⟨⟨_, World.asks_of_dispatched reached parsed, rfl, rfl⟩,
      ⟨⟨0, 1, some alice, 0, []⟩, by decide +kernel, rfl, by decide +kernel⟩⟩
  have lists : (online.step wireProto applies).Lists wireProto
      (Client.send 0 .pendingRequests []) alice [{ shownToAlice with groupname := [] }] :=
    ⟨⟨0, 1, some alice, 0, []⟩, MsgType.pendingRequests.container [], alice, by decide +kernel,
      rfl, rfl, 1, 0, "ok", by decide +kernel⟩
  have listed := always wireProto online applies (Client.send 0 .pendingRequests []) bob alice _
    shownToAlice _ (World.keyed_run wireProto tables Sample.bothLogIn)
    ⟨bob, by decide +kernel, rfl, rfl⟩ pushes lists rfl
  have agrees := listed.2 _ (List.mem_singleton_self _) rfl
  cases congrArg FriendRequest.groupname agrees

end AimServer
