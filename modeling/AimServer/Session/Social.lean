import AimServer.Session.Account

/-!
Contract: the friend and request handlers of `ClientSession`.

Owns: friend list, user search, `OperateFriend` with its three types, sending,
listing and deciding friend and group requests.
-/

namespace AimServer

open AimServer.Lib

/-- The smaller id first, as every caller of `MakeFriendRelationship` computes
its arguments. -/
def smallId (a b : Int) : Int := if a < b then a else b

def greatId (a b : Int) : Int := if a < b then b else a

/-- Two ids are ordered unless they are the same. -/
theorem smallId_lt_greatId_iff {a b : Int} : smallId a b < greatId a b ↔ a ≠ b := by
  unfold smallId greatId
  split <;> omega

namespace World

/-! ### Lists and search -/

def onGetFriendListResponse (s : ClientSession) (w : World) : World :=
  match s.user with
  | none => w.raise .nullUser
  | some user =>
      let friends := (w.store.getFriendInfoByUserID user.userid).getD []
      w.reply s .getFriendList (.friendList 0 "ok" (friends.map fun friend =>
        { infoOf friend with
          clienttype := 1
          status := if friend.status ≠ 0 then 1 else 0
          ownerid := friend.ownerid }))

/-- The response of `OnFindUserResponse` for the record it found. -/
def findUserRsp : Option User → Body
  | none => .findUser 103 "user not found!" none
  | some user =>
      if user.userid ≥ groupIdBoundary then .findUser 105 "cannot search for group!" none
      else .findUser 0 "ok" (some { infoOf user with status := user.status })

def onFindUserResponse (pb : ImProto) (s : ClientSession) (msg : MessageContainer) (w : World) :
    World :=
  match pb.findUserReq msg.payload with
  | none => w.reply s .findUser (.findUser 101 "protobuf parse failed!" none)
  | some req =>
      if req.type = str "username" then
        w.reply s .findUser (findUserRsp (w.store.getUserInfoUsername req.keyword))
      else if req.type = str "userid" then
        match stoi req.keyword with
        | none => w.raise .badNumber
        | some userid => w.reply s .findUser (findUserRsp (w.store.getUserByID userid))
      else w.reply s .findUser (findUserRsp none)

/-! ### OperateFriend -/

/-- Type 1: the friendship is made at once. -/
def operateAdd (s : ClientSession) (req : OperateFriendReq) (w : World) : World :=
  if req.friendid ≥ groupIdBoundary then
    w.reply s .operateFriend (.common 106 "cannot add group as friend!")
  else
    match s.user with
    | none => w.raise .nullUser
    | some user =>
        match w.store.makeFriendRelationship (smallId user.userid req.friendid)
            (greatId user.userid req.friendid) with
        | (true, store) =>
            let w := (w.withStore store).notifyStatus req.friendid user.userid 4 []
            w.reply s .operateFriend (.common 0 "ok")
        | (false, store) =>
            (w.withStore store).reply s .operateFriend (.common 100 "add friend failed!")

/-- Type 2: `DeleteFriendToUser` and the notice of `DeleteFriend`. -/
def operateDelete (s : ClientSession) (req : OperateFriendReq) (w : World) : World :=
  match s.user with
  | none => w.raise .nullUser
  | some user =>
      match w.store.deleteFriendToUser user.userid req.friendid with
      | (true, store) =>
          let w := (w.withStore store).notifyStatus req.friendid user.userid 3 []
          w.reply s .operateFriend (.common 0 "ok")
      | (false, store) =>
          (w.withStore store).reply s .operateFriend (.common 100 "delete friend failed!")

/-- Type 3: `friendid` joins the group `target_id` of the container; `m_user`
is not looked at. -/
def operateInvite (s : ClientSession) (req : OperateFriendReq) (groupid : Int) (w : World) :
    World :=
  if groupid ≥ groupIdBoundary then
    match w.store.makeFriendRelationship (smallId req.friendid groupid)
        (greatId req.friendid groupid) with
    | (true, store) => (w.withStore store).reply s .operateFriend (.common 0 "ok")
    | (false, store) =>
        (w.withStore store).reply s .operateFriend (.common 100 "invite to group failed!")
  else w.reply s .operateFriend (.common 104 "invalid group id!")

def onOperateFriendResponse (pb : ImProto) (s : ClientSession) (msg : MessageContainer)
    (w : World) : World :=
  match pb.operateFriendReq msg.payload with
  | none => w.reply s .operateFriend (.common 101 "protobuf parse failed!")
  | some req =>
      if req.type = 1 then w.operateAdd s req
      else if req.type = 2 then w.operateDelete s req
      else if req.type = 3 then w.operateInvite s req msg.targetId
      else w.reply s .operateFriend (.common 103 "unknown operation type!")

/-! ### Sending requests -/

/-- Store the request and push it to the approver. The three request types
differ in their parties and texts. -/
def storeRequest (s : ClientSession) (user : User) (toId reqType groupId : Int)
    (groupname message : Bytes) (sent failed : String) (w : World) : World :=
  match w.store.addFriendRequest user.userid toId reqType groupId message with
  | (some reqId, store) =>
      let w := (w.withStore store).pushNewRequest toId
        { reqid := reqId, fromid := user.userid, fromname := user.nickname,
          fromface := user.customface, toid := 0, reqtype := reqType, groupid := groupId,
          groupname := groupname, timestamp := w.env.now, message := message }
      w.reply s .sendRequest (.sendRequest 0 sent)
  | (none, store) => (w.withStore store).reply s .sendRequest (.sendRequest 100 failed)

/-- `reqtype = 1`: a friend request. -/
def sendFriendRequest (s : ClientSession) (user : User) (req : SendRequestReq) (w : World) :
    World :=
  let target := req.targetid
  if target = user.userid then w.reply s .sendRequest (.sendRequest 102 "不能添加自己")
  else if target ≥ groupIdBoundary then
    w.reply s .sendRequest (.sendRequest 103 "不能把群加为好友")
  else
    match w.store.getUserByID target with
    | none => w.reply s .sendRequest (.sendRequest 104 "用户不存在")
    | some _ =>
        if w.store.isFriend user.userid target then
          w.reply s .sendRequest (.sendRequest 105 "对方已是你的好友")
        else
          w.storeRequest s user target 1 0 [] req.message "好友请求已发送，等待对方同意"
            "发送请求失败"

/-- `reqtype = 2`: an invitation of `targetid` into `groupid`. The sender's own
relation to the group is not looked at. -/
def sendInvitation (s : ClientSession) (user : User) (req : SendRequestReq) (w : World) : World :=
  let target := req.targetid
  let groupId := req.groupid
  match w.store.getUserByID groupId with
  | none => w.reply s .sendRequest (.sendRequest 104 "群不存在")
  | some group =>
      if groupId < groupIdBoundary then w.reply s .sendRequest (.sendRequest 104 "群不存在")
      else
        match w.store.getUserByID target with
        | none => w.reply s .sendRequest (.sendRequest 104 "用户不存在")
        | some _ =>
            if target ≥ groupIdBoundary then
              w.reply s .sendRequest (.sendRequest 104 "用户不存在")
            else if w.store.isFriend target groupId then
              w.reply s .sendRequest (.sendRequest 105 "对方已在群中")
            else
              w.storeRequest s user target 2 groupId group.nickname req.message
                "入群邀请已发送，等待对方同意" "发送邀请失败"

/-- `reqtype = 3`: an application, addressed to the group's owner. -/
def sendApplication (s : ClientSession) (user : User) (req : SendRequestReq) (w : World) : World :=
  let groupId := req.groupid
  match w.store.getUserByID groupId with
  | none => w.reply s .sendRequest (.sendRequest 104 "群不存在")
  | some group =>
      if groupId < groupIdBoundary then w.reply s .sendRequest (.sendRequest 104 "群不存在")
      else if w.store.isFriend user.userid groupId then
        w.reply s .sendRequest (.sendRequest 105 "你已在群中")
      else if group.ownerid = user.userid then
        w.reply s .sendRequest (.sendRequest 106 "你是群主，无需申请")
      else
        w.storeRequest s user group.ownerid 3 groupId group.nickname req.message
          "入群申请已发送，等待群主同意" "发送申请失败"

def onSendRequestResponse (pb : ImProto) (s : ClientSession) (msg : MessageContainer)
    (w : World) : World :=
  match s.user with
  | none => w.reply s .sendRequest (.sendRequest 1 "未登录")
  | some user =>
      match pb.sendRequestReq msg.payload with
      | none => w.reply s .sendRequest (.sendRequest 101 "解析请求失败")
      | some req =>
          if req.reqtype = 1 then w.sendFriendRequest s user req
          else if req.reqtype = 2 then w.sendInvitation s user req
          else if req.reqtype = 3 then w.sendApplication s user req
          else w.reply s .sendRequest (.sendRequest 103 "未知请求类型")

/-! ### Listing and deciding requests -/

/-- One entry of `PendingRequestsRsp`; only invitations get a group name. -/
def pendingEntry (store : Store) (entry : Int × FriendRequestRow) : FriendRequest :=
  let sender := store.getUserByID entry.2.fromId
  { reqid := entry.1
    fromid := entry.2.fromId
    fromname := (sender.map User.nickname).getD []
    fromface := (sender.map User.customface).getD []
    toid := entry.2.toId
    reqtype := entry.2.reqtype
    groupid := entry.2.groupId
    groupname :=
      if entry.2.reqtype = 2 then
        ((store.getUserByID entry.2.groupId).map User.nickname).getD []
      else []
    timestamp := entry.2.createTime
    message := entry.2.message }

def onPendingRequestsResponse (s : ClientSession) (w : World) : World :=
  match s.user with
  | none => w.reply s .pendingRequests (.pendingRequests 1 "未登录" [])
  | some user =>
      let (rows, store) := w.store.getPendingRequests user.userid
      (w.withStore store).reply s .pendingRequests
        (.pendingRequests 0 "ok" ((rows.getD []).map (pendingEntry store)))

/-- The two accounts an accepted request joins: sender and addressee of a
friend request, addressee and group of an invitation, sender and group of an
application; no other type joins anyone. -/
def requestParties (row : FriendRequestRow) : Option (Int × Int) :=
  if row.reqtype = 1 then some (row.fromId, row.toId)
  else if row.reqtype = 2 then some (row.toId, row.groupId)
  else if row.reqtype = 3 then some (row.fromId, row.groupId)
  else none

/-- Whom a request joins says of which type it is. -/
theorem requestParties_cases {row : FriendRequestRow} {first second : Int}
    (parties : requestParties row = some (first, second)) :
    (row.reqtype = 1 ∧ first = row.fromId ∧ second = row.toId) ∨
      (row.reqtype = 2 ∧ first = row.toId ∧ second = row.groupId) ∨
      (row.reqtype = 3 ∧ first = row.fromId ∧ second = row.groupId) := by
  unfold requestParties at parties
  split at parties
  · rename_i isFriend
    cases parties
    exact Or.inl ⟨isFriend, rfl, rfl⟩
  split at parties
  · rename_i isInvitation
    cases parties
    exact Or.inr (Or.inl ⟨isInvitation, rfl, rfl⟩)
  split at parties
  · rename_i isApplication
    cases parties
    exact Or.inr (Or.inr ⟨isApplication, rfl, rfl⟩)
  · cases parties

/-- The notice to the sender after an acceptance. -/
def notifyAccepted (row : FriendRequestRow) (w : World) : World :=
  if row.reqtype = 1 then w.notifyStatus row.fromId row.toId 4 []
  else if row.reqtype = 3 then w.notifyStatus row.fromId row.groupId 6 []
  else w

/-- The accept branch of `OnHandleRequestResponse`. -/
def acceptRequest (s : ClientSession) (reqid : Int) (row : FriendRequestRow) (w : World) :
    World :=
  match requestParties row with
  | none => w.reply s .handleRequest (.handleRequest 100 "处理失败")
  | some (first, second) =>
      match w.store.makeFriendRelationship (smallId first second) (greatId first second) with
      | (false, store) =>
          (w.withStore store).reply s .handleRequest (.handleRequest 100 "处理失败")
      | (true, store) =>
          let w := (w.withStore store).notifyAccepted row
          let w := w.withStore (w.store.updateRequestStatus reqid 1).2
          w.reply s .handleRequest (.handleRequest 0 "已接受")

/-- `OnHandleRequestResponse`: every action but 2 accepts. -/
def onHandleRequestResponse (pb : ImProto) (s : ClientSession) (msg : MessageContainer)
    (w : World) : World :=
  match s.user with
  | none => w.reply s .handleRequest (.handleRequest 1 "未登录")
  | some user =>
      match pb.handleRequestReq msg.payload with
      | none => w.reply s .handleRequest (.handleRequest 101 "解析请求失败")
      | some req =>
          match w.store.getFriendRequestById req.reqid with
          | (none, store) =>
              (w.withStore store).reply s .handleRequest (.handleRequest 102 "请求不存在")
          | (some row, store) =>
              let w := w.withStore store
              if row.toId ≠ user.userid then
                w.reply s .handleRequest (.handleRequest 103 "无权处理该请求")
              else if req.action = 2 then
                (w.withStore (w.store.updateRequestStatus req.reqid 2).2).reply s
                  .handleRequest (.handleRequest 0 "已拒绝")
              else w.acceptRequest s req.reqid row

end World

end AimServer
