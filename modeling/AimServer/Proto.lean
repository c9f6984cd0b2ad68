import AimServer.Bytes

/-!
Contract: the messages of `im.proto` and the command numbers of
`ClientSession.h`.

Owns: one structure per request and per response, the dispatch table, and the
parser interface `ImProto`.

Does not own: the protobuf wire format. The generated classes are not part of
the repository, so parsing and serialisation are a parameter; what a proof
needs of them is a hypothesis of that proof.
-/

namespace AimServer

/-- `GROUPID_BOUNDARY`: ids from here on are group ids. -/
def groupIdBoundary : Int := 0xFFFFFFF

/-- The commands `OnMessageReceived` dispatches on. -/
inductive MsgType where
  | heartbeat
  | register
  | login
  | getFriendList
  | findUser
  | operateFriend
  | updateUserInfo
  | modifyPassword
  | createGroup
  | getGroupMembers
  | getChatHistory
  | avatarUpload
  | sendEmailCode
  | upgradeVip
  | sendRequest
  | pendingRequests
  | handleRequest
  | kickGroupMember
  | renameGroup
  | setGroupAdmin
  | chat
  | multiChat
deriving DecidableEq, Repr

/-- Wire number of a command. -/
def MsgType.cmd : MsgType → Int
  | .heartbeat => 1000
  | .register => 1001
  | .login => 1002
  | .getFriendList => 1003
  | .findUser => 1004
  | .operateFriend => 1005
  | .updateUserInfo => 1007
  | .modifyPassword => 1008
  | .createGroup => 1009
  | .getGroupMembers => 1010
  | .getChatHistory => 1011
  | .avatarUpload => 1012
  | .sendEmailCode => 1013
  | .upgradeVip => 1014
  | .sendRequest => 1015
  | .pendingRequests => 1016
  | .handleRequest => 1017
  | .kickGroupMember => 1019
  | .renameGroup => 1020
  | .setGroupAdmin => 1021
  | .chat => 1100
  | .multiChat => 1101

def MsgType.all : List MsgType :=
  [.heartbeat, .register, .login, .getFriendList, .findUser, .operateFriend, .updateUserInfo,
   .modifyPassword, .createGroup, .getGroupMembers, .getChatHistory, .avatarUpload,
   .sendEmailCode, .upgradeVip, .sendRequest, .pendingRequests, .handleRequest,
   .kickGroupMember, .renameGroup, .setGroupAdmin, .chat, .multiChat]

/-- The `switch (msg.cmd())` of the dispatcher; `none` is its default branch. -/
def MsgType.ofCmd (cmd : Int) : Option MsgType :=
  MsgType.all.find? fun type => type.cmd = cmd

/-- Commands the server pushes without a request. -/
def cmdUserStatusChange : Int := 1006
def cmdNewRequestPush : Int := 1018

structure MessageContainer where
  cmd : Int
  seq : Int
  targetId : Int
  targets : Bytes
  payload : Bytes
deriving DecidableEq, Repr

/-! ### Requests -/

structure RegisterReq where
  username : Bytes
  nickname : Bytes
  password : Bytes
  email : Bytes
  code : Bytes

structure LoginReq where
  username : Bytes
  password : Bytes
  clienttype : Int
  status : Int

structure FindUserReq where
  type : Bytes
  keyword : Bytes

structure OperateFriendReq where
  type : Int
  friendid : Int

structure UpdateUserInfoReq where
  nickname : Bytes
  facetype : Int
  customface : Bytes
  gender : Int
  birthday : Int
  signature : Bytes
  address : Bytes
  phonenumber : Bytes
  mail : Bytes

structure ModifyPasswordReq where
  oldpassword : Bytes
  newpassword : Bytes

structure CreateGroupReq where
  groupname : Bytes

structure GetGroupMembersReq where
  groupid : Int

structure ChatHistoryReq where
  targetid : Int

structure AvatarUploadReq where
  imageData : Bytes
  format : Bytes
  targetId : Int

structure SendEmailCodeReq where
  email : Bytes

structure UpgradeVipReq where
  userid : Int
  paymentToken : Bytes
  amountCents : Int

structure SendRequestReq where
  reqtype : Int
  targetid : Int
  groupid : Int
  message : Bytes

structure HandleRequestReq where
  reqid : Int
  action : Int

structure KickGroupMemberReq where
  groupid : Int
  memberid : Int

structure RenameGroupReq where
  groupid : Int
  newname : Bytes

structure SetGroupAdminReq where
  groupid : Int
  memberid : Int
  isAdmin : Bool

structure ChatMsg where
  senderid : Int
  targetid : Int
  content : Bytes
  timestamp : Int
  skill : Bytes
  context : List Bytes
  msgType : Int
  mediaUrl : Bytes
  duration : Int
  fileSize : Int
  thumbUrl : Bytes
  fileName : Bytes
deriving DecidableEq, Repr

/-- A default-constructed `ChatMsg`. -/
def ChatMsg.empty : ChatMsg :=
  ⟨0, 0, [], 0, [], [], 0, [], 0, 0, [], []⟩

structure MultiChatTargets where
  targets : List Int
  content : Bytes

/-! ### Responses and pushes -/

structure UserInfo where
  userid : Int
  username : Bytes
  nickname : Bytes
  facetype : Int
  customface : Bytes
  gender : Int
  birthday : Int
  signature : Bytes
  address : Bytes
  phonenumber : Bytes
  mail : Bytes
  status : Int := 0
  clienttype : Int := 0
  ownerid : Int := 0
  grouprole : Int := 0
deriving DecidableEq, Repr

structure FriendRequest where
  reqid : Int
  fromid : Int
  fromname : Bytes
  fromface : Bytes
  toid : Int
  reqtype : Int
  groupid : Int
  groupname : Bytes
  timestamp : Int
  message : Bytes
deriving DecidableEq, Repr

/-- The message a sent container carries. `raw` is a payload the server passes
on without looking at it. -/
inductive Body where
  | empty
  | common (code : Int) (msg : String)
  | login (code : Int) (msg : String) (user : Option UserInfo) (isVip : Bool)
  | friendList (code : Int) (msg : String) (friends : List UserInfo)
  | findUser (code : Int) (msg : String) (user : Option UserInfo)
  | createGroup (code : Int) (msg : String) (groupid : Int) (groupname : Bytes)
  | groupMembers (code : Int) (msg : String) (members : List UserInfo)
  | chatHistory (code : Int) (msg : String) (targetid : Int) (messages : List ChatMsg)
  | avatarUpload (code : Int) (msg : String) (url : Bytes)
  | sendEmailCode (code : Int) (msg : String) (cooldownSeconds : Int)
  | upgradeVip (code : Int) (msg : String) (isVip : Bool)
  | sendRequest (code : Int) (msg : String)
  | pendingRequests (code : Int) (msg : String) (requests : List FriendRequest)
  | handleRequest (code : Int) (msg : String)
  | kickGroupMember (code : Int) (msg : String) (groupid memberid : Int)
  | renameGroup (code : Int) (msg : String) (groupid : Int) (newname : Bytes)
  | setGroupAdmin (code : Int) (msg : String) (groupid memberid : Int) (isAdmin : Bool)
  | statusChange (type : Int) (userid : Int) (customface : Bytes)
  | newRequest (request : FriendRequest)
  | chatMsg (message : ChatMsg)
  | raw (payload : Bytes)
deriving DecidableEq, Repr

/-- A container on its way to a client. -/
structure Frame where
  cmd : Int
  seq : Int
  targetId : Int
  body : Body
deriving DecidableEq, Repr

/-- The container that is forwarded or replayed with its payload untouched. -/
def MessageContainer.frame (msg : MessageContainer) : Frame :=
  ⟨msg.cmd, msg.seq, msg.targetId, .raw msg.payload⟩

/-- `ParseFromString` of every payload the server reads, and the container
codec of the offline store. A failed parse is `none`; only `OnChatResponse`
goes on with what a failed parse left in its message, so that parser returns
the message next to the success flag. -/
structure ImProto where
  registerReq : Bytes → Option RegisterReq
  loginReq : Bytes → Option LoginReq
  findUserReq : Bytes → Option FindUserReq
  operateFriendReq : Bytes → Option OperateFriendReq
  updateUserInfoReq : Bytes → Option UpdateUserInfoReq
  modifyPasswordReq : Bytes → Option ModifyPasswordReq
  createGroupReq : Bytes → Option CreateGroupReq
  getGroupMembersReq : Bytes → Option GetGroupMembersReq
  chatHistoryReq : Bytes → Option ChatHistoryReq
  avatarUploadReq : Bytes → Option AvatarUploadReq
  sendEmailCodeReq : Bytes → Option SendEmailCodeReq
  upgradeVipReq : Bytes → Option UpgradeVipReq
  sendRequestReq : Bytes → Option SendRequestReq
  handleRequestReq : Bytes → Option HandleRequestReq
  kickGroupMemberReq : Bytes → Option KickGroupMemberReq
  renameGroupReq : Bytes → Option RenameGroupReq
  setGroupAdminReq : Bytes → Option SetGroupAdminReq
  multiChatTargets : Bytes → Option MultiChatTargets
  chatMsg : Bytes → Bool × ChatMsg
  serializeContainer : MessageContainer → Bytes
  parseContainer : Bytes → Option MessageContainer

end AimServer
