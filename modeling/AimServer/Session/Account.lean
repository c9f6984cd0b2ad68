import AimServer.Session.World

/-!
Contract: the account handlers of `ClientSession`.

Owns: heartbeat, registration, login, mail codes, VIP upgrade, profile,
password and avatar requests, with their response codes and texts.

`m_user` is an `Option`; every access through it is a match whose `none` case
raises `Fault.nullUser`.
-/

namespace AimServer

open AimServer.Lib
open AimServer.PasswordUtil

/-- The fields of a record that every response copies into `UserInfo`. -/
def infoOf (user : User) : UserInfo where
  userid := user.userid
  username := user.username
  nickname := user.nickname
  facetype := user.facetype
  customface := user.customface
  gender := user.gender
  birthday := user.birthday
  signature := user.signature
  address := user.address
  phonenumber := user.phonenumber
  mail := user.mail

/-- `IsValidUsername`: 3 to 20 letters, digits or underscores. -/
def isValidUsername (name : Bytes) : Bool :=
  3 ≤ name.length ∧ name.length ≤ 20 ∧
    name.all fun c => (65 ≤ c ∧ c ≤ 90) ∨ (97 ≤ c ∧ c ≤ 122) ∨ (48 ≤ c ∧ c ≤ 57) ∨ c = 95

namespace World

def onHeartbeatResponse (s : ClientSession) (w : World) : World :=
  w.reply s .heartbeat .empty

/-! ### Registration -/

/-- The record registration hands to `AddUser`. -/
def registeredUser (req : RegisterReq) : User :=
  { User.blank with
    username := req.username
    nickname := req.nickname
    password := req.password
    mail := req.email }

/-- The response to each result of `AddUser`. -/
def addUserRsp : Store.AddUserResult → Body
  | .ok => .common 0 "ok"
  | .usernameTaken => .common 105 "用户名已被占用"
  | .mailTaken => .common 107 "该邮箱已注册"
  | .databaseError => .common 100 "register failed!"

def onRegisterResponse (pb : ImProto) (s : ClientSession) (msg : MessageContainer) (w : World) :
    World :=
  match pb.registerReq msg.payload with
  | none => w.reply s .register (.common 101 "protobuf parse failed!")
  | some req =>
      if req.username = [] ∨ req.nickname = [] ∨ req.password = [] ∨ req.email = [] ∨
          req.code = [] then
        w.reply s .register (.common 102 "data field missing!")
      else if ¬ isValidUsername req.username then
        w.reply s .register (.common 106 "用户名为3-20位字母、数字或下划线")
      else if req.nickname.length > 60 then
        w.reply s .register (.common 106 "昵称过长")
      else
        match w.env.grpc with
        | .notBuilt => w.reply s .register (.common 104 "邮件服务未编译 (需gRPC)")
        | .notConfigured => w.reply s .register (.common 104 "邮件服务未配置")
        | .ready =>
            let w := w.call (.verifyCode req.email req.code)
            if w.env.verify.ok then
              let (result, store) := w.store.addUser w.env.salt (registeredUser req)
              (w.withStore store).reply s .register (addUserRsp result)
            else
              w.reply s .register (.common 104
                (if w.env.verify.msg = "" then "验证码错误或已过期" else w.env.verify.msg))

/-! ### Login -/

/-- The branch of `OnLoginResponse` after the password was accepted: VIP
status, online status, the response, the offline messages, and the online
notice to all friends. -/
def completeLogin (pb : ImProto) (s : ClientSession) (found : User) (w : World) : World :=
  let (isVip, w) :=
    match w.env.grpc with
    | .ready => (w.env.vipStatus.getD false, w.call (.queryVipStatus found.userid))
    | _ => (false, w)
  let s := { s with user := some { found with status := 1 } }
  let w := w.setSession s
  let w := w.withStore (w.store.setUserStatus found.userid 1).2
  let w := w.reply s .login (.login 0 "ok" (some (infoOf found)) isVip)
  let (notifies, store) := w.store.getNotifyMsgCache found.userid
  let w := (w.withStore store).emit (replayFrames pb s.conn notifies)
  let (chats, store) := w.store.getChatMsgCache found.userid
  let w := (w.withStore store).emit (replayFrames pb s.conn chats)
  let friends := (w.store.getFriendInfoByUserID found.userid).getD []
  w.notifyAll (friends.map User.userid) found.userid 1 []

/-- `OnLoginResponse`. `GetUserInfoUsername` writes the record it finds
straight into `m_user`, before the password is looked at. The last line of the
handler logs `m_user->userid` on every path. -/
def onLoginResponse (pb : ImProto) (s : ClientSession) (msg : MessageContainer) (w : World) :
    World :=
  match pb.loginReq msg.payload with
  | none => (w.reply s .login (.login 101 "protobuf parse failed!" none false)).derefUser s
  | some req =>
      if req.username = [] ∨ req.password = [] then
        (w.reply s .login (.login 102 "data field missing!" none false)).derefUser s
      else
        match w.store.getUserInfoUsername req.username with
        | none =>
            (w.reply s .login
              (.login 103 "user is not exist or password is incorrect!" none false)).derefUser s
        | some found =>
            let s := { s with user := some found }
            let w := w.setSession s
            if verifyPassword req.password found.password then w.completeLogin pb s found
            else
              w.reply s .login
                (.login 104 "user is not exist or password is incorrect!" none false)

/-! ### Mail codes and VIP -/

def onSendEmailCodeResponse (pb : ImProto) (s : ClientSession) (msg : MessageContainer)
    (w : World) : World :=
  match pb.sendEmailCodeReq msg.payload with
  | none => w.reply s .sendEmailCode (.sendEmailCode 3 "解析请求失败" 0)
  | some req =>
      if req.email = [] ∨ 64 ∉ req.email ∨ 46 ∉ req.email then
        w.reply s .sendEmailCode (.sendEmailCode 2 "邮箱格式错误" 0)
      else
        match w.env.grpc with
        | .notBuilt => w.reply s .sendEmailCode (.sendEmailCode 3 "邮件服务未编译 (需gRPC)" 0)
        | .notConfigured => w.reply s .sendEmailCode (.sendEmailCode 3 "邮件服务未配置" 0)
        | .ready =>
            (w.call (.sendCode req.email)).reply s .sendEmailCode
              (.sendEmailCode w.env.sendCode.code w.env.sendCode.msg
                w.env.sendCode.cooldownSeconds)

/-- `OnUpgradeVipResponse`: without a login the user id is the client's. -/
def onUpgradeVipResponse (pb : ImProto) (s : ClientSession) (msg : MessageContainer) (w : World) :
    World :=
  match pb.upgradeVipReq msg.payload with
  | none => w.reply s .upgradeVip (.upgradeVip 1 "解析请求失败" false)
  | some req =>
      let userId :=
        match s.user with
        | none => req.userid
        | some user => user.userid
      match w.env.grpc with
      | .notBuilt => w.reply s .upgradeVip (.upgradeVip 2 "会员服务未编译 (需gRPC)" false)
      | .notConfigured => w.reply s .upgradeVip (.upgradeVip 2 "会员服务未配置" false)
      | .ready =>
          (w.call (.upgradeVip userId req.paymentToken req.amountCents)).reply s .upgradeVip
            (.upgradeVip (if w.env.upgrade.ok then 0 else 1) w.env.upgrade.msg
              w.env.upgrade.isVip)

/-! ### Profile and password -/

/-- A request text replaces the old one unless it is empty. -/
def orKeepText (requested old : Bytes) : Bytes :=
  if requested = [] then old else requested

/-- A request number replaces the old one unless it is zero. -/
def orKeepNumber (requested old : Int) : Int :=
  if requested ≠ 0 then requested else old

/-- The profile `OnUpdateUserInfoResponse` asks for. -/
def requestedProfile (req : UpdateUserInfoReq) (user : User) : ProfileUpdate where
  nickname := orKeepText req.nickname user.nickname
  facetype := orKeepNumber req.facetype user.facetype
  customface := orKeepText req.customface user.customface
  gender := orKeepNumber req.gender user.gender
  birthday := orKeepNumber req.birthday user.birthday
  signature := orKeepText req.signature user.signature
  address := orKeepText req.address user.address
  phonenumber := orKeepText req.phonenumber user.phonenumber
  mail := orKeepText req.mail user.mail

def onUpdateUserInfoResponse (pb : ImProto) (s : ClientSession) (msg : MessageContainer)
    (w : World) : World :=
  match pb.updateUserInfoReq msg.payload with
  | none => w.reply s .updateUserInfo (.common 101 "protobuf parse failed!")
  | some req =>
      match s.user with
      | none => w.raise .nullUser
      | some user =>
          let newinfo := Store.withProfile (requestedProfile req user) User.blank
          match w.store.updateUserInfo user.userid newinfo with
          | (true, store) =>
              let user := Store.withProfile (requestedProfile req user) user
              ((w.withStore store).setSession { s with user := some user }).reply s
                .updateUserInfo (.common 0 "ok")
          | (false, store) =>
              (w.withStore store).reply s .updateUserInfo
                (.common 100 "update user info failed!")

def onModifyPasswordResponse (pb : ImProto) (s : ClientSession) (msg : MessageContainer)
    (w : World) : World :=
  match pb.modifyPasswordReq msg.payload with
  | none => w.reply s .modifyPassword (.common 101 "protobuf parse failed!")
  | some req =>
      if req.oldpassword = [] ∨ req.newpassword = [] then
        w.reply s .modifyPassword (.common 102 "invalid parameter!")
      else
        match s.user with
        | none => w.raise .nullUser
        | some user =>
            if ¬ verifyPassword req.oldpassword user.password then
              w.reply s .modifyPassword (.common 103 "old password is incorrect!")
            else
              match w.store.modifyUserPassword w.env.salt user.userid req.newpassword with
              | (true, store) =>
                  (w.withStore store).reply s .modifyPassword (.common 0 "ok")
              | (false, store) =>
                  (w.withStore store).reply s .modifyPassword
                    (.common 100 "modify password failed!")

/-! ### Avatars -/

/-- The group branch of `OnAvatarUploadResponse`. -/
def uploadGroupAvatar (s : ClientSession) (user : User) (req : AvatarUploadReq) (w : World) :
    World :=
  let groupId := req.targetId
  match w.store.getUserByID groupId with
  | none => w.reply s .avatarUpload (.avatarUpload 4 "群不存在" [])
  | some group =>
      if ¬ (group.ownerid = user.userid ∨ w.store.isGroupAdmin groupId user.userid) then
        w.reply s .avatarUpload (.avatarUpload 5 "只有群主或管理员可更换群头像" [])
      else
        let w := w.call (.uploadAvatar groupId req.imageData req.format)
        if w.env.upload.ok then
          let url := w.env.upload.url
          let w := w.withStore (w.store.updateUserInfo groupId { group with customface := url }).2
          let members := ((w.store.getFriendInfoByUserID groupId).getD []).map User.userid
          let w := w.notifyAll (members.filter (· ≠ user.userid)) groupId 5 url
          w.reply s .avatarUpload (.avatarUpload 0 "群头像已更新" url)
        else
          w.reply s .avatarUpload (.avatarUpload 2 w.env.upload.errMsg [])

/-- The own-avatar branch of `OnAvatarUploadResponse`: the whole session copy
is written back. -/
def uploadOwnAvatar (s : ClientSession) (user : User) (req : AvatarUploadReq) (w : World) :
    World :=
  let w := w.call (.uploadAvatar user.userid req.imageData req.format)
  if w.env.upload.ok then
    let url := w.env.upload.url
    let user := { user with customface := url }
    let w := w.setSession { s with user := some user }
    let w := w.withStore (w.store.updateUserInfo user.userid user).2
    let friends := ((w.store.getFriendInfoByUserID user.userid).getD []).map User.userid
    let w := w.notifyAll friends user.userid 5 url
    w.reply s .avatarUpload (.avatarUpload 0 "上传成功" url)
  else
    w.reply s .avatarUpload (.avatarUpload 2 w.env.upload.errMsg [])

def onAvatarUploadResponse (pb : ImProto) (s : ClientSession) (msg : MessageContainer)
    (w : World) : World :=
  match pb.avatarUploadReq msg.payload with
  | none => w.reply s .avatarUpload (.avatarUpload 1 "解析请求失败" [])
  | some req =>
      match s.user with
      | none => w.reply s .avatarUpload (.avatarUpload 1 "未登录" [])
      | some user =>
          match w.env.grpc with
          | .notBuilt => w.reply s .avatarUpload (.avatarUpload 3 "Avatar服务未编译 (需gRPC)" [])
          | .notConfigured => w.reply s .avatarUpload (.avatarUpload 3 "Avatar服务未配置" [])
          | .ready =>
              if req.targetId ≥ groupIdBoundary then w.uploadGroupAvatar s user req
              else w.uploadOwnAvatar s user req

end World

end AimServer
