import AimServer.Session.Social

/-!
Contract: the group handlers of `ClientSession`.

Owns: creating a group, listing members, kicking, renaming and appointing
administrators.
-/

namespace AimServer

open AimServer.Lib

namespace World

/-- `OnAddGroupResponse`: the creator joins; the result is not looked at. -/
def onAddGroupResponse (user : User) (groupid : Int) (w : World) : World :=
  w.withStore (w.store.makeFriendRelationship (smallId user.userid groupid)
    (greatId user.userid groupid)).2

def onCreateGroupResponse (pb : ImProto) (s : ClientSession) (msg : MessageContainer)
    (w : World) : World :=
  match pb.createGroupReq msg.payload with
  | none => w.reply s .createGroup (.createGroup 101 "protobuf parse failed!" 0 [])
  | some req =>
      if req.groupname = [] then
        w.reply s .createGroup (.createGroup 102 "invalid parameter!" 0 [])
      else
        match s.user with
        | none => w.raise .nullUser
        | some user =>
            match w.store.addGroup req.groupname user.userid with
            | (some groupid, store) =>
                ((w.withStore store).onAddGroupResponse user groupid).reply s .createGroup
                  (.createGroup 0 "ok" groupid req.groupname)
            | (none, store) =>
                (w.withStore store).reply s .createGroup
                  (.createGroup 100 "create group failed!" 0 [])

/-- Role of a member in the member list: owner 2, administrator 1, else 0. -/
def groupRole (store : Store) (groupid ownerId userid : Int) : Int :=
  if userid = ownerId then 2 else if store.isGroupAdmin groupid userid then 1 else 0

def onGetGroupMembersResponse (pb : ImProto) (s : ClientSession) (msg : MessageContainer)
    (w : World) : World :=
  match pb.getGroupMembersReq msg.payload with
  | none => w.reply s .getGroupMembers (.groupMembers 101 "protobuf parse failed!" [])
  | some req =>
      let ownerId := ((w.store.getUserByID req.groupid).map User.ownerid).getD 0
      match w.store.getFriendInfoByUserID req.groupid with
      | some members =>
          w.reply s .getGroupMembers (.groupMembers 0 "ok" (members.map fun member =>
            { infoOf member with
              status := member.status
              grouprole := groupRole w.store req.groupid ownerId member.userid }))
      | none => w.reply s .getGroupMembers (.groupMembers 100 "get group members failed!" [])

def onKickGroupMemberResponse (pb : ImProto) (s : ClientSession) (msg : MessageContainer)
    (w : World) : World :=
  match s.user with
  | none => w.reply s .kickGroupMember (.kickGroupMember 1 "未登录" 0 0)
  | some user =>
      match pb.kickGroupMemberReq msg.payload with
      | none => w.reply s .kickGroupMember (.kickGroupMember 101 "解析请求失败" 0 0)
      | some req =>
          let answer := fun (code : Int) (text : String) (w : World) =>
            w.reply s .kickGroupMember (.kickGroupMember code text req.groupid req.memberid)
          match w.store.getUserByID req.groupid with
          | none => answer 102 "群不存在" w
          | some group =>
              if req.groupid < groupIdBoundary then answer 102 "群不存在" w
              else if group.ownerid ≠ user.userid then answer 103 "只有群主可以踢出成员" w
              else if req.memberid = group.ownerid then answer 104 "群主不能踢自己" w
              else if ¬ w.store.isFriend req.memberid req.groupid then
                answer 105 "该成员不在群中" w
              else
                match w.store.releaseFriendRelationship req.memberid req.groupid with
                | (true, store) =>
                    answer 0 "已移出该成员"
                      ((w.withStore store).notifyStatus req.memberid req.groupid 3 [])
                | (false, store) => answer 100 "移出成员失败" (w.withStore store)

def onRenameGroupResponse (pb : ImProto) (s : ClientSession) (msg : MessageContainer)
    (w : World) : World :=
  match s.user with
  | none => w.reply s .renameGroup (.renameGroup 1 "未登录" 0 [])
  | some user =>
      match pb.renameGroupReq msg.payload with
      | none => w.reply s .renameGroup (.renameGroup 101 "解析请求失败" 0 [])
      | some req =>
          let answer := fun (code : Int) (text : String) (w : World) =>
            w.reply s .renameGroup (.renameGroup code text req.groupid [])
          if req.newname = [] ∨ req.newname.length > 64 then answer 102 "群名称长度不合法" w
          else
            match w.store.getUserByID req.groupid with
            | none => answer 103 "群不存在" w
            | some group =>
                if req.groupid < groupIdBoundary then answer 103 "群不存在" w
                else if ¬ (group.ownerid = user.userid ∨
                    w.store.isGroupAdmin req.groupid user.userid) then
                  answer 104 "只有群主或管理员可以重命名群" w
                else
                  match w.store.renameGroup req.groupid req.newname with
                  | (true, store) =>
                      let w := w.withStore store
                      let members :=
                        ((w.store.getFriendInfoByUserID req.groupid).getD []).map User.userid
                      let w := w.notifyAll (members.filter (· ≠ user.userid)) req.groupid 6 []
                      w.reply s .renameGroup
                        (.renameGroup 0 "群名称已更新" req.groupid req.newname)
                  | (false, store) => answer 100 "重命名失败" (w.withStore store)

def onSetGroupAdminResponse (pb : ImProto) (s : ClientSession) (msg : MessageContainer)
    (w : World) : World :=
  match s.user with
  | none => w.reply s .setGroupAdmin (.setGroupAdmin 1 "未登录" 0 0 false)
  | some user =>
      match pb.setGroupAdminReq msg.payload with
      | none => w.reply s .setGroupAdmin (.setGroupAdmin 101 "解析请求失败" 0 0 false)
      | some req =>
          let answer := fun (code : Int) (text : String) (w : World) =>
            w.reply s .setGroupAdmin
              (.setGroupAdmin code text req.groupid req.memberid req.isAdmin)
          match w.store.getUserByID req.groupid with
          | none => answer 102 "群不存在" w
          | some group =>
              if req.groupid < groupIdBoundary then answer 102 "群不存在" w
              else if group.ownerid ≠ user.userid then answer 103 "只有群主可以设置管理员" w
              else if req.memberid = group.ownerid then answer 104 "群主无需设置为管理员" w
              else if ¬ w.store.isFriend req.memberid req.groupid then
                answer 105 "该用户不在群中" w
              else
                match w.store.setGroupAdmin req.groupid req.memberid req.isAdmin with
                | (true, store) =>
                    answer 0 (if req.isAdmin then "已设为管理员" else "已取消管理员")
                      ((w.withStore store).notifyStatus req.memberid req.groupid 6 [])
                | (false, store) => answer 100 "操作失败" (w.withStore store)

end World

end AimServer
