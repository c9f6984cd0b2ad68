import AimServer.Lib.Wire
import AimServer.Proto

/-!
Contract: the parser interface instantiated at the proto3 wire format, with
the field numbers of `im.proto`.

Results hold for every `ImProto`; this one is for running them on concrete
payloads. Strings are ASCII there, so the missing UTF-8 check does not show.
-/

namespace AimServer

open AimServer.Lib.Wire

namespace ProtoWire

def chatMsgOf (f : Fields) : ChatMsg where
  senderid := intField 32 1 f
  targetid := intField 32 2 f
  content := bytesField 3 f
  timestamp := intField 64 4 f
  skill := bytesField 5 f
  context := repeatedBytes 6 f
  msgType := intField 32 7 f
  mediaUrl := bytesField 8 f
  duration := intField 32 9 f
  fileSize := intField 64 10 f
  thumbUrl := bytesField 11 f
  fileName := bytesField 12 f

/-- A payload that does not parse leaves an empty message here. -/
def parseChatMsg (data : Bytes) : Bool × ChatMsg :=
  match fieldsOf data with
  | none => (false, .empty)
  | some f => (true, chatMsgOf f)

def writeContainer (msg : MessageContainer) : Bytes :=
  writeInt 1 msg.cmd ++ writeInt 2 msg.seq ++ writeInt 3 msg.targetId ++
    writeBytes 4 msg.targets ++ writeBytes 5 msg.payload

end ProtoWire

open ProtoWire

def wireProto : ImProto where
  registerReq data := (fieldsOf data).map fun f =>
    ⟨bytesField 1 f, bytesField 2 f, bytesField 3 f, bytesField 4 f, bytesField 5 f⟩
  loginReq data := (fieldsOf data).map fun f =>
    ⟨bytesField 1 f, bytesField 2 f, intField 32 3 f, intField 32 4 f⟩
  findUserReq data := (fieldsOf data).map fun f => ⟨bytesField 1 f, bytesField 2 f⟩
  operateFriendReq data := (fieldsOf data).map fun f => ⟨intField 32 1 f, intField 32 2 f⟩
  updateUserInfoReq data := (fieldsOf data).map fun f =>
    ⟨bytesField 1 f, intField 32 2 f, bytesField 3 f, intField 32 4 f, intField 32 5 f,
     bytesField 6 f, bytesField 7 f, bytesField 8 f, bytesField 9 f⟩
  modifyPasswordReq data := (fieldsOf data).map fun f => ⟨bytesField 1 f, bytesField 2 f⟩
  createGroupReq data := (fieldsOf data).map fun f => ⟨bytesField 1 f⟩
  getGroupMembersReq data := (fieldsOf data).map fun f => ⟨intField 32 1 f⟩
  chatHistoryReq data := (fieldsOf data).map fun f => ⟨intField 32 1 f⟩
  avatarUploadReq data := (fieldsOf data).map fun f =>
    ⟨bytesField 1 f, bytesField 2 f, intField 32 3 f⟩
  sendEmailCodeReq data := (fieldsOf data).map fun f => ⟨bytesField 1 f⟩
  upgradeVipReq data := (fieldsOf data).map fun f =>
    ⟨intField 32 1 f, bytesField 2 f, intField 32 3 f⟩
  sendRequestReq data := (fieldsOf data).map fun f =>
    ⟨intField 32 1 f, intField 32 2 f, intField 32 3 f, bytesField 4 f⟩
  handleRequestReq data := (fieldsOf data).map fun f => ⟨intField 64 1 f, intField 32 2 f⟩
  kickGroupMemberReq data := (fieldsOf data).map fun f => ⟨intField 32 1 f, intField 32 2 f⟩
  renameGroupReq data := (fieldsOf data).map fun f => ⟨intField 32 1 f, bytesField 2 f⟩
  setGroupAdminReq data := (fieldsOf data).map fun f =>
    ⟨intField 32 1 f, intField 32 2 f, boolField 3 f⟩
  multiChatTargets data := (fieldsOf data).map fun f => ⟨repeatedInt 32 1 f, bytesField 2 f⟩
  chatMsg := parseChatMsg
  serializeContainer := writeContainer
  parseContainer data := (fieldsOf data).map fun f =>
    ⟨intField 32 1 f, intField 32 2 f, intField 32 3 f, bytesField 4 f, bytesField 5 f⟩

/-- A container for a command, with a payload of wire fields. -/
def MsgType.container (type : MsgType) (payload : Bytes) : MessageContainer :=
  ⟨type.cmd, 1, 0, [], payload⟩

end AimServer
