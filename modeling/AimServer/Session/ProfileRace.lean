import AimServer.Session.Identity

/-!
Contract: profile requests on different IO threads.

Owns: `OnUpdateUserInfoResponse`, `OnAvatarUploadResponse` and
`OnRenameGroupResponse` as sequences of `UserManager` calls and the avatar
call, the login that gives a session its copy of a record, their
interleavings, and the theorems that a handler which nobody interrupts is the
one of the sequential model.

`OnUpdateUserInfoResponse` makes one `UserManager` call, so it is one step.
-/

namespace AimServer

open AimServer.Lib

/-- A handler between two calls. What it has read stays with it: `group` is the
record that `GetUserByID` returned. -/
inductive ProfileTask where
  | ownUpload (req : AvatarUploadReq)
  | ownWrite (url : Bytes)
  | ownNotice (url : Bytes)
  | groupAdmin (req : AvatarUploadReq) (group : User)
  | groupUpload (req : AvatarUploadReq) (group : User)
  | groupWrite (groupId : Int) (group : User) (url : Bytes)
  | groupNotice (groupId : Int) (url : Bytes)
  | renameAdmin (req : RenameGroupReq)
  | renameWrite (req : RenameGroupReq)
  | renameNotice (req : RenameGroupReq)

/-- The server and the handler each connection is in. -/
structure ProfileRace where
  world : World
  tasks : Nat → Option ProfileTask

inductive ProfileAction where
  /-- A login that was accepted copies the record into the session. -/
  | login (conn : Nat) (username : Bytes)
  | updateUserInfo (conn : Nat) (msg : MessageContainer)
  | avatarUpload (conn : Nat) (msg : MessageContainer)
  | renameGroup (conn : Nat) (msg : MessageContainer)
  /-- The next call of the handler of a connection. -/
  | advance (conn : Nat)

structure ProfileStep where
  action : ProfileAction
  env : Env

namespace World

/-- The session of a connection after it was written back. -/
theorem session?_setSession_own {w : World} {conn : Nat} {before : ClientSession}
    (known : w.session? conn = some before) (s : ClientSession) (own : s.conn = conn) :
    (w.setSession s).session? conn = some s := by
  rw [session?_setSession, if_pos own.symm, known]
  rfl

/-- `OnAvatarUploadResponse` up to its first call. -/
def beginAvatar (pb : ImProto) (s : ClientSession) (msg : MessageContainer) (w : World) :
    World × Option ProfileTask :=
  match pb.avatarUploadReq msg.payload with
  | none => (w.reply s .avatarUpload (.avatarUpload 1 "解析请求失败" []), none)
  | some req =>
      match s.user with
      | none => (w.reply s .avatarUpload (.avatarUpload 1 "未登录" []), none)
      | some user =>
          match w.env.grpc with
          | .notBuilt =>
              (w.reply s .avatarUpload (.avatarUpload 3 "Avatar服务未编译 (需gRPC)" []), none)
          | .notConfigured =>
              (w.reply s .avatarUpload (.avatarUpload 3 "Avatar服务未配置" []), none)
          | .ready =>
              if req.targetId ≥ groupIdBoundary then
                match w.store.getUserByID req.targetId with
                | none => (w.reply s .avatarUpload (.avatarUpload 4 "群不存在" []), none)
                | some group =>
                    if group.ownerid = user.userid then (w, some (.groupUpload req group))
                    else (w, some (.groupAdmin req group))
              else (w, some (.ownUpload req))

/-- `OnRenameGroupResponse` up to its first call. -/
def beginRename (pb : ImProto) (s : ClientSession) (msg : MessageContainer) (w : World) :
    World × Option ProfileTask :=
  match s.user with
  | none => (w.reply s .renameGroup (.renameGroup 1 "未登录" 0 []), none)
  | some user =>
      match pb.renameGroupReq msg.payload with
      | none => (w.reply s .renameGroup (.renameGroup 101 "解析请求失败" 0 []), none)
      | some req =>
          if req.newname = [] ∨ req.newname.length > 64 then
            (w.reply s .renameGroup (.renameGroup 102 "群名称长度不合法" req.groupid []), none)
          else
            match w.store.getUserByID req.groupid with
            | none => (w.reply s .renameGroup (.renameGroup 103 "群不存在" req.groupid []), none)
            | some group =>
                if req.groupid < groupIdBoundary then
                  (w.reply s .renameGroup (.renameGroup 103 "群不存在" req.groupid []), none)
                else if group.ownerid = user.userid then (w, some (.renameWrite req))
                else (w, some (.renameAdmin req))

/-- The next call of a handler of the session of `user`. -/
def advanceTask (env : Env) (s : ClientSession) (user : User) (task : ProfileTask) (w : World) :
    World × Option ProfileTask :=
  match task with
  | .ownUpload req =>
      let w := (w.withEnv env).call (.uploadAvatar user.userid req.imageData req.format)
      if w.env.upload.ok then (w, some (.ownWrite w.env.upload.url))
      else (w.reply s .avatarUpload (.avatarUpload 2 w.env.upload.errMsg []), none)
  | .ownWrite url =>
      let user := { user with customface := url }
      let w := (w.withEnv env).setSession { s with user := some user }
      (w.withStore (w.store.updateUserInfo user.userid user).2, some (.ownNotice url))
  | .ownNotice url =>
      let friends := ((w.store.getFriendInfoByUserID user.userid).getD []).map User.userid
      let w := w.notifyAll friends user.userid 5 url
      (w.reply s .avatarUpload (.avatarUpload 0 "上传成功" url), none)
  | .groupAdmin req group =>
      if w.store.isGroupAdmin req.targetId user.userid then (w, some (.groupUpload req group))
      else (w.reply s .avatarUpload (.avatarUpload 5 "只有群主或管理员可更换群头像" []), none)
  | .groupUpload req group =>
      let w := (w.withEnv env).call (.uploadAvatar req.targetId req.imageData req.format)
      if w.env.upload.ok then (w, some (.groupWrite req.targetId group w.env.upload.url))
      else (w.reply s .avatarUpload (.avatarUpload 2 w.env.upload.errMsg []), none)
  | .groupWrite groupId group url =>
      let w := w.withEnv env
      (w.withStore (w.store.updateUserInfo groupId { group with customface := url }).2,
        some (.groupNotice groupId url))
  | .groupNotice groupId url =>
      let members := ((w.store.getFriendInfoByUserID groupId).getD []).map User.userid
      let w := w.notifyAll (members.filter (· ≠ user.userid)) groupId 5 url
      (w.reply s .avatarUpload (.avatarUpload 0 "群头像已更新" url), none)
  | .renameAdmin req =>
      if w.store.isGroupAdmin req.groupid user.userid then (w, some (.renameWrite req))
      else (w.reply s .renameGroup
        (.renameGroup 104 "只有群主或管理员可以重命名群" req.groupid []), none)
  | .renameWrite req =>
      match (w.withEnv env).store.renameGroup req.groupid req.newname with
      | (true, store) => ((w.withEnv env).withStore store, some (.renameNotice req))
      | (false, store) => (((w.withEnv env).withStore store).reply s .renameGroup
          (.renameGroup 100 "重命名失败" req.groupid []), none)
  | .renameNotice req =>
      let members := ((w.store.getFriendInfoByUserID req.groupid).getD []).map User.userid
      let w := w.notifyAll (members.filter (· ≠ user.userid)) req.groupid 6 []
      (w.reply s .renameGroup (.renameGroup 0 "群名称已更新" req.groupid req.newname), none)

end World

namespace ProfileRace

/-- The connection has this handler now. -/
def put (conn : Nat) (result : World × Option ProfileTask) (race : ProfileRace) : ProfileRace :=
  ⟨result.1, Function.update race.tasks conn result.2⟩

/-- One step. A request waits for the handler its connection is in. -/
def step (pb : ImProto) (race : ProfileRace) (label : ProfileStep) : ProfileRace :=
  match label.action with
  | .login conn username =>
      match race.world.session? conn, race.world.store.getUserInfoUsername username,
          race.tasks conn with
      | some s, some found, none =>
          { race with
            world := race.world.setSession { s with user := some { found with status := 1 } } }
      | _, _, _ => race
  | .updateUserInfo conn msg =>
      match race.world.session? conn, race.tasks conn with
      | some s, none =>
          { race with
            world := (race.world.withEnv label.env).onUpdateUserInfoResponse pb s msg }
      | _, _ => race
  | .avatarUpload conn msg =>
      match race.world.session? conn, race.tasks conn with
      | some s, none => race.put conn ((race.world.withEnv label.env).beginAvatar pb s msg)
      | _, _ => race
  | .renameGroup conn msg =>
      match race.world.session? conn, race.tasks conn with
      | some s, none => race.put conn ((race.world.withEnv label.env).beginRename pb s msg)
      | _, _ => race
  | .advance conn =>
      match race.world.session? conn, race.tasks conn with
      | some s, some task =>
          match s.user with
          | none => race
          | some user => race.put conn (race.world.advanceTask label.env s user task)
      | _, _ => race

/-! ### Handlers that nobody interrupts -/

section Alone

variable {pb : ImProto} {conn : Nat} {s : ClientSession} {user : User} {env : Env}
  {race : ProfileRace}

@[simp] theorem put_world (result : World × Option ProfileTask) :
    (race.put conn result).world = result.1 := rfl

@[simp] theorem put_tasks (result : World × Option ProfileTask) :
    (race.put conn result).tasks conn = result.2 := Function.update_self _ _ _

theorem step_advance {task : ProfileTask} (session : race.world.session? conn = some s)
    (isUser : s.user = some user) (isTask : race.tasks conn = some task) :
    race.step pb ⟨.advance conn, env⟩ =
      race.put conn (race.world.advanceTask env s user task) := by
  simp only [step, session, isTask, isUser]

/-- A run of one handler that starts with the step to `next`. -/
theorem alone_cons {task : ProfileTask} {next : World × Option ProfileTask} {after : World}
    (session : race.world.session? conn = some s) (isUser : s.user = some user)
    (isTask : race.tasks conn = some task)
    (moves : race.world.advanceTask env s user task = next)
    (rest : ∃ steps, (run (step pb) (race.put conn next)
      (List.replicate steps ⟨.advance conn, env⟩)).world = after) :
    ∃ steps, (run (step pb) race (List.replicate steps ⟨.advance conn, env⟩)).world = after := by
  obtain ⟨steps, same⟩ := rest
  refine ⟨steps + 1, ?_⟩
  rw [List.replicate_succ, run_cons, step_advance session isUser isTask, moves]
  exact same

/-- A handler that has come to its end. -/
theorem alone_done {after : World} {task : Option ProfileTask} :
    ∃ steps, (run (step pb) (race.put conn (after, task))
      (List.replicate steps ⟨.advance conn, env⟩)).world = after :=
  ⟨0, rfl⟩

/-- The calls of the own-avatar branch in a row. -/
theorem own_alone {w : World} {req : AvatarUploadReq} (isWorld : race.world = w.withEnv env)
    (session : w.session? conn = some s) (isUser : s.user = some user)
    (isTask : race.tasks conn = some (.ownUpload req)) :
    ∃ steps, (run (step pb) race (List.replicate steps ⟨.advance conn, env⟩)).world =
      (w.withEnv env).uploadOwnAvatar s user req := by
  have sameConn : s.conn = conn := lookup_key session
  obtain ⟨world, tasks⟩ := race
  subst isWorld
  by_cases uploaded : env.upload.ok = true
  · have result : (w.withEnv env).uploadOwnAvatar s user req = _ := if_pos uploaded
    rw [result]
    refine alone_cons session isUser isTask (if_pos uploaded) ?_
    refine alone_cons session isUser (put_tasks _) rfl ?_
    refine alone_cons (s := { s with user := some { user with customface := env.upload.url } })
      ?_ rfl (put_tasks _) rfl alone_done
    exact World.session?_setSession_own session _ sameConn
  · have result : (w.withEnv env).uploadOwnAvatar s user req = _ := if_neg uploaded
    rw [result]
    exact alone_cons session isUser isTask (if_neg uploaded) alone_done

/-- The calls of the group branch from the upload on. -/
theorem group_alone {w : World} {req : AvatarUploadReq} {group : User}
    (isWorld : race.world = w.withEnv env) (session : w.session? conn = some s)
    (isUser : s.user = some user) (isGroup : w.store.getUserByID req.targetId = some group)
    (allowed : group.ownerid = user.userid ∨ w.store.isGroupAdmin req.targetId user.userid = true)
    (isTask : race.tasks conn = some (.groupUpload req group)) :
    ∃ steps, (run (step pb) race (List.replicate steps ⟨.advance conn, env⟩)).world =
      (w.withEnv env).uploadGroupAvatar s user req := by
  obtain ⟨world, tasks⟩ := race
  subst isWorld
  have known : (w.withEnv env).store.getUserByID req.targetId = some group := isGroup
  have mayEdit : ¬ ¬ (group.ownerid = user.userid ∨
      (w.withEnv env).store.isGroupAdmin req.targetId user.userid = true) := not_not_intro allowed
  unfold World.uploadGroupAvatar
  dsimp only
  rw [known]
  dsimp only
  rw [if_neg mayEdit]
  by_cases uploaded : env.upload.ok = true
  · rw [if_pos (show ((w.withEnv env).call _).env.upload.ok = true from uploaded)]
    refine alone_cons session isUser isTask (if_pos uploaded) ?_
    refine alone_cons session isUser (put_tasks _) rfl ?_
    exact alone_cons session isUser (put_tasks _) rfl alone_done
  · rw [if_neg (show ¬ ((w.withEnv env).call _).env.upload.ok = true from uploaded)]
    exact alone_cons session isUser isTask (if_neg uploaded) alone_done

/-- The group branch with its permission check. -/
theorem groupUpload_alone (session : race.world.session? conn = some s)
    (isUser : s.user = some user) (req : AvatarUploadReq) :
    ∃ steps, (run (step pb)
        (race.put conn
          (match (race.world.withEnv env).store.getUserByID req.targetId with
          | none => ((race.world.withEnv env).reply s .avatarUpload
              (.avatarUpload 4 "群不存在" []), none)
          | some group =>
              if group.ownerid = user.userid then
                (race.world.withEnv env, some (.groupUpload req group))
              else (race.world.withEnv env, some (.groupAdmin req group))))
        (List.replicate steps ⟨.advance conn, env⟩)).world =
      (race.world.withEnv env).uploadGroupAvatar s user req := by
  cases isGroup : (race.world.withEnv env).store.getUserByID req.targetId with
  | none =>
      unfold World.uploadGroupAvatar
      dsimp only
      rw [isGroup]
      exact alone_done
  | some group =>
      dsimp only
      by_cases isOwner : group.ownerid = user.userid
      · rw [if_pos isOwner]
        exact group_alone rfl session isUser isGroup (Or.inl isOwner) (put_tasks _)
      · rw [if_neg isOwner]
        by_cases isAdmin :
            (race.world.withEnv env).store.isGroupAdmin req.targetId user.userid = true
        · refine alone_cons session isUser (put_tasks _) (if_pos isAdmin) ?_
          exact group_alone rfl session isUser isGroup (Or.inr isAdmin) (put_tasks _)
        · refine alone_cons session isUser (put_tasks _) (if_neg isAdmin) ?_
          unfold World.uploadGroupAvatar
          dsimp only
          rw [isGroup]
          dsimp only
          rw [if_pos (not_or.mpr ⟨isOwner, isAdmin⟩)]
          exact alone_done

/-- The step that starts a handler, and the rest of it. -/
theorem alone_begin {action : ProfileAction} {next : World × Option ProfileTask} {after : World}
    (begins : race.step pb ⟨action, env⟩ = race.put conn next)
    (rest : ∃ steps, (run (step pb) (race.put conn next)
      (List.replicate steps ⟨.advance conn, env⟩)).world = after) :
    ∃ steps, (run (step pb) race
      (⟨action, env⟩ :: List.replicate steps ⟨.advance conn, env⟩)).world = after := by
  obtain ⟨steps, same⟩ := rest
  refine ⟨steps, ?_⟩
  rw [run_cons, begins]
  exact same

/-- An avatar upload that nobody interrupts is the one of the sequential
model. -/
theorem avatarUpload_alone (session : race.world.session? conn = some s)
    (free : race.tasks conn = none) (msg : MessageContainer) :
    ∃ steps, (run (step pb) race (⟨.avatarUpload conn msg, env⟩ ::
        List.replicate steps ⟨.advance conn, env⟩)).world =
      (race.world.withEnv env).onAvatarUploadResponse pb s msg := by
  have begins : race.step pb ⟨.avatarUpload conn msg, env⟩ =
      race.put conn ((race.world.withEnv env).beginAvatar pb s msg) := by
    simp only [step, session, free]
  refine alone_begin begins ?_
  unfold World.beginAvatar World.onAvatarUploadResponse
  cases parsed : pb.avatarUploadReq msg.payload with
  | none => exact alone_done
  | some req =>
      cases isUser : s.user with
      | none => exact alone_done
      | some user =>
          cases grpc : (race.world.withEnv env).env.grpc with
          | notBuilt => exact alone_done
          | notConfigured => exact alone_done
          | ready =>
              dsimp only
              by_cases forGroup : req.targetId ≥ groupIdBoundary
              · rw [if_pos forGroup, if_pos forGroup]
                exact groupUpload_alone session isUser req
              · rw [if_neg forGroup, if_neg forGroup]
                exact own_alone rfl session isUser (put_tasks _)

/-- The calls of a renaming from the write on. -/
theorem renameWrite_alone {w : World} {req : RenameGroupReq}
    (isWorld : race.world = w.withEnv env) (session : w.session? conn = some s)
    (isUser : s.user = some user) (isTask : race.tasks conn = some (.renameWrite req)) :
    ∃ steps, (run (step pb) race (List.replicate steps ⟨.advance conn, env⟩)).world =
      match (w.withEnv env).store.renameGroup req.groupid req.newname with
      | (true, store) =>
          let w := (w.withEnv env).withStore store
          let members := ((w.store.getFriendInfoByUserID req.groupid).getD []).map User.userid
          let w := w.notifyAll (members.filter (· ≠ user.userid)) req.groupid 6 []
          w.reply s .renameGroup (.renameGroup 0 "群名称已更新" req.groupid req.newname)
      | (false, store) => ((w.withEnv env).withStore store).reply s .renameGroup
          (.renameGroup 100 "重命名失败" req.groupid []) := by
  obtain ⟨world, tasks⟩ := race
  subst isWorld
  cases renamed : (w.withEnv env).store.renameGroup req.groupid req.newname with
  | mk ok store =>
      have again : ((w.withEnv env).withEnv env).store.renameGroup req.groupid req.newname =
          (ok, store) := renamed
      cases ok with
      | true =>
          have moves : (w.withEnv env).advanceTask env s user (.renameWrite req) =
              ((w.withEnv env).withStore store, some (.renameNotice req)) := by
            simp only [World.advanceTask, again]
            rfl
          refine alone_cons session isUser isTask moves ?_
          exact alone_cons session isUser (put_tasks _) rfl alone_done
      | false =>
          have moves : (w.withEnv env).advanceTask env s user (.renameWrite req) =
              (((w.withEnv env).withStore store).reply s .renameGroup
                (.renameGroup 100 "重命名失败" req.groupid []), none) := by
            simp only [World.advanceTask, again]
            rfl
          exact alone_cons session isUser isTask moves alone_done

/-- A renaming that nobody interrupts is the one of the sequential model. -/
theorem renameGroup_alone (session : race.world.session? conn = some s)
    (free : race.tasks conn = none) (msg : MessageContainer) :
    ∃ steps, (run (step pb) race (⟨.renameGroup conn msg, env⟩ ::
        List.replicate steps ⟨.advance conn, env⟩)).world =
      (race.world.withEnv env).onRenameGroupResponse pb s msg := by
  have begins : race.step pb ⟨.renameGroup conn msg, env⟩ =
      race.put conn ((race.world.withEnv env).beginRename pb s msg) := by
    simp only [step, session, free]
  refine alone_begin begins ?_
  unfold World.beginRename World.onRenameGroupResponse
  cases isUser : s.user with
  | none => exact alone_done
  | some user =>
      cases parsed : pb.renameGroupReq msg.payload with
      | none => exact alone_done
      | some req =>
          dsimp only
          by_cases badName : req.newname = [] ∨ req.newname.length > 64
          · rw [if_pos badName, if_pos badName]
            exact alone_done
          · rw [if_neg badName, if_neg badName]
            cases isGroup : (race.world.withEnv env).store.getUserByID req.groupid with
            | none => exact alone_done
            | some group =>
                dsimp only
                by_cases small : req.groupid < groupIdBoundary
                · rw [if_pos small, if_pos small]
                  exact alone_done
                · rw [if_neg small, if_neg small]
                  by_cases isOwner : group.ownerid = user.userid
                  · rw [if_pos isOwner, if_neg (not_not_intro (Or.inl isOwner))]
                    exact renameWrite_alone rfl session isUser (put_tasks _)
                  · rw [if_neg isOwner]
                    by_cases isAdmin : (race.world.withEnv env).store.isGroupAdmin req.groupid
                        user.userid = true
                    · rw [if_neg (not_not_intro (Or.inr isAdmin))]
                      refine alone_cons session isUser (put_tasks _) (if_pos isAdmin) ?_
                      exact renameWrite_alone rfl session isUser (put_tasks _)
                    · rw [if_pos (not_or.mpr ⟨isOwner, isAdmin⟩)]
                      exact alone_cons session isUser (put_tasks _) (if_neg isAdmin) alone_done

end Alone

end ProfileRace

end AimServer
