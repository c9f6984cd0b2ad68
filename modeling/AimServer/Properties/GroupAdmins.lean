import AimServer.Graph.Offices
import AimServer.Properties.Client

/-!
Contract: whoever may rename a group or change its avatar is a member of it.

Owns: the invariant that every officer of a group is a member, in the tables
and in the cache; the condition on steps under which every run keeps it; what
an accepted rename or group avatar says about its sender; and the run in which
a removed member still acts as administrator.

Membership and administration are two sets and two tables. No command that
takes a member out of the one looks into the other.
-/

namespace AimServer

open AimServer.Lib

/-! ### The claim over runs -/

/-- In every state administrators are members, and every accepted rename or
group avatar came from a member. -/
structure AdminsAreMembers (pb : ImProto) (start : World) (steps : List Step) : Prop where
  members : ∀ past rest, steps = past ++ rest → ∀ groupid userid, groupid ≥ groupIdBoundary →
    (World.runFrom pb start past).store.isGroupAdmin groupid userid = true →
      (World.runFrom pb start past).store.isFriend groupid userid = true
  renames : ∀ past label rest, steps = past ++ label :: rest → ∀ ask,
    (World.runFrom pb start past).asks label .renameGroup pb.renameGroupReq = some ask →
    ∀ conn frame text groupid name, (conn, frame) ∈ (World.runFrom pb start past).sent pb label →
      frame.body = .renameGroup 0 text groupid name →
        ∃ user, ask.session.user = some user ∧
          (World.runFrom pb start past).store.isFriend ask.req.groupid user.userid = true
  avatars : ∀ past label rest, steps = past ++ label :: rest → ∀ ask,
    (World.runFrom pb start past).asks label .avatarUpload pb.avatarUploadReq = some ask →
    ask.req.targetId ≥ groupIdBoundary →
    ∀ conn frame text url, (conn, frame) ∈ (World.runFrom pb start past).sent pb label →
      frame.body = .avatarUpload 0 text url →
        ∃ user, ask.session.user = some user ∧
          (World.runFrom pb start past).store.isFriend ask.req.targetId user.userid = true

/-! ### The condition on steps -/

/-- The kick passes every check of `OnKickGroupMemberResponse`, and its
`DELETE` takes effect. -/
def Kicks (w : World) (label : Step) (user : User) (req : KickGroupMemberReq) : Prop :=
  req.groupid ≥ groupIdBoundary ∧
    (w.store.getUserByID req.groupid).map User.ownerid = some user.userid ∧
    req.memberid ≠ user.userid ∧ w.store.isFriend req.memberid req.groupid = true ∧
    req.memberid < req.groupid ∧ label.env.sql 0 = true

/-- The appointment passes every check of `OnSetGroupAdminResponse`, and the
administrator row is there already or its `INSERT` takes effect. -/
def Appoints (w : World) (label : Step) (user : User) (req : SetGroupAdminReq) : Prop :=
  req.isAdmin = true ∧ req.groupid ≥ groupIdBoundary ∧
    (w.store.getUserByID req.groupid).map User.ownerid = some user.userid ∧
    w.store.isFriend req.memberid req.groupid = true ∧
    ((label.env.sql 0 = true ∧ (req.groupid, req.memberid) ∈ w.store.db.tables.groupAdmins) ∨
      label.env.sql 1 = true)

/-- Neither of two ids holds an office in the other. -/
def Unattached (w : World) (a b : Int) : Prop :=
  ¬ w.store.graph.Office a b ∧ ¬ w.store.graph.Office b a

/-- Nobody is taken out of a group, by himself or by its owner, while holding
an office in it. -/
def DismissesBeforeRemoval (pb : ImProto) (w : World) (label : Step) : Prop :=
  (∀ ask ∈ w.asks label .operateFriend pb.operateFriendReq, ∀ user ∈ ask.session.user,
    ask.req.type = 2 → label.env.sql 0 = true → Unattached w user.userid ask.req.friendid) ∧
  (∀ ask ∈ w.asks label .kickGroupMember pb.kickGroupMemberReq, ∀ user ∈ ask.session.user,
    Kicks w label user ask.req → Unattached w ask.req.memberid ask.req.groupid)

/-- Whoever is appointed is in the member set of the group. The handler looks
for the group in the set of the member. -/
def AppointsMembers (pb : ImProto) (w : World) (label : Step) : Prop :=
  ∀ ask ∈ w.asks label .setGroupAdmin pb.setGroupAdminReq, ∀ user ∈ ask.session.user,
    Appoints w label user ask.req → w.store.isFriend ask.req.groupid ask.req.memberid = true

/-- When the `INSERT` of a new group takes effect, so does the one that makes
the owner a member. -/
def FoundsWithOwner (pb : ImProto) (w : World) (label : Step) : Prop :=
  ∀ ask ∈ w.asks label .createGroup pb.createGroupReq, ask.session.user.isSome →
    ask.req.groupname ≠ [] → label.env.sql 0 = true →
    w.store.graph.account (w.store.baseGroupID + 1) = none → label.env.sql 1 = true

/-- A restart reads the members of every group. -/
def ReloadsMembers (w : World) (label : Step) : Prop :=
  ∀ loads ∈ label.loads?, ∀ row ∈ w.store.db.tables.users.rows, row.userId ≥ groupIdBoundary →
    loads.relationshipOk row.userId = true

/-- What the server would have to see to on its own. -/
def KeepsOfficers (pb : ImProto) (w : World) (label : Step) : Prop :=
  DismissesBeforeRemoval pb w label ∧ AppointsMembers pb w label ∧ FoundsWithOwner pb w label ∧
    ReloadsMembers w label

instance (w : World) (label : Step) (user : User) (req : KickGroupMemberReq) :
    Decidable (Kicks w label user req) :=
  inferInstanceAs (Decidable (_ ∧ _))

instance (w : World) (label : Step) (user : User) (req : SetGroupAdminReq) :
    Decidable (Appoints w label user req) :=
  inferInstanceAs (Decidable (_ ∧ _))

instance (w : World) (a b : Int) : Decidable (Unattached w a b) :=
  inferInstanceAs (Decidable (_ ∧ _))

instance (pb : ImProto) (w : World) (label : Step) :
    Decidable (DismissesBeforeRemoval pb w label) :=
  inferInstanceAs (Decidable (
    (∀ ask ∈ w.asks label .operateFriend pb.operateFriendReq, _) ∧
    (∀ ask ∈ w.asks label .kickGroupMember pb.kickGroupMemberReq, _)))

instance (pb : ImProto) (w : World) (label : Step) : Decidable (AppointsMembers pb w label) :=
  inferInstanceAs (Decidable (∀ ask ∈ w.asks label .setGroupAdmin pb.setGroupAdminReq, _))

instance (pb : ImProto) (w : World) (label : Step) : Decidable (FoundsWithOwner pb w label) :=
  inferInstanceAs (Decidable (∀ ask ∈ w.asks label .createGroup pb.createGroupReq, _))

instance (w : World) (label : Step) : Decidable (ReloadsMembers w label) :=
  inferInstanceAs (Decidable (∀ loads ∈ label.loads?, _))

instance (pb : ImProto) (w : World) (label : Step) : Decidable (KeepsOfficers pb w label) :=
  inferInstanceAs (Decidable (_ ∧ _))

/-! ### Officers are members -/

namespace Graph

/-- Every officer of a group is a member, in the tables and in the cache. -/
structure Staffed (g : Graph) : Prop where
  table : ∀ a b, g.Office a b → g.Related a b
  cache : ∀ a b, g.CachedOffice a b → g.friend a b

/-- A reload that reads every group's members gives every officer his group. -/
theorem Staffed.reload {g : Graph} {relationshipOk adminsOk : Int → Bool}
    (table : ∀ a b, g.Office a b → g.Related a b)
    (reads : ∀ a, a ≥ groupIdBoundary → (g.account a).isSome → relationshipOk a = true) :
    (g.reload relationshipOk adminsOk).Staffed := by
  refine ⟨table, ?_⟩
  intro a b office
  obtain ⟨isGroup, isAdmin | ⟨isOwner, somebody⟩⟩ := office
  · obtain ⟨known, -, -, appointed⟩ := isAdmin
    exact ⟨known, reads a isGroup known, table a b ⟨isGroup, Or.inl appointed⟩⟩
  · have known : (g.account a).isSome := Option.isSome_iff_exists.mpr ⟨b, isOwner⟩
    exact ⟨known, reads a isGroup known, table a b ⟨isGroup, Or.inr ⟨isOwner, somebody⟩⟩⟩

end Graph

section Step

variable {pb : ImProto} {w : World} {label : Step} {a b : Int}

/-- A group in the graph has a row in `t_user`. -/
theorem row_of_account {s : Store} (known : (s.graph.account a).isSome) :
    ∃ row ∈ s.db.tables.users.rows, row.userId = a := by
  obtain ⟨owner, isOwner⟩ := Option.isSome_iff_exists.mp known
  obtain ⟨row, found, -⟩ := Option.map_eq_some_iff.mp isOwner
  exact ⟨row, mem_of_lookup found, lookup_key found⟩

/-- What a restart reads of a group that has a row. -/
theorem ReloadsMembers.reads {loads : Store.LoadOutcome} (reloads : ReloadsMembers w label)
    (event : label.event = .restart loads) (isGroup : a ≥ groupIdBoundary)
    (known : (w.store.graph.account a).isSome) : loads.relationshipOk a = true := by
  obtain ⟨row, isRow, same⟩ := row_of_account known
  rw [← same]
  exact reloads loads (by simp [Step.loads?, event]) row isRow (same ▸ isGroup)

/-- Two ids of which one holds an office in the other are not parted. -/
theorem KeepsOfficers.not_unlinked (keeps : KeepsOfficers pb w label)
    (office : w.store.graph.Office a b) : ¬ UnlinkCause pb w label a b := by
  have attached : ∀ {x y : Int}, Graph.SamePair x y a b → ¬ Unattached w x y := by
    intro x y pair unattached
    rcases pair with ⟨rfl, rfl⟩ | ⟨rfl, rfl⟩
    · exact unattached.1 office
    · exact unattached.2 office
  intro cause
  cases cause with
  | deleted asked signedIn isDelete granted pair =>
      exact attached pair (keeps.1.1 _ asked _ signedIn isDelete granted)
  | kicked asked signedIn isGroup owned other member ordered granted pair =>
      exact attached pair (keeps.1.2 _ asked _ signedIn
        ⟨isGroup, owned, other, member, ordered, granted⟩)

/-- A step that appoints parts nobody. -/
theorem not_unlinked_of_appointing {ask : Ask SetGroupAdminReq}
    (asked : w.asks label .setGroupAdmin pb.setGroupAdminReq = some ask) :
    ¬ UnlinkCause pb w label a b := by
  intro cause
  cases cause with
  | deleted askedOther => cases World.asks_type_unique asked askedOther
  | kicked askedOther => cases World.asks_type_unique asked askedOther

theorem staffed_table_step (keeps : KeepsOfficers pb w label) (sound : w.Sound)
    (staffed : w.store.graph.Staffed) (office : (w.step pb label).store.graph.Office a b) :
    (w.step pb label).store.graph.Related a b := by
  rcases office_step sound office with before | cause
  · exact related_kept_step (keeps.not_unlinked before) (staffed.table a b before)
  cases cause with
  | founded asked signedIn named granted fresh isGroup isOwner joined =>
      have signed := Option.isSome_iff_exists.mpr ⟨_, signedIn⟩
      exact (joined (keeps.2.2.1 _ asked signed named granted fresh)).1
  | appointed asked signedIn isGroup owned member isAdmin granted inGroup isMember =>
      rw [inGroup, isMember]
      exact related_kept_step (not_unlinked_of_appointing asked)
        (sound.coherent.friend _ _ member).2.symm

theorem staffed_cache_step (running : ∀ loads, label.event ≠ .restart loads)
    (keeps : KeepsOfficers pb w label) (sound : w.Sound) (staffed : w.store.graph.Staffed)
    (office : (w.step pb label).store.graph.CachedOffice a b) :
    (w.step pb label).store.graph.friend a b := by
  rcases cachedOffice_step sound running office with before | cause
  · exact friend_kept_step running (keeps.not_unlinked (before.office sound.coherent))
      (staffed.cache a b before)
  cases cause with
  | founded asked signedIn named granted fresh isGroup isOwner joined =>
      have signed := Option.isSome_iff_exists.mpr ⟨_, signedIn⟩
      exact (joined (keeps.2.2.1 _ asked signed named granted fresh)).2
  | appointed asked signedIn isGroup owned member isAdmin granted inGroup isMember =>
      have isFriend := keeps.2.1 _ asked _ signedIn ⟨isAdmin, isGroup, owned, member, granted⟩
      rw [inGroup, isMember]
      exact friend_kept_step running (not_unlinked_of_appointing asked) isFriend

/-- Every step that keeps to the condition keeps officers members. -/
theorem staffed_step (keeps : KeepsOfficers pb w label) (sound : w.Sound)
    (staffed : w.store.graph.Staffed) : (w.step pb label).store.graph.Staffed := by
  by_cases restarts : ∃ loads, label.event = .restart loads
  · obtain ⟨loads, event⟩ := restarts
    rw [World.graph_of_restart_event event]
    refine .reload staffed.table ?_
    intro a isGroup known
    exact keeps.2.2.2.reads event isGroup known
  · have running : ∀ loads, label.event ≠ .restart loads := fun loads event =>
      restarts ⟨loads, event⟩
    exact ⟨fun _ _ => staffed_table_step keeps sound staffed,
      fun _ _ => staffed_cache_step running keeps sound staffed⟩

end Step

/-! ### Who may change a group -/

section Handlers

variable {pb : ImProto} {s : ClientSession} {msg : MessageContainer} {w : World}

/-- The test both handlers make: owner or administrator. -/
def Permitted (w : World) (groupid userid : Int) : Prop :=
  ∃ group, w.store.getUserByID groupid = some group ∧
    (group.ownerid = userid ∨ w.store.isGroupAdmin groupid userid = true)

/-- A rename is refused with one frame, or its sender is permitted. -/
theorem onRenameGroupResponse_cases {req : RenameGroupReq}
    (parsed : pb.renameGroupReq msg.payload = some req) :
    (∃ code text groupid name, code ≠ 0 ∧ (w.onRenameGroupResponse pb s msg).outbox =
        w.outbox ++ [(s.conn, ⟨MsgType.renameGroup.cmd, s.seq, 0,
          .renameGroup code text groupid name⟩)]) ∨
      ∃ user, s.user = some user ∧ req.groupid ≥ groupIdBoundary ∧
        Permitted w req.groupid user.userid := by
  unfold World.onRenameGroupResponse
  rw [parsed]
  split
  · exact Or.inl ⟨1, _, _, _, by decide, rfl⟩
  rename_i user signedIn
  dsimp only
  split
  · exact Or.inl ⟨102, _, _, _, by decide, rfl⟩
  split
  · exact Or.inl ⟨103, _, _, _, by decide, rfl⟩
  rename_i group found
  split
  · exact Or.inl ⟨103, _, _, _, by decide, rfl⟩
  rename_i isGroup
  split
  · exact Or.inl ⟨104, _, _, _, by decide, rfl⟩
  rename_i permitted
  exact Or.inr ⟨user, signedIn, not_lt.mp isGroup, group, found, not_not.mp permitted⟩

/-- A group avatar is refused with one frame, or its sender is permitted. -/
theorem onAvatarUploadResponse_cases {req : AvatarUploadReq}
    (parsed : pb.avatarUploadReq msg.payload = some req)
    (isGroup : req.targetId ≥ groupIdBoundary) :
    (∃ code text url, code ≠ 0 ∧ (w.onAvatarUploadResponse pb s msg).outbox =
        w.outbox ++ [(s.conn, ⟨MsgType.avatarUpload.cmd, s.seq, 0,
          .avatarUpload code text url⟩)]) ∨
      ∃ user, s.user = some user ∧ Permitted w req.targetId user.userid := by
  unfold World.onAvatarUploadResponse
  rw [parsed]
  dsimp only
  split
  · exact Or.inl ⟨1, _, _, by decide, rfl⟩
  rename_i user signedIn
  split
  · exact Or.inl ⟨3, _, _, by decide, rfl⟩
  · exact Or.inl ⟨3, _, _, by decide, rfl⟩
  rw [if_pos isGroup]
  unfold World.uploadGroupAvatar
  dsimp only
  split
  · exact Or.inl ⟨4, _, _, by decide, rfl⟩
  rename_i group found
  split
  · exact Or.inl ⟨5, _, _, by decide, rfl⟩
  rename_i permitted
  exact Or.inr ⟨user, signedIn, group, found, not_not.mp permitted⟩

end Handlers

section Runs

variable {pb : ImProto} {w : World} {label : Step}

/-- The state invariant behind the claim. -/
structure Officered (w : World) : Prop where
  sound : w.Sound
  staffed : w.store.graph.Staffed
  nobody : w.store.graph.account 0 = none

theorem Officered.step (officered : Officered w) (keeps : KeepsOfficers pb w label) :
    Officered (w.step pb label) :=
  ⟨officered.sound.step, staffed_step keeps officered.sound officered.staffed,
    account_unassigned_step officered.sound (le_refl 0) officered.nobody⟩

/-- Whoever is permitted to change a group is in its member set. -/
theorem Officered.member_of_permitted {groupid : Int} {user : User} (officered : Officered w)
    (registered : (w.store.graph.cached user.userid).isSome)
    (isGroup : groupid ≥ groupIdBoundary) (permitted : Permitted w groupid user.userid) :
    w.store.isFriend groupid user.userid = true := by
  obtain ⟨group, found, isOwner | isAdmin⟩ := permitted
  · have somebody : user.userid ≠ 0 := by
      intro isZero
      obtain ⟨owner, known⟩ := Option.isSome_iff_exists.mp registered
      have account := officered.sound.coherent.cached _ _ known
      rw [isZero, officered.nobody] at account
      cases account
    have owned : w.store.graph.cached groupid = some user.userid := by
      rw [Store.cached_of_getUserByID found, isOwner]
    exact officered.staffed.cache _ _ ⟨isGroup, Or.inr ⟨owned, somebody⟩⟩
  · exact officered.staffed.cache _ _ ⟨isGroup, Or.inl isAdmin⟩

/-- An answer with code 0 to a rename went to a member. -/
theorem Officered.rename_by_member {ask : Ask RenameGroupReq} {conn : Nat} {frame : Frame}
    {text : String} {groupid : Int} {name : Bytes} (officered : Officered w)
    (asked : w.asks label .renameGroup pb.renameGroupReq = some ask)
    (sent : (conn, frame) ∈ w.sent pb label)
    (body : frame.body = .renameGroup 0 text groupid name) :
    ∃ user, ask.session.user = some user ∧
      w.store.isFriend ask.req.groupid user.userid = true := by
  obtain ⟨reached, parsed⟩ := World.dispatched_of_asks asked
  have step := World.step_of_dispatched pb reached
  rcases onRenameGroupResponse_cases (s := ask.session)
      (w := (w.withEnv label.env).setSession ask.session) parsed with
    ⟨code, refusal, answered, other, refused, outbox⟩ | ⟨user, signedIn, isGroup, permitted⟩
  · rw [World.sent_eq (by rw [step]; exact outbox), List.mem_singleton] at sent
    cases sent
    cases body
    exact absurd rfl refused
  · have registered := officered.sound.cached_of_asks asked signedIn
    exact ⟨user, signedIn, officered.member_of_permitted registered isGroup permitted⟩

/-- An answer with code 0 to a group avatar went to a member. -/
theorem Officered.avatar_by_member {ask : Ask AvatarUploadReq} {conn : Nat} {frame : Frame}
    {text : String} {url : Bytes} (officered : Officered w)
    (asked : w.asks label .avatarUpload pb.avatarUploadReq = some ask)
    (isGroup : ask.req.targetId ≥ groupIdBoundary)
    (sent : (conn, frame) ∈ w.sent pb label) (body : frame.body = .avatarUpload 0 text url) :
    ∃ user, ask.session.user = some user ∧
      w.store.isFriend ask.req.targetId user.userid = true := by
  obtain ⟨reached, parsed⟩ := World.dispatched_of_asks asked
  have step := World.step_of_dispatched pb reached
  rcases onAvatarUploadResponse_cases (s := ask.session)
      (w := (w.withEnv label.env).setSession ask.session) parsed isGroup with
    ⟨code, refusal, other, refused, outbox⟩ | ⟨user, signedIn, permitted⟩
  · rw [World.sent_eq (by rw [step]; exact outbox), List.mem_singleton] at sent
    cases sent
    cases body
    exact absurd rfl refused
  · have registered := officered.sound.cached_of_asks asked signedIn
    exact ⟨user, signedIn, officered.member_of_permitted registered isGroup permitted⟩

end Runs

/-- Tables a server may start from: no account is 0, and every owner and
administrator of a group has a relationship row with it. -/
def Tables.Staffed (t : Tables) : Prop :=
  (∀ row ∈ t.users.rows, row.userId ≠ 0) ∧
  (∀ row ∈ t.users.rows, row.userId ≥ groupIdBoundary → row.ownerId ≠ 0 →
    (row.userId, row.ownerId) ∈ t.relationships ∨
      (row.ownerId, row.userId) ∈ t.relationships) ∧
  ∀ pair ∈ t.groupAdmins, pair.1 ≥ groupIdBoundary →
    pair ∈ t.relationships ∨ pair.swap ∈ t.relationships

instance (t : Tables) : Decidable t.Staffed :=
  inferInstanceAs (Decidable (_ ∧ _))

theorem officered_boot {tables : Tables} (staffed : tables.Staffed) :
    Officered (World.boot tables) := by
  refine ⟨World.sound_boot tables, ?_, ?_⟩
  · have loaded := Store.graph_init .allOk (Store.init .allOk ⟨tables, fun _ => true, 0⟩)
    rw [show (World.boot tables).store.graph = _ from loaded]
    refine .reload ?_ fun _ _ _ => rfl
    intro a b office
    obtain ⟨isGroup, appointed | ⟨isOwner, somebody⟩⟩ := office
    · exact staffed.2.2 (a, b) appointed isGroup
    · obtain ⟨row, found, isRow⟩ := Option.map_eq_some_iff.mp isOwner
      have key : row.userId = a := lookup_key found
      have related := staffed.2.1 row (mem_of_lookup found)
      rw [key, isRow] at related
      exact related isGroup somebody
  · rw [← Option.not_isSome_iff_eq_none]
    intro known
    obtain ⟨row, isRow, isZero⟩ := row_of_account known
    exact staffed.1 row isRow isZero

/-- As long as nobody is removed from a group he holds an office in, officers
are members. -/
theorem group_admins_are_members (pb : ImProto) (tables : Tables) (steps : List Step)
    (staffed : tables.Staffed)
    (keeps : AllSteps (World.step pb) (KeepsOfficers pb) (World.boot tables) steps) :
    AdminsAreMembers pb (World.boot tables) steps := by
  have reached : ∀ past rest, steps = past ++ rest →
      Officered (World.runFrom pb (World.boot tables) past) := by
    intro past rest split
    rw [split, allSteps_append] at keeps
    exact run_invariant Officered (fun _ _ => Officered.step) (officered_boot staffed) keeps.1
  refine ⟨?_, ?_, ?_⟩
  · intro past rest split groupid userid isGroup isAdmin
    exact (reached past rest split).staffed.cache _ _ ⟨isGroup, Or.inl isAdmin⟩
  · intro past label rest split ask asked conn frame text groupid name sent body
    exact (reached past _ split).rename_by_member asked sent body
  · intro past label rest split ask asked isGroup conn frame text url sent body
    exact (reached past _ split).avatar_by_member asked isGroup sent body

namespace AdminRuns

/-- Alice appoints Bob. -/
def appointed : List Step :=
  Sample.bothLogIn ++ [Client.send 0 .setGroupAdmin (Client.setGroupAdmin 268435456 2 true)]

/-- Bob renames the group. -/
def renames : Step := Client.send 1 .renameGroup (Client.renameGroup 268435456 (str "team"))

/-- Alice removes Bob from the group. -/
def kicked : List Step :=
  appointed ++ [Client.send 0 .kickGroupMember (Client.kickGroupMember 268435456 2)]

end AdminRuns

theorem group_admins_are_members_appointed :
    (World.runFrom wireProto (World.boot (Sample.clubOf [1, 2]))
        AdminRuns.appointed).store.isGroupAdmin 268435456 2 = true ∧
      AdminsAreMembers wireProto (World.boot (Sample.clubOf [1, 2]))
        (AdminRuns.appointed ++ [AdminRuns.renames]) :=
  ⟨by decide, group_admins_are_members _ _ _ (by decide) (by decide)⟩

/-- A removed member stays administrator and renames the group. -/
theorem kicked_admin_renames :
    (1, ⟨MsgType.renameGroup.cmd, 1, 0,
        .renameGroup 0 "群名称已更新" 268435456 (str "team")⟩) ∈
        (World.runFrom wireProto (World.boot (Sample.clubOf [1, 2])) AdminRuns.kicked).sent
          wireProto AdminRuns.renames ∧
      ¬ AdminsAreMembers wireProto (World.boot (Sample.clubOf [1, 2]))
        (AdminRuns.kicked ++ [AdminRuns.renames]) := by
  refine ⟨by decide, ?_⟩
  intro areMembers
  have member := areMembers.members AdminRuns.kicked [AdminRuns.renames] rfl 268435456 2
    (by decide) (by decide)
  exact absurd member (by decide)

end AimServer
