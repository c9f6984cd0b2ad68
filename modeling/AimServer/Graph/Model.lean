import AimServer.Store.MySql
import AimServer.Proto

/-!
Contract: who knows whom, as the tables and the account cache hold it.

Owns: the social graph of one server state as relations over ids, the
operations that can change it, and what a restart rebuilds.

The cache side and the table side of every relation are kept apart, because
the server writes them separately: `friend` and `admin` are what the running
process answers from, `links` and `appointed` are what survives it.

Does not own: profiles, passwords, messages, and the handlers that run the
operations.
-/

namespace AimServer

/-- The social graph of a server state. -/
@[ext] structure Graph where
  /-- The owner in the cached record of an id. -/
  cached : Int → Option Int
  /-- The second id is in the friend set of the cached record of the first. -/
  friend : Int → Int → Prop
  /-- The second id is in the administrator set of the cached record of the first. -/
  admin : Int → Int → Prop
  /-- The owner column of the `t_user` row of an id. -/
  account : Int → Option Int
  /-- The rows of `t_user_relationship`. -/
  links : List (Int × Int)
  /-- A row of `t_group_admin`. -/
  appointed : Int → Int → Prop
  /-- The row of `t_friend_request` under a key. -/
  request : Int → Option FriendRequestRow

namespace Graph

/-- The unordered pair `x`, `y` is the unordered pair `a`, `b`. -/
def SamePair (a b x y : Int) : Prop :=
  (x = a ∧ y = b) ∨ (x = b ∧ y = a)

/-- The tables relate two ids, in either column order. -/
def Related (g : Graph) (a b : Int) : Prop :=
  (a, b) ∈ g.links ∨ (b, a) ∈ g.links

/-- A new account. An id that is already known keeps its record. -/
def enrol (id owner : Int) (g : Graph) : Graph :=
  { g with
    cached := fun k => (g.cached k).or (if k = id then some owner else none)
    account := fun k => (g.account k).or (if k = id then some owner else none) }

/-- A relationship row, and the friend sets of the two records. Without a
record for `small` no set is touched. -/
def link (small great : Int) (g : Graph) : Graph :=
  { g with
    links := g.links ++ [(small, great)]
    friend := fun x y => g.friend x y ∨
      ((g.cached small).isSome ∧ (g.cached x).isSome ∧ SamePair small great x y) }

/-- The relationship rows of one column order, and both friend sets. -/
def unlink (small great : Int) (g : Graph) : Graph :=
  { g with
    links := g.links.filter (· ≠ (small, great))
    friend := fun x y => g.friend x y ∧ ¬ SamePair small great x y }

def appoint (group member : Int) (g : Graph) : Graph :=
  { g with
    appointed := fun x y => g.appointed x y ∨ (x = group ∧ y = member)
    admin := fun x y => g.admin x y ∨ ((g.cached group).isSome ∧ x = group ∧ y = member) }

def dismiss (group member : Int) (g : Graph) : Graph :=
  { g with
    appointed := fun x y => g.appointed x y ∧ ¬ (x = group ∧ y = member)
    admin := fun x y => g.admin x y ∧ ¬ (x = group ∧ y = member) }

def ask (key : Int) (row : FriendRequestRow) (g : Graph) : Graph :=
  { g with request := fun k => if k = key then some row else g.request k }

def decide (key status : Int) (g : Graph) : Graph :=
  { g with
    request := fun k =>
      if k = key then (g.request k).map ({ · with status }) else g.request k }

/-- A new process: the cache is what the tables say, except for the accounts
whose queries failed. -/
def reload (relationshipOk adminsOk : Int → Bool) (g : Graph) : Graph :=
  { g with
    cached := g.account
    friend := fun x y => (g.account x).isSome ∧ relationshipOk x ∧ g.Related x y
    admin := fun x y =>
      (g.account x).isSome ∧ x ≥ groupIdBoundary ∧ adminsOk x ∧ g.appointed x y }

end Graph

/-- The operations on the graph that a handler can perform. -/
inductive GraphOp where
  | enrol (id owner : Int)
  | link (small great : Int)
  | unlink (small great : Int)
  | appoint (group member : Int)
  | dismiss (group member : Int)
  | ask (key : Int) (row : FriendRequestRow)
  | decide (key status : Int)
deriving DecidableEq, Repr

def GraphOp.apply : GraphOp → Graph → Graph
  | .enrol id owner => Graph.enrol id owner
  | .link small great => Graph.link small great
  | .unlink small great => Graph.unlink small great
  | .appoint group member => Graph.appoint group member
  | .dismiss group member => Graph.dismiss group member
  | .ask key row => Graph.ask key row
  | .decide key status => Graph.decide key status

/-- Operations in order. -/
def Graph.perform (ops : List GraphOp) (g : Graph) : Graph :=
  ops.foldl (fun g op => op.apply g) g

namespace Graph

@[simp] theorem perform_nil (g : Graph) : g.perform [] = g := rfl

@[simp] theorem perform_cons (op : GraphOp) (rest : List GraphOp) (g : Graph) :
    g.perform (op :: rest) = (op.apply g).perform rest := rfl

theorem perform_append (first second : List GraphOp) (g : Graph) :
    g.perform (first ++ second) = (g.perform first).perform second := by
  simp [perform, List.foldl_append]

/-! ### What an operation can add -/

variable {g : Graph} {a b : Int}

theorem Related.symm (related : g.Related a b) : g.Related b a :=
  Or.symm related

theorem related_link {small great : Int} :
    (g.link small great).Related a b ↔ g.Related a b ∨ SamePair small great a b := by
  simp only [Related, link, SamePair, List.mem_append, List.mem_singleton, Prod.mk.injEq]
  tauto

/-- A pair other than the one that is removed stays related. -/
theorem related_unlink {small great : Int} (other : ¬ SamePair small great a b)
    (related : g.Related a b) : (g.unlink small great).Related a b := by
  simp only [Related, unlink, SamePair, List.mem_filter, decide_eq_true_eq, ne_eq,
    Prod.mk.injEq] at *
  tauto

theorem related_of_unlink {small great : Int} (related : (g.unlink small great).Related a b) :
    g.Related a b := by
  simp only [Related, unlink, List.mem_filter] at *
  tauto

/-- Only a link relates two ids anew. -/
theorem related_of_perform {ops : List GraphOp} (related : (g.perform ops).Related a b) :
    g.Related a b ∨ ∃ small great, GraphOp.link small great ∈ ops ∧ SamePair small great a b := by
  induction ops generalizing g with
  | nil => exact Or.inl related
  | cons op rest inductionHypothesis =>
      rcases inductionHypothesis related with before | ⟨small, great, member, same⟩
      · cases op with
        | link small great =>
            rcases related_link.mp before with old | new
            · exact Or.inl old
            · exact Or.inr ⟨small, great, List.mem_cons_self, new⟩
        | unlink small great => exact Or.inl (related_of_unlink before)
        | _ => exact Or.inl before
      · exact Or.inr ⟨small, great, List.mem_cons_of_mem _ member, same⟩

/-- Only a link puts an id into a friend set. -/
theorem friend_of_perform {ops : List GraphOp} (friend : (g.perform ops).friend a b) :
    g.friend a b ∨ ∃ small great, GraphOp.link small great ∈ ops ∧ SamePair small great a b := by
  induction ops generalizing g with
  | nil => exact Or.inl friend
  | cons op rest inductionHypothesis =>
      rcases inductionHypothesis friend with before | ⟨small, great, member, same⟩
      · cases op with
        | link small great =>
            rcases before with old | ⟨-, -, new⟩
            · exact Or.inl old
            · exact Or.inr ⟨small, great, List.mem_cons_self, new⟩
        | unlink small great => exact Or.inl before.1
        | _ => exact Or.inl before
      · exact Or.inr ⟨small, great, List.mem_cons_of_mem _ member, same⟩

/-- Only a link adds a row. -/
theorem links_of_perform {ops : List GraphOp} {row : Int × Int}
    (listed : row ∈ (g.perform ops).links) :
    row ∈ g.links ∨ GraphOp.link row.1 row.2 ∈ ops := by
  induction ops generalizing g with
  | nil => exact Or.inl listed
  | cons op rest inductionHypothesis =>
      rcases inductionHypothesis listed with before | later
      · cases op with
        | link small great =>
            rcases List.mem_append.mp before with old | new
            · exact Or.inl old
            · rw [List.mem_singleton.mp new]
              exact Or.inr List.mem_cons_self
        | unlink small great => exact Or.inl (List.mem_of_mem_filter before)
        | _ => exact Or.inl before
      · exact Or.inr (List.mem_cons_of_mem _ later)

/-! ### What an operation can take away -/

/-- Only an unlink of the pair ends a relation in the tables. -/
theorem related_perform {ops : List GraphOp}
    (kept : ∀ small great, GraphOp.unlink small great ∈ ops → ¬ SamePair small great a b)
    (related : g.Related a b) : (g.perform ops).Related a b := by
  induction ops generalizing g with
  | nil => exact related
  | cons op rest inductionHypothesis =>
      refine inductionHypothesis (fun small great member =>
        kept small great (List.mem_cons_of_mem _ member)) ?_
      cases op with
      | link small great => exact related_link.mpr (Or.inl related)
      | unlink small great => exact related_unlink (kept small great List.mem_cons_self) related
      | _ => exact related

/-- Only an unlink of the pair takes an id out of a friend set. -/
theorem friend_perform {ops : List GraphOp}
    (kept : ∀ small great, GraphOp.unlink small great ∈ ops → ¬ SamePair small great a b)
    (friend : g.friend a b) : (g.perform ops).friend a b := by
  induction ops generalizing g with
  | nil => exact friend
  | cons op rest inductionHypothesis =>
      refine inductionHypothesis (fun small great member =>
        kept small great (List.mem_cons_of_mem _ member)) ?_
      cases op with
      | link small great => exact Or.inl friend
      | unlink small great => exact ⟨friend, kept small great List.mem_cons_self⟩
      | _ => exact friend

/-- Accounts are never removed and keep their owner. -/
theorem account_perform {ops : List GraphOp} {id owner : Int}
    (known : g.account id = some owner) : (g.perform ops).account id = some owner := by
  induction ops generalizing g with
  | nil => exact known
  | cons op rest inductionHypothesis =>
      apply inductionHypothesis
      cases op <;> simp [GraphOp.apply, enrol, link, unlink, appoint, dismiss, ask, decide, known]

/-- Records are never removed. -/
theorem cached_perform {ops : List GraphOp} {id owner : Int}
    (known : g.cached id = some owner) : (g.perform ops).cached id = some owner := by
  induction ops generalizing g with
  | nil => exact known
  | cons op rest inductionHypothesis =>
      apply inductionHypothesis
      cases op <;> simp [GraphOp.apply, enrol, link, unlink, appoint, dismiss, ask, decide, known]

end Graph

end AimServer
