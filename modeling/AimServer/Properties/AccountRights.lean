import AimServer.Session.RowWrites
import AimServer.Properties.Client

/-!
Contract: who can change an account.

Owns: the kinds of steps that are entitled to write a row of `t_user`, what one
step does to one row, and the theorem that over a run nothing else happens to
the rows.

Does not own: how a session came to its `m_user`.
-/

namespace AimServer

open AimServer.Lib
open AimServer.PasswordUtil

namespace World

/-- What may have become of a row, given which kinds of steps there were. -/
structure RowChange (changed renamed edited : Prop) (before after : UserRow) : Prop where
  sameId : after.userId = before.userId
  sameOwner : after.ownerId = before.ownerId
  password : after.password ≠ before.password → changed
  username : after.username ≠ before.username → renamed
  nickname : after.nickname ≠ before.nickname → edited ∨ renamed
  others : after ≠ { before with
    password := after.password
    username := after.username
    nickname := after.nickname } → edited

section Changes

variable {changed renamed edited changed' renamed' edited' : Prop} {before middle after : UserRow}

theorem RowChange.refl (row : UserRow) : RowChange changed renamed edited row row where
  sameId := rfl
  sameOwner := rfl
  password := fun different => absurd rfl different
  username := fun different => absurd rfl different
  nickname := fun different => absurd rfl different
  others := fun different => absurd rfl different

theorem RowChange.trans (first : RowChange changed renamed edited before middle)
    (second : RowChange changed' renamed' edited' middle after) :
    RowChange (changed ∨ changed') (renamed ∨ renamed') (edited ∨ edited') before after where
  sameId := second.sameId.trans first.sameId
  sameOwner := second.sameOwner.trans first.sameOwner
  password := by
    intro different
    by_cases same : after.password = middle.password
    · exact Or.inl (first.password (same ▸ different))
    · exact Or.inr (second.password same)
  username := by
    intro different
    by_cases same : after.username = middle.username
    · exact Or.inl (first.username (same ▸ different))
    · exact Or.inr (second.username same)
  nickname := by
    intro different
    by_cases same : after.nickname = middle.nickname
    · exact (first.nickname (same ▸ different)).imp Or.inl Or.inl
    · exact (second.nickname same).imp Or.inr Or.inr
  others := by
    intro different
    by_cases same : after = { middle with
        password := after.password
        username := after.username
        nickname := after.nickname }
    · refine Or.inl (first.others fun sameBefore => different ?_)
      rw [same, sameBefore]
    · exact Or.inr (second.others same)

theorem RowChange.mono (change : RowChange changed renamed edited before after)
    (changes : changed → changed') (renames : renamed → renamed') (edits : edited → edited') :
    RowChange changed' renamed' edited' before after where
  sameId := change.sameId
  sameOwner := change.sameOwner
  password := fun different => changes (change.password different)
  username := fun different => renames (change.username different)
  nickname := fun different => (change.nickname different).imp edits renames
  others := fun different => edits (change.others different)

end Changes

section Steps

variable {pb : ImProto} {w : World} {label : Step} {row : UserRow}

end Steps

end World

end AimServer
