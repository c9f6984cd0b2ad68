import AimServer.Agent.HistorySections
import AimServer.Properties.CacheBackends

/-!
Contract: no appended message is lost.

Owns: the account of the calls that run, what the history of a user holds while
his calls come one at a time, how much shorter it stays once two of them
overlap, and the run in which a message is lost.

Redis appends in one transaction. Here a call that starts while another one for
the same user is between its sections reads a history without the message of
that call, and the later of the two stores it.
-/

namespace AimServer.HistoryCalls

open AimServer.Lib AimServer.Backends

section Steps

variable {json : MessageJson} {maxLen : Nat} {userID : Int} {s : HistoryCalls}

/-! ### The calls -/

/-- Every call has its own number, and is between its sections or has stored. -/
structure Accounted (s : HistoryCalls) : Prop where
  numbered : s.started.map AppendCall.number = List.range s.started.length
  perm : s.started.Perm (s.stored ++ s.between.map Appending.call)

namespace Accounted

variable (accounted : Accounted s)

include accounted

theorem nodup : (s.stored ++ s.between.map Appending.call).Nodup := by
  apply accounted.perm.nodup
  apply List.Nodup.of_map AppendCall.number
  rw [accounted.numbered]
  exact List.nodup_range

theorem numbers_nodup :
    (s.between.map fun appending => appending.call.number).Nodup := by
  have all := (accounted.perm.map AppendCall.number).nodup
    (by rw [accounted.numbered]; exact List.nodup_range)
  rw [List.map_append, List.map_map] at all
  exact (List.nodup_append.mp all).2.1

theorem mem_started {call : AppendCall} (member : call ∈ s.stored) : call ∈ s.started :=
  accounted.perm.mem_iff.mpr (List.mem_append_left _ member)

/-- The call that stores, and those that stay between their sections. -/
theorem perm_found {number : Nat} {appending : Appending}
    (found : s.between.find? (fun appending => appending.call.number = number) = some appending) :
    s.between.Perm
      (appending :: s.between.filter fun appending => appending.call.number ≠ number) := by
  obtain ⟨isNumber, before, after, split, none⟩ := List.find?_eq_some_iff_append.mp found
  have distinct := accounted.numbers_nodup
  rw [split, List.map_append, List.map_cons] at distinct
  have apart := (List.nodup_cons.mp (List.nodup_append.mp distinct).2.1).1
  have keptBefore : before.filter (fun appending => appending.call.number ≠ number) = before := by
    apply List.filter_eq_self.mpr
    intro other member
    simpa using none other member
  have keptAfter : after.filter (fun appending => appending.call.number ≠ number) = after := by
    apply List.filter_eq_self.mpr
    intro other member
    rw [decide_eq_true_eq]
    intro same
    apply apart
    rw [of_decide_eq_true isNumber, ← same]
    exact List.mem_map_of_mem member
  rw [split, List.filter_append, List.filter_cons_of_neg (by simpa using isNumber), keptBefore,
    keptAfter]
  exact List.perm_middle

end Accounted

/-- What the second section of a call does, or that there is no such call. -/
theorem step_storeHistory (json : MessageJson) (maxLen : Nat) (accounted : Accounted s)
    (number : Nat) :
    s.step json maxLen (.storeHistory number) = s ∨
      ∃ appending rest, s.between.Perm (appending :: rest) ∧
        s.step json maxLen (.storeHistory number) =
          { s with
            memory := s.memory.storeHistory json appending.call.userID appending.msgs
              appending.call.msg maxLen
            between := rest
            stored := s.stored ++ [appending.call] } := by
  unfold step
  dsimp only
  cases found : s.between.find? fun appending => appending.call.number = number with
  | none => exact Or.inl rfl
  | some appending => exact Or.inr ⟨appending, _, accounted.perm_found found, rfl⟩

theorem Accounted.step (accounted : Accounted s) (label : HistorySection) :
    Accounted (s.step json maxLen label) := by
  cases label with
  | getHistory other limit => exact accounted
  | readHistory other msg =>
      constructor
      · show (s.started ++ [_]).map AppendCall.number = List.range (s.started ++ [_]).length
        rw [List.map_append, accounted.numbered, List.length_append, List.length_singleton,
          List.range_succ]
        rfl
      · show (s.started ++ [_]).Perm (s.stored ++ (s.between ++ [_]).map Appending.call)
        rw [List.map_append, ← List.append_assoc]
        exact accounted.perm.append_right _
  | storeHistory number =>
      rcases step_storeHistory json maxLen accounted number with
        same | ⟨appending, rest, split, same⟩
      · rw [same]
        exact accounted
      · rw [same]
        refine ⟨accounted.numbered, accounted.perm.trans ?_⟩
        show (s.stored ++ s.between.map Appending.call).Perm
          (s.stored ++ [appending.call] ++ rest.map Appending.call)
        rw [List.append_assoc]
        exact (split.map Appending.call).append_left _

theorem accounted_run (json : MessageJson) (maxLen : Nat) (labels : List HistorySection) :
    Accounted (run (HistoryCalls.step json maxLen) new labels) :=
  run_keeps Accounted (fun _ label accounted => accounted.step label) ⟨rfl, .refl _⟩

/-! ### What a call stores -/

theorem historyKey_injective : Function.Injective historyKey := by
  intro first second same
  exact intText_injective (List.append_cancel_left same)

theorem messagesOf_storeHistory_eq (json : MessageJson) (maxLen : Nat) (userID : Int)
    (msgs : List Message) (msg : Message) (m : MemoryCache) :
    messagesOf json userID (m.storeHistory json userID msgs msg maxLen) =
      json.unmarshalList (json.marshalList (lastOf maxLen (msgs ++ [msg]))) := by
  have cut : (if (msgs ++ [msg]).length > maxLen then lastOf maxLen (msgs ++ [msg])
      else msgs ++ [msg]) = lastOf maxLen (msgs ++ [msg]) := by
    split
    · rfl
    · rename_i short
      rw [lastOf_of_length_le (not_lt.mp short)]
  unfold messagesOf MemoryCache.storeHistory
  dsimp only
  rw [lookup_put_self, cut]

theorem messagesOf_storeHistory (laws : JsonLaws json) (msgs : List Message) (msg : Message)
    (m : MemoryCache) :
    messagesOf json userID (m.storeHistory json userID msgs msg maxLen) =
      (lastOf maxLen (msgs ++ [msg])).map laws.clean := by
  rw [messagesOf_storeHistory_eq]
  exact laws.list _

theorem messagesOf_storeHistory_ne {other : Int} (different : other ≠ userID)
    (msgs : List Message) (msg : Message) (m : MemoryCache) :
    messagesOf json userID (m.storeHistory json other msgs msg maxLen) =
      messagesOf json userID m := by
  unfold messagesOf MemoryCache.storeHistory
  dsimp only
  rw [lookup_put_ne _ _ fun same => different (historyKey_injective same).symm]

/-! ### One call at a time -/

theorem length_lastOf_le {α : Type} (limit : Nat) (items : List α) :
    (lastOf limit items).length ≤ limit := by
  rw [lastOf, List.length_drop]
  omega

/-- The history holds what the stored calls appended, and a call between its
sections is the only one for the user and has read what is there. -/
structure Serial (laws : JsonLaws json) (maxLen : Nat) (userID : Int) (s : HistoryCalls) :
    Prop where
  shown : messagesOf json userID s.memory =
    lastOf maxLen ((callsOf userID s.stored).map fun call => laws.clean call.msg)
  current : ∀ appending ∈ s.between, appending.call.userID = userID →
    appending.msgs = lastOf maxLen (messagesOf json userID s.memory)
  single : (s.between.filter fun appending => appending.call.userID = userID).length ≤ 1

theorem callsOf_append_own {call : AppendCall} (own : call.userID = userID)
    (calls : List AppendCall) :
    callsOf userID (calls ++ [call]) = callsOf userID calls ++ [call] := by
  rw [callsOf, List.filter_append, List.filter_cons_of_pos (by simpa using own)]
  rfl

theorem callsOf_append_other {call : AppendCall} (other : call.userID ≠ userID)
    (calls : List AppendCall) : callsOf userID (calls ++ [call]) = callsOf userID calls := by
  rw [callsOf, List.filter_append, List.filter_cons_of_neg (by simpa using other)]
  exact List.append_nil _

theorem Serial.storeHistory {laws : JsonLaws json} (serial : Serial laws maxLen userID s)
    {appending : Appending} {rest : List Appending} (split : s.between.Perm (appending :: rest)) :
    Serial laws maxLen userID
      { s with
        memory := s.memory.storeHistory json appending.call.userID appending.msgs
          appending.call.msg maxLen
        between := rest
        stored := s.stored ++ [appending.call] } := by
  have member : appending ∈ s.between := split.mem_iff.mpr List.mem_cons_self
  have count := (split.filter fun appending => appending.call.userID = userID).length_eq
  by_cases own : appending.call.userID = userID
  · rw [List.filter_cons_of_pos (by simpa using own), List.length_cons] at count
    have others : rest.filter (fun appending => appending.call.userID = userID) = [] := by
      apply List.eq_nil_of_length_eq_zero
      have := serial.single
      omega
    constructor
    · dsimp only
      have cleaned : ∀ calls : List AppendCall,
          (calls.map fun call => laws.clean call.msg).map laws.clean =
            calls.map fun call => laws.clean call.msg := by
        intro calls
        rw [List.map_map]
        exact List.map_congr_left fun call _ => laws.clean_clean call.msg
      rw [own, messagesOf_storeHistory laws, serial.current appending member own, serial.shown,
        callsOf_append_own own, List.map_append, map_lastOf, List.map_append, map_lastOf,
        map_lastOf, cleaned]
      rw [lastOf_of_length_le (length_lastOf_le maxLen _)]
      exact lastOf_lastOf_append _ _
    · intro other isOther isOwn
      have isFound : other ∈ rest.filter fun appending => appending.call.userID = userID :=
        List.mem_filter.mpr ⟨isOther, decide_eq_true isOwn⟩
      rw [others] at isFound
      cases isFound
    · show (rest.filter _).length ≤ 1
      rw [others]
      exact Nat.zero_le _
  · rw [List.filter_cons_of_neg (by simpa using own)] at count
    have same : messagesOf json userID (s.memory.storeHistory json appending.call.userID
        appending.msgs appending.call.msg maxLen) = messagesOf json userID s.memory :=
      messagesOf_storeHistory_ne own _ _ _
    constructor
    · dsimp only
      rw [same, callsOf_append_other own]
      exact serial.shown
    · intro other isOther isOwn
      dsimp only
      rw [same]
      exact serial.current other (split.mem_iff.mpr (List.mem_cons_of_mem _ isOther)) isOwn
    · show (rest.filter _).length ≤ 1
      rw [← count]
      exact serial.single

theorem Serial.step {laws : JsonLaws json} (accounted : Accounted s)
    (serial : Serial laws maxLen userID s) (label : HistorySection)
    (admitted : s.alone userID label = true) :
    Serial laws maxLen userID (s.step json maxLen label) := by
  cases label with
  | getHistory other limit => exact serial
  | readHistory other msg =>
      have noOther : other = userID → ∀ appending ∈ s.between, appending.call.userID ≠ userID :=
        (of_decide_eq_true admitted).resolve_left ∘ not_not.mpr
      refine ⟨serial.shown, ?_, ?_⟩
      · intro appending member own
        rcases List.mem_append.mp member with before | last
        · exact serial.current appending before own
        · obtain rfl := List.mem_singleton.mp last
          cases own
          exact memory_getHistory_eq _ _ _
      · show ((s.between ++ [_]).filter _).length ≤ 1
        rw [List.filter_append]
        by_cases own : other = userID
        · rw [List.filter_eq_nil_iff.mpr fun appending member => by
            simpa using noOther own appending member]
          exact List.length_filter_le _ _
        · rw [List.filter_cons_of_neg (by simpa using own), List.filter_nil, List.append_nil]
          exact serial.single
  | storeHistory number =>
      rcases step_storeHistory json maxLen accounted number with
        same | ⟨appending, rest, split, same⟩
      · rw [same]
        exact serial
      · rw [same]
        exact serial.storeHistory split

/-! ### Two calls at a time -/

/-- Nobody reads more messages than calls have stored. -/
structure Bounded (json : MessageJson) (userID : Int) (s : HistoryCalls) : Prop where
  shown : (messagesOf json userID s.memory).length ≤ (callsOf userID s.stored).length
  read : ∀ appending ∈ s.between, appending.call.userID = userID →
    appending.msgs.length ≤ (callsOf userID s.stored).length

/-- The history lacks a message, or will lack one: two calls are between their
sections, or one call there has read less than is stored. -/
inductive Behind (json : MessageJson) (userID : Int) (s : HistoryCalls) : Prop
  | overlap (first second : Appending) (isFirst : first ∈ s.between)
      (isSecond : second ∈ s.between) (different : first ≠ second)
      (firstOwn : first.call.userID = userID) (secondOwn : second.call.userID = userID)
  | stale (appending : Appending) (member : appending ∈ s.between)
      (own : appending.call.userID = userID)
      (less : appending.msgs.length < (callsOf userID s.stored).length)
  | lost (less : (messagesOf json userID s.memory).length < (callsOf userID s.stored).length)
      (read : ∀ appending ∈ s.between, appending.call.userID = userID →
        appending.msgs.length < (callsOf userID s.stored).length)

theorem length_getHistory_le (limit : Nat) (m : MemoryCache) :
    (m.getHistory json userID limit).length ≤ (messagesOf json userID m).length := by
  rw [memory_getHistory_eq, lastOf, List.length_drop]
  exact Nat.sub_le _ _

theorem length_storeHistory_le (laws : JsonLaws json) (maxLen : Nat) (userID : Int)
    (msgs : List Message) (msg : Message) (m : MemoryCache) :
    (messagesOf json userID (m.storeHistory json userID msgs msg maxLen)).length ≤
      msgs.length + 1 := by
  rw [messagesOf_storeHistory laws, List.length_map, lastOf, List.length_drop,
    List.length_append, List.length_singleton]
  exact Nat.sub_le _ _

theorem length_callsOf_append_own {call : AppendCall} (own : call.userID = userID)
    (calls : List AppendCall) :
    (callsOf userID (calls ++ [call])).length = (callsOf userID calls).length + 1 := by
  rw [callsOf_append_own own, List.length_append, List.length_singleton]

theorem Bounded.step (laws : JsonLaws json) (maxLen : Nat) (accounted : Accounted s)
    (bounded : Bounded json userID s) (label : HistorySection) :
    Bounded json userID (s.step json maxLen label) := by
  cases label with
  | getHistory other limit => exact bounded
  | readHistory other msg =>
      refine ⟨bounded.shown, ?_⟩
      intro appending member own
      rcases List.mem_append.mp member with before | last
      · exact bounded.read appending before own
      · obtain rfl := List.mem_singleton.mp last
        cases own
        exact (length_getHistory_le maxLen s.memory).trans bounded.shown
  | storeHistory number =>
      rcases step_storeHistory json maxLen accounted number with
        same | ⟨appending, rest, split, same⟩
      · rw [same]
        exact bounded
      · rw [same]
        have isThere : appending ∈ s.between := split.mem_iff.mpr List.mem_cons_self
        by_cases own : appending.call.userID = userID
        · have more := length_callsOf_append_own own s.stored
          constructor
          · dsimp only
            have read := bounded.read appending isThere own
            have stores := length_storeHistory_le laws maxLen userID appending.msgs
              appending.call.msg s.memory
            rw [own, more]
            omega
          · intro other member isOwn
            dsimp only
            have isThere : other ∈ s.between := split.mem_iff.mpr (List.mem_cons_of_mem _ member)
            have read := bounded.read other isThere isOwn
            rw [more]
            omega
        · constructor
          · dsimp only
            rw [messagesOf_storeHistory_ne own, callsOf_append_other own]
            exact bounded.shown
          · intro other member isOwn
            dsimp only
            rw [callsOf_append_other own]
            exact bounded.read other (split.mem_iff.mpr (List.mem_cons_of_mem _ member)) isOwn

/-- The call that stores adds one message to those it read, and all others
between their sections have then read too little. -/
theorem Behind.storeHistory (laws : JsonLaws json) (bounded : Bounded json userID s)
    (behind : Behind json userID s) {appending : Appending} {rest : List Appending}
    (split : s.between.Perm (appending :: rest)) :
    Behind json userID
      { s with
        memory := s.memory.storeHistory json appending.call.userID appending.msgs
          appending.call.msg maxLen
        between := rest
        stored := s.stored ++ [appending.call] } := by
  have stays : ∀ other ∈ s.between, other ≠ appending → other ∈ rest := by
    intro other member different
    exact (List.mem_cons.mp (split.mem_iff.mp member)).resolve_left different
  have wasThere : ∀ other ∈ rest, other ∈ s.between := by
    intro other member
    exact split.mem_iff.mpr (List.mem_cons_of_mem _ member)
  by_cases own : appending.call.userID = userID
  · have more := length_callsOf_append_own own s.stored
    have stale : ∀ other ∈ s.between, other.call.userID = userID →
        other.msgs.length < (callsOf userID (s.stored ++ [appending.call])).length := by
      intro other member isOwn
      have read := bounded.read other member isOwn
      omega
    have lost : appending.msgs.length < (callsOf userID s.stored).length →
        Behind json userID
          { s with
            memory := s.memory.storeHistory json appending.call.userID appending.msgs
              appending.call.msg maxLen
            between := rest
            stored := s.stored ++ [appending.call] } := by
      intro less
      refine .lost ?_ fun other member isOwn => stale other (wasThere other member) isOwn
      have stores := length_storeHistory_le laws maxLen userID appending.msgs appending.call.msg
        s.memory
      dsimp only
      rw [own, more]
      omega
    cases behind with
    | overlap first second isFirst isSecond different firstOwn secondOwn =>
        by_cases isAppending : first = appending
        · have other : second ≠ appending := fun same => different (isAppending.trans same.symm)
          exact .stale second (stays second isSecond other) secondOwn
            (stale second isSecond secondOwn)
        · exact .stale first (stays first isFirst isAppending) firstOwn
            (stale first isFirst firstOwn)
    | stale found member isOwn less =>
        by_cases isAppending : found = appending
        · subst isAppending
          exact lost less
        · exact .stale found (stays found member isAppending) isOwn (stale found member isOwn)
    | lost less read => exact lost (read appending (split.mem_iff.mpr List.mem_cons_self) own)
  · have sameCalls := callsOf_append_other own s.stored
    have apart : ∀ other : Appending, other.call.userID = userID → other ≠ appending := by
      intro other isOwn same
      exact own (same ▸ isOwn)
    cases behind with
    | overlap first second isFirst isSecond different firstOwn secondOwn =>
        exact .overlap first second (stays first isFirst (apart first firstOwn))
          (stays second isSecond (apart second secondOwn)) different firstOwn secondOwn
    | stale found member isOwn less =>
        exact .stale found (stays found member (apart found isOwn)) isOwn (sameCalls ▸ less)
    | lost less read =>
        refine .lost ?_ ?_
        · dsimp only
          rw [messagesOf_storeHistory_ne own, sameCalls]
          exact less
        · intro other member isOwn
          dsimp only
          rw [sameCalls]
          exact read other (wasThere other member) isOwn

theorem Behind.step (laws : JsonLaws json) (accounted : Accounted s)
    (bounded : Bounded json userID s) (behind : Behind json userID s) (label : HistorySection) :
    Behind json userID (s.step json maxLen label) := by
  cases label with
  | getHistory other limit => exact behind
  | readHistory other msg =>
      cases behind with
      | overlap first second isFirst isSecond different firstOwn secondOwn =>
          exact .overlap first second (List.mem_append_left _ isFirst)
            (List.mem_append_left _ isSecond) different firstOwn secondOwn
      | stale found member isOwn less =>
          exact .stale found (List.mem_append_left _ member) isOwn less
      | lost less read =>
          refine .lost less ?_
          intro appending member own
          rcases List.mem_append.mp member with before | last
          · exact read appending before own
          · obtain rfl := List.mem_singleton.mp last
            cases own
            exact (length_getHistory_le maxLen s.memory).trans_lt less
  | storeHistory number =>
      rcases step_storeHistory json maxLen accounted number with
        same | ⟨appending, rest, split, same⟩
      · rw [same]
        exact behind
      · rw [same]
        exact behind.storeHistory laws bounded split

/-- The second call to start overlaps with the first one. -/
theorem behind_of_not_alone (accounted : Accounted s) (label : HistorySection)
    (overlaps : s.alone userID label ≠ true) : Behind json userID (s.step json maxLen label) := by
  cases label with
  | getHistory other limit => exact absurd rfl overlaps
  | storeHistory number => exact absurd rfl overlaps
  | readHistory other msg =>
      have both : other = userID ∧ ∃ appending ∈ s.between, appending.call.userID = userID := by
        simpa [alone, and_comm] using overlaps
      obtain ⟨isUser, appending, member, own⟩ := both
      refine .overlap appending _ (List.mem_append_left _ member)
        (List.mem_append_right _ (List.mem_singleton_self _)) ?_ own isUser
      intro same
      have isStarted : appending.call ∈ s.started :=
        accounted.perm.mem_iff.mpr
          (List.mem_append_right _ (List.mem_map_of_mem member))
      have isNumber : appending.call.number ∈ List.range s.started.length := by
        rw [← accounted.numbered]
        exact List.mem_map_of_mem isStarted
      rw [same] at isNumber
      exact lt_irrefl _ (List.mem_range.mp isNumber)

end Steps

/-! ### Runs -/

/-- The history of the user is the end of the messages appended for him, in an
order in which no call comes after one that started when it had returned. -/
def Survives {json : MessageJson} (laws : JsonLaws json) (maxLen : Nat)
    (labels : List HistorySection) (userID : Int) : Prop :=
  ∃ order : List AppendCall,
    order.Perm (callsOf userID (run (step json maxLen) new labels).started) ∧
    order.Pairwise (fun first second => ¬ ReturnedBefore json maxLen labels second first) ∧
    messagesOf json userID (run (step json maxLen) new labels).memory =
      lastOf maxLen (order.map fun call => laws.clean call.msg)

section Runs

variable {json : MessageJson} {maxLen : Nat} {userID : Int} {labels : List HistorySection}

/-- Calls are only added to those that have stored. -/
theorem stored_prefix (json : MessageJson) (maxLen : Nat) (s : HistoryCalls)
    (labels : List HistorySection) :
    s.stored <+: (run (step json maxLen) s labels).stored := by
  refine run_keeps (fun later : HistoryCalls => s.stored <+: later.stored) ?_
    (List.prefix_refl _)
  intro later label before
  cases label with
  | getHistory other limit => exact before
  | readHistory other msg => exact before
  | storeHistory number =>
      unfold step
      dsimp only
      split
      · exact before
      · exact before.trans (List.prefix_append _ _)

/-- The order in which the calls store agrees with the order in which they
return and start. -/
theorem stored_pairwise (json : MessageJson) (maxLen : Nat) (labels : List HistorySection) :
    (run (step json maxLen) new labels).stored.Pairwise
      (fun first second => ¬ ReturnedBefore json maxLen labels second first) := by
  rw [List.pairwise_iff_getElem]
  rintro i j low high less ⟨past, rest, rfl, isStored, notStarted⟩
  obtain ⟨tail, split⟩ := stored_prefix json maxLen
    (run (step json maxLen) new past) rest
  rw [← run_append] at split
  have accounted := accounted_run json maxLen past
  have distinct := (accounted_run json maxLen (past ++ rest)).nodup.sublist
    (List.sublist_append_left _ _)
  obtain ⟨k, isLess, same⟩ := List.getElem_of_mem isStored
  have atEnd : (run (step json maxLen) new (past ++ rest)).stored[k]? =
      (run (step json maxLen) new (past ++ rest)).stored[j]? := by
    rw [← split, List.getElem?_append_left isLess, List.getElem?_eq_getElem isLess, same, split,
      List.getElem?_eq_getElem high]
  have isSecond : k = j := by
    have long : k < (run (step json maxLen) new (past ++ rest)).stored.length := by
      rw [← split, List.length_append]
      omega
    exact (List.getElem?_inj long distinct).mp atEnd
  apply notStarted
  apply accounted.mem_started
  have isFirst : (run (step json maxLen) new (past ++ rest)).stored[i]? =
      (run (step json maxLen) new past).stored[i]? := by
    rw [← split, List.getElem?_append_left (by omega)]
  rw [List.getElem?_eq_getElem low] at isFirst
  exact List.mem_of_getElem? isFirst.symm

theorem serial_run (laws : JsonLaws json)
    (all : AllSteps (step json maxLen) (fun s label => s.alone userID label = true) new labels) :
    Serial laws maxLen userID (run (step json maxLen) new labels) := by
  refine (run_invariant (fun s => Accounted s ∧ Serial laws maxLen userID s) ?_ ?_ all).2
  · intro s label holds admitted
    exact ⟨holds.1.step label, holds.2.step holds.1 label admitted⟩
  · refine ⟨⟨rfl, .refl _⟩, ⟨?_, fun _ member => absurd member List.not_mem_nil, Nat.zero_le _⟩⟩
    exact (List.drop_nil).symm

theorem behind_run (laws : JsonLaws json) {s : HistoryCalls} (accounted : Accounted s)
    (bounded : Bounded json userID s)
    (overlaps : ¬ AllSteps (step json maxLen) (fun s label => s.alone userID label = true) s
      labels) : Behind json userID (run (step json maxLen) s labels) := by
  induction labels generalizing s with
  | nil => exact absurd trivial overlaps
  | cons label rest inductionHypothesis =>
      have nextAccounted : Accounted (s.step json maxLen label) := accounted.step label
      have nextBounded := bounded.step laws maxLen accounted label
      by_cases first : s.alone userID label = true
      · exact inductionHypothesis nextAccounted nextBounded fun all => overlaps ⟨first, all⟩
      · refine (run_keeps (fun s => Accounted s ∧ Bounded json userID s ∧ Behind json userID s) ?_
          ⟨nextAccounted, nextBounded, behind_of_not_alone accounted label first⟩).2.2
        intro s label holds
        exact ⟨holds.1.step label, holds.2.1.step laws maxLen holds.1 label,
          holds.2.2.step laws holds.1 holds.2.1 label⟩

end Runs

/-- While no call for a user starts between the sections of another one for him,
his messages survive; as long as they all fit, only then. -/
theorem appends_survive_iff {json : MessageJson} (laws : JsonLaws json) (maxLen : Nat)
    (userID : Int) (labels : List HistorySection)
    (returned : (run (step json maxLen) new labels).between = []) :
    (AllSteps (step json maxLen) (fun s label => s.alone userID label = true) new labels →
        Survives laws maxLen labels userID) ∧
      ((callsOf userID (run (step json maxLen) new labels).started).length ≤ maxLen →
        Survives laws maxLen labels userID →
          AllSteps (step json maxLen) (fun s label => s.alone userID label = true) new labels) := by
  have accounted := accounted_run json maxLen labels
  have allStored : (run (step json maxLen) new labels).started.Perm
      (run (step json maxLen) new labels).stored := by
    have perm := accounted.perm
    rwa [returned, List.map_nil, List.append_nil] at perm
  constructor
  · intro all
    refine ⟨callsOf userID (run (step json maxLen) new labels).stored, ?_, ?_, ?_⟩
    · exact (allStored.filter _).symm
    · exact (stored_pairwise json maxLen labels).filter _
    · exact (serial_run laws all).shown
  · rintro few ⟨order, perm, -, shown⟩
    by_contra overlaps
    have bounded : Bounded json userID new :=
      ⟨Nat.zero_le _, fun _ member => absurd member List.not_mem_nil⟩
    have behind := behind_run laws ⟨rfl, .refl _⟩ bounded overlaps
    have count : (messagesOf json userID (run (step json maxLen) new labels).memory).length =
        (callsOf userID (run (step json maxLen) new labels).stored).length := by
      rw [shown, lastOf_of_length_le, List.length_map, perm.length_eq]
      · exact (allStored.filter _).length_eq
      · rw [List.length_map, perm.length_eq]
        exact few
    cases behind with
    | overlap first second isFirst =>
        rw [returned] at isFirst
        cases isFirst
    | stale appending member =>
        rw [returned] at member
        cases member
    | lost less => omega

namespace Sample

/-- Two calls for one user, one after the other, while one for another user runs. -/
def serial : List HistorySection :=
  [.readHistory 7 Backends.Sample.hello, .readHistory 8 Backends.Sample.hello, .storeHistory 0,
    .getHistory 7 10, .readHistory 7 Backends.Sample.hello, .storeHistory 2, .storeHistory 1]

/-- Two calls for one user that both read before one stores. -/
def overlapping : List HistorySection :=
  [.readHistory 7 Backends.Sample.hello, .readHistory 7 Backends.Sample.hello, .storeHistory 0,
    .storeHistory 1]

end Sample

theorem appends_survive_iff_serial :
    Survives Backends.Sample.laws 100 Sample.serial 7 := by
  have returned : (run (step Backends.Sample.json 100) new Sample.serial).between = [] := by
    decide +kernel
  have all : AllSteps (step Backends.Sample.json 100)
      (fun s label => s.alone 7 label = true) new Sample.serial := by
    decide +kernel
  exact (appends_survive_iff Backends.Sample.laws 100 7 Sample.serial returned).1 all

/-- Of two messages, one is left. -/
theorem overlapping_append_lost :
    ¬ ∀ (json : MessageJson) (laws : JsonLaws json) (maxLen : Nat) (userID : Int)
      (labels : List HistorySection), 0 < maxLen →
      (run (step json maxLen) new labels).between = [] →
      Survives laws maxLen labels userID := by
  intro survive
  have returned : (run (step Backends.Sample.json 100) new Sample.overlapping).between = [] := by
    decide +kernel
  obtain ⟨order, perm, -, shown⟩ := survive Backends.Sample.json Backends.Sample.laws 100 7
    Sample.overlapping (by decide) returned
  have two : order.length = 2 := by
    rw [perm.length_eq]
    decide +kernel
  have one : (messagesOf Backends.Sample.json 7
      (run (step Backends.Sample.json 100) new Sample.overlapping).memory).length = 1 := by
    decide +kernel
  rw [shown, lastOf_of_length_le (by rw [List.length_map]; omega), List.length_map, two] at one
  cases one

end AimServer.HistoryCalls
