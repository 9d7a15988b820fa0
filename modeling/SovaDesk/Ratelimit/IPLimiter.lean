/-
This file models the sliding-window limiter of addresses, and settles that it is exact.

The limiter keeps the times of the accepted events of each address. It forgets times in several
places: a call that asks about an address drops the times that have left the window, in place, and
a sweep drops whole entries. A time that has left the window never comes back into it, as the clock
does not go backwards, so what counts is decided by the history alone: the calls that were accepted
since the address was last reset.
-/

import SovaDesk.Lib.Slice
import SovaDesk.Lib.System
import SovaDesk.Lib.Table

namespace SovaDesk.Ratelimit

open Transition

/-! ### The limiter -/

/-- The record of an address: the times of its events, and whether and when it was blocked. -/
structure IPEntry where
  timestamps : Slice Int
  blocked : Bool
  blockedAt : Option Int

structure IPLimiter where
  entries : Table String IPEntry
  limit : Int
  window : Int

def newIPLimiter (limit window : Int) : IPLimiter := ⟨∅, limit, window⟩

/-- Whether a time is after the cutoff of a window that ends now. -/
def afterCutoff (window now ts : Int) : Bool := ts > now - window

abbrev IPLimiter.fresh (l : IPLimiter) : Int → Int → Bool := afterCutoff l.window

namespace IPLimiter

/-- `Allow`: whether an event of the address is accepted. -/
def allow (l : IPLimiter) (ip : String) (now : Int) : Bool × IPLimiter :=
  if l.limit ≤ 0 then (true, l)
  else
    let entry := (l.entries.lookup ip).getD ⟨.empty, false, none⟩
    let timestamps := entry.timestamps.retain (l.fresh now)
    if timestamps.length ≥ l.limit then
      let blocked : IPEntry :=
        if entry.blocked then { entry with timestamps := timestamps }
        else ⟨timestamps, true, some now⟩
      (false, { l with entries := l.entries.insert ip blocked })
    else
      let allowed : IPEntry :=
        { entry with
          timestamps := timestamps.append now
          blocked := false }
      (true, { l with entries := l.entries.insert ip allowed })

/-- `IsBlocked`, which drops the times that have left the window. -/
def isBlocked (l : IPLimiter) (ip : String) (now : Int) : Bool × IPLimiter :=
  match l.entries.lookup ip with
  | none => (false, l)
  | some entry =>
    let timestamps := entry.timestamps.retain (l.fresh now)
    (decide (timestamps.length ≥ l.limit),
      { l with entries := l.entries.insert ip { entry with timestamps := timestamps } })

/-- `Reset`. -/
def reset (l : IPLimiter) (ip : String) : IPLimiter :=
  { l with entries := l.entries.erase ip }

/-- `Count`: the events of the address in the window. -/
def count (l : IPLimiter) (ip : String) (now : Int) : Nat :=
  match l.entries.lookup ip with
  | none => 0
  | some entry => entry.timestamps.items.countP (l.fresh now)

/-- `Stats`: how many addresses are tracked and how many of them are blocked. -/
def stats (l : IPLimiter) (now : Int) : Nat × Nat :=
  (l.entries.entries.length, l.entries.entries.countP fun entry =>
    entry.2.timestamps.items.countP (l.fresh now) ≥ l.limit)

/-- `prune`: drop the entries without a time in the window. -/
def prune (l : IPLimiter) (now : Int) : IPLimiter :=
  { l with entries := l.entries.filter fun _ entry =>
      !(entry.timestamps.items.countP (l.fresh now) == 0) }

end IPLimiter

/-! ### Calls -/

/-- A call of the limiter. -/
inductive IPCall
  | allow (ip : String)
  | isBlocked (ip : String)
  | reset (ip : String)
  | count (ip : String)
  | stats
  | prune

/-- A call at a time. -/
structure IPEvent where
  now : Int
  call : IPCall

/-- The limiter after a call. -/
def IPLimiter.after (l : IPLimiter) (event : IPEvent) : IPLimiter :=
  match event.call with
  | .allow ip => (l.allow ip event.now).2
  | .isBlocked ip => (l.isBlocked ip event.now).2
  | .reset ip => l.reset ip
  | .count _ => l
  | .stats => l
  | .prune => l.prune event.now

/-- A limiter and the time of the last call. -/
structure Watched where
  limiter : IPLimiter
  clock : Int

/-- A new limiter and any calls, at times that do not decrease. -/
def watched (limit window : Int) : System Watched IPEvent where
  start s := s.limiter = newIPLimiter limit window
  step s event :=
    if s.clock ≤ event.now then some ⟨s.limiter.after event, event.now⟩ else none

/-- The address of an `Allow` call that returns true. -/
def acceptedAddress (l : IPLimiter) (event : IPEvent) : Option String :=
  match event.call with
  | .allow ip => if (l.allow ip event.now).1 then some ip else none
  | _ => none

/-- The address of a `Reset` call. -/
def resetAddress (event : IPEvent) : Option String :=
  match event.call with
  | .reset ip => some ip
  | _ => none

/-- The times at which calls `Allow(ip)` returned true since the last `Reset(ip)`, the latest
first. -/
def accepted (ip : String) : List (Taken Watched IPEvent) → List Int
  | [] => []
  | step :: earlier =>
    if acceptedAddress step.before.limiter step.label = some ip then
      step.label.now :: accepted ip earlier
    else if resetAddress step.label = some ip then []
    else accepted ip earlier

/-! ### One call -/

/-- A time that is fresh later is fresh now. -/
theorem filter_afterCutoff (window : Int) {now later : Int} (ordered : now ≤ later)
    (times : List Int) :
    (times.filter (afterCutoff window now)).filter (afterCutoff window later) =
      times.filter (afterCutoff window later) := by
  rw [List.filter_filter]
  refine List.filter_congr fun ts _ => ?_
  rw [Bool.and_eq_left_iff_imp]
  intro isFresh
  have after : ts > later - window := of_decide_eq_true isFresh
  exact decide_eq_true (by omega)

variable {l : IPLimiter}

namespace IPLimiter

/-- The times that are kept for an address. -/
def times (l : IPLimiter) (ip : String) : List Int :=
  (l.entries.lookup ip).elim [] fun entry => entry.timestamps.items

theorem times_insert (l : IPLimiter) (ip other : String) (entry : IPEntry) :
    IPLimiter.times { l with entries := l.entries.insert ip entry } other =
      if other = ip then entry.timestamps.items else l.times other := by
  unfold times
  dsimp only
  rw [Table.lookup_insert_if]
  split <;> rfl

theorem length_retain (l : IPLimiter) (now : Int) (entry : IPEntry) :
    (entry.timestamps.retain (l.fresh now)).length =
      (entry.timestamps.items.filter (l.fresh now)).length := by
  rw [← Slice.length_items, Slice.items_retain]

/-- `Allow` returns true exactly when fewer times than the limit are fresh. -/
theorem allow_iff (positive : 0 < l.limit) (ip : String) (now : Int) :
    (l.allow ip now).1 = true ↔ (((l.times ip).filter (l.fresh now)).length : Int) < l.limit := by
  have same : (((l.entries.lookup ip).getD ⟨.empty, false, none⟩).timestamps.retain
      (l.fresh now)).length = ((l.times ip).filter (l.fresh now)).length := by
    rw [length_retain]
    unfold times
    cases l.entries.lookup ip <;> rfl
  unfold allow
  rw [if_neg (not_le.mpr positive)]
  dsimp only
  split
  · exact iff_of_false Bool.false_ne_true (by omega)
  · exact iff_of_true rfl (by omega)

theorem times_allow (positive : 0 < l.limit) (ip other : String) (now : Int) :
    (l.allow ip now).2.times other =
      if other = ip then (l.times ip).filter (l.fresh now) ++
        if (l.allow ip now).1 then [now] else []
      else l.times other := by
  have kept : (((l.entries.lookup ip).getD ⟨.empty, false, none⟩).timestamps.retain
      (l.fresh now)).items = (l.times ip).filter (l.fresh now) := by
    rw [Slice.items_retain]
    unfold times
    cases l.entries.lookup ip <;> rfl
  unfold allow
  rw [if_neg (not_le.mpr positive)]
  dsimp only
  split
  · rw [times_insert]
    refine if_congr Iff.rfl ?_ rfl
    rw [if_neg Bool.false_ne_true, List.append_nil, ← kept]
    split <;> rfl
  · rw [times_insert]
    refine if_congr Iff.rfl ?_ rfl
    rw [Slice.items_append, kept]
    rfl

theorem times_isBlocked (l : IPLimiter) (ip other : String) (now : Int) :
    (l.isBlocked ip now).2.times other =
      if other = ip then (l.times ip).filter (l.fresh now) else l.times other := by
  unfold isBlocked
  cases found : l.entries.lookup ip with
  | none =>
    have none_ : l.times ip = [] := by rw [times, found]; rfl
    dsimp only
    split
    · next same => rw [same, none_, List.filter_nil]
    · rfl
  | some entry =>
    have kept : l.times ip = entry.timestamps.items := by rw [times, found]; rfl
    dsimp only
    rw [times_insert, kept, Slice.items_retain]

theorem times_reset (l : IPLimiter) (ip other : String) :
    (l.reset ip).times other = if other = ip then [] else l.times other := by
  unfold times reset
  dsimp only
  rw [Table.lookup_erase_if]
  split <;> rfl

/-- The sweep drops the times of an address if none of them is fresh. -/
theorem times_prune (l : IPLimiter) (ip : String) (now : Int) :
    (l.prune now).times ip = if (l.times ip).filter (l.fresh now) = [] then [] else l.times ip := by
  have dropped : ∀ entry : IPEntry, (!(entry.timestamps.items.countP (l.fresh now) == 0)) = true ↔
      entry.timestamps.items.filter (l.fresh now) ≠ [] := fun entry => by
    rw [List.countP_eq_length_filter, Bool.not_eq_true', beq_eq_false_iff_ne, Ne,
      List.length_eq_zero_iff]
  unfold times prune
  dsimp only
  cases found : l.entries.lookup ip with
  | none =>
    have none_ : (l.entries.filter fun _ entry =>
        !(entry.timestamps.items.countP (l.fresh now) == 0)).lookup ip = none := by
      by_contra some_
      obtain ⟨entry, isThere⟩ := Option.ne_none_iff_exists'.mp some_
      exact Option.some_ne_none _ ((Table.lookup_filter_iff.mp isThere).1.symm.trans found)
    rw [none_]
    split <;> rfl
  | some entry =>
    by_cases empty : entry.timestamps.items.filter (l.fresh now) = []
    · have none_ : (l.entries.filter fun _ entry =>
          !(entry.timestamps.items.countP (l.fresh now) == 0)).lookup ip = none := by
        by_contra some_
        obtain ⟨other, isThere⟩ := Option.ne_none_iff_exists'.mp some_
        obtain ⟨same, keeps⟩ := Table.lookup_filter_iff.mp isThere
        rw [Option.some.inj (same.symm.trans found)] at keeps
        exact (dropped entry).mp keeps empty
      rw [none_]
      exact (if_pos empty).symm
    · have kept : (l.entries.filter fun _ entry =>
          !(entry.timestamps.items.countP (l.fresh now) == 0)).lookup ip = some entry :=
        Table.lookup_filter_iff.mpr ⟨found, (dropped entry).mpr empty⟩
      rw [kept]
      exact (if_neg empty).symm

theorem count_eq (l : IPLimiter) (ip : String) (now : Int) :
    l.count ip now = ((l.times ip).filter (l.fresh now)).length := by
  unfold count times
  cases l.entries.lookup ip with
  | none => rfl
  | some entry => exact List.countP_eq_length_filter

theorem isBlocked_iff (positive : 0 < l.limit) (ip : String) (now : Int) :
    (l.isBlocked ip now).1 = true ↔ l.count ip now ≥ l.limit := by
  unfold isBlocked count
  cases l.entries.lookup ip with
  | none => exact iff_of_false Bool.false_ne_true (not_le.mpr positive)
  | some entry =>
    dsimp only
    rw [decide_eq_true_iff, length_retain, List.countP_eq_length_filter]

/-- `Stats` counts the tracked addresses that are blocked. -/
theorem stats_eq (l : IPLimiter) (now : Int) :
    (l.stats now).2 = l.entries.keys.countP fun ip => l.count ip now ≥ l.limit := by
  have each : ∀ entry ∈ l.entries.entries, l.count entry.1 now =
      entry.2.timestamps.items.countP (l.fresh now) := fun entry member => by
    rw [count, Table.mem_entries_iff.mp member]
  rw [AList.keys, List.keys, List.countP_map]
  exact List.countP_congr fun entry member => by
    rw [Function.comp_apply, each entry member]

/-- No call changes the limit or the window. -/
theorem after_same (l : IPLimiter) (event : IPEvent) :
    (l.after event).limit = l.limit ∧ (l.after event).window = l.window := by
  obtain ⟨now, call⟩ := event
  cases call with
  | allow ip =>
    show (l.allow ip now).2.limit = l.limit ∧ (l.allow ip now).2.window = l.window
    unfold allow
    dsimp only
    split
    · exact ⟨rfl, rfl⟩
    · split <;> exact ⟨rfl, rfl⟩
  | isBlocked ip =>
    show (l.isBlocked ip now).2.limit = l.limit ∧ (l.isBlocked ip now).2.window = l.window
    unfold isBlocked
    split <;> exact ⟨rfl, rfl⟩
  | reset ip => exact ⟨rfl, rfl⟩
  | count ip => exact ⟨rfl, rfl⟩
  | stats => exact ⟨rfl, rfl⟩
  | prune => exact ⟨rfl, rfl⟩

/-- What a call does to the times of an address that count from then on. -/
theorem filter_times_after (positive : 0 < l.limit) (event : IPEvent) (ip : String)
    {later : Int} (ordered : event.now ≤ later) :
    ((l.after event).times ip).filter (l.fresh later) =
      if acceptedAddress l event = some ip then
        (l.times ip).filter (l.fresh later) ++ [event.now].filter (l.fresh later)
      else if resetAddress event = some ip then []
      else (l.times ip).filter (l.fresh later) := by
  have again := filter_afterCutoff l.window ordered (l.times ip)
  obtain ⟨now, call⟩ := event
  cases call with
  | allow other =>
    have left := times_allow positive other ip now
    have notReset : resetAddress ⟨now, .allow other⟩ ≠ some ip := fun same =>
      Option.some_ne_none ip same.symm
    have address : acceptedAddress l ⟨now, .allow other⟩ =
        if (l.allow other now).1 then some other else none := rfl
    rw [show (l.after ⟨now, .allow other⟩).times ip = _ from left, if_neg notReset, address]
    by_cases same : ip = other
    · rw [if_pos same, ← same]
      cases (l.allow ip now).1 with
      | true => rw [if_pos rfl, if_pos rfl, if_pos rfl, List.filter_append, again]
      | false =>
        rw [if_neg Bool.false_ne_true, if_neg Bool.false_ne_true, List.append_nil, again]
        exact (if_neg (Option.some_ne_none ip).symm).symm
    · rw [if_neg same, if_neg]
      split
      · exact fun found => same (Option.some.inj found).symm
      · exact (Option.some_ne_none ip).symm
  | isBlocked other =>
    have left := times_isBlocked l other ip now
    rw [show (l.after ⟨now, .isBlocked other⟩).times ip = _ from left,
      if_neg (show acceptedAddress l ⟨now, .isBlocked other⟩ ≠ some ip from
        (Option.some_ne_none ip).symm),
      if_neg (show resetAddress ⟨now, .isBlocked other⟩ ≠ some ip from
        (Option.some_ne_none ip).symm)]
    split
    · next same => rw [← same, again]
    · rfl
  | reset other =>
    have left := times_reset l other ip
    rw [show (l.after ⟨now, .reset other⟩).times ip = _ from left,
      if_neg (show acceptedAddress l ⟨now, .reset other⟩ ≠ some ip from
        (Option.some_ne_none ip).symm)]
    have address : resetAddress ⟨now, .reset other⟩ = some other := rfl
    rw [address]
    by_cases same : ip = other
    · rw [if_pos same, if_pos (congrArg some same.symm)]
      rfl
    · rw [if_neg same, if_neg fun found => same (Option.some.inj found).symm]
  | count other => rfl
  | stats => rfl
  | prune =>
    have left := times_prune l ip now
    rw [show (l.after ⟨now, .prune⟩).times ip = _ from left,
      if_neg (show acceptedAddress l ⟨now, .prune⟩ ≠ some ip from (Option.some_ne_none ip).symm),
      if_neg (show resetAddress ⟨now, .prune⟩ ≠ some ip from (Option.some_ne_none ip).symm)]
    split
    · next empty => rw [← again, empty]
    · rfl

end IPLimiter

/-! ### Histories -/

/-- What a limiter knows of the calls so far: of the times at which an address was accepted, those
that can still count. -/
structure Recorded (limit window : Int) (steps : List (Taken Watched IPEvent)) (s : Watched) :
    Prop where
  limited : s.limiter.limit = limit
  windowed : s.limiter.window = window
  past : ∀ ip, ∀ ts ∈ accepted ip steps, ts ≤ s.clock
  kept : ∀ ip now, s.clock ≤ now →
    (s.limiter.times ip).filter (afterCutoff window now) =
      ((accepted ip steps).filter (afterCutoff window now)).reverse

/-- The times in the window that ends now. -/
def within (window now : Int) (times : List Int) : List Int :=
  times.filter fun ts => decide (now - window < ts ∧ ts ≤ now)

theorem within_cons (window now ts : Int) (times : List Int) :
    within window now (ts :: times) =
      if now - window < ts ∧ ts ≤ now then ts :: within window now times
      else within window now times := by
  unfold within
  rw [List.filter_cons]
  by_cases inside : now - window < ts ∧ ts ≤ now
  · rw [if_pos inside, if_pos (decide_eq_true inside)]
  · rw [if_neg inside, if_neg fun holds => inside (of_decide_eq_true holds)]

theorem acceptedAddress_iff {event : IPEvent} {ip : String} :
    acceptedAddress l event = some ip ↔
      event.call = .allow ip ∧ (l.allow ip event.now).1 = true := by
  unfold acceptedAddress
  split
  · next other isAllow =>
    rw [isAllow, Option.ite_none_right_eq_some, Option.some_inj]
    constructor
    · rintro ⟨verdict, rfl⟩
      exact ⟨rfl, verdict⟩
    · rintro ⟨same, verdict⟩
      obtain rfl : other = ip := IPCall.allow.inj same
      exact ⟨verdict, rfl⟩
  · next notAllow =>
    exact iff_of_false (Option.some_ne_none ip).symm fun both => notAllow ip both.1

section histories

variable {limit window : Int} {steps : List (Taken Watched IPEvent)} {s : Watched}

theorem accepted_cons (ip : String) (step : Taken Watched IPEvent)
    (earlier : List (Taken Watched IPEvent)) :
    accepted ip (step :: earlier) =
      if acceptedAddress step.before.limiter step.label = some ip then
        step.label.now :: accepted ip earlier
      else if resetAddress step.label = some ip then []
      else accepted ip earlier := rfl

theorem of_watched_step {before after : Watched} {event : IPEvent}
    (taken : (watched limit window).step before event = some after) :
    before.clock ≤ event.now ∧ after = ⟨before.limiter.after event, event.now⟩ := by
  obtain ⟨ordered, same⟩ := Option.ite_none_right_eq_some.mp taken
  exact ⟨ordered, (Option.some.inj same).symm⟩

theorem recorded_of_history (positive : 0 < limit)
    (history : History (watched limit window) steps s) : Recorded limit window steps s := by
  induction history with
  | @start state initial =>
    have fresh : state.limiter = newIPLimiter limit window := initial
    refine ⟨by rw [fresh]; rfl, by rw [fresh]; rfl,
      fun _ _ member => absurd member List.not_mem_nil, fun ip now _ => ?_⟩
    rw [fresh]
    rfl
  | @step steps before after event earlier taken inductionHypothesis =>
    obtain ⟨limited, windowed, past, kept⟩ := inductionHypothesis
    obtain ⟨ordered, same⟩ := of_watched_step taken
    obtain ⟨sameLimit, sameWindow⟩ := before.limiter.after_same event
    rw [same]
    refine ⟨sameLimit.trans limited, sameWindow.trans windowed, fun ip ts member => ?_,
      fun ip now later => ?_⟩
    · rw [accepted_cons] at member
      dsimp only at member
      split at member
      · rcases List.mem_cons.mp member with now | older
        · exact now.le
        · exact (past ip ts older).trans ordered
      · split at member
        · exact absurd member List.not_mem_nil
        · exact (past ip ts member).trans ordered
    · have step := IPLimiter.filter_times_after (limited.symm ▸ positive) event ip later
      rw [IPLimiter.fresh, windowed, kept ip now (ordered.trans later)] at step
      rw [step, accepted_cons]
      dsimp only
      split
      · rw [List.filter_cons, List.filter_cons]
        split
        · exact (List.reverse_cons ..).symm
        · exact List.append_nil _
      · split <;> rfl

/-- The times that are kept in the window are those that were accepted in it. -/
theorem Recorded.filter_times (recorded : Recorded limit window steps s) (ip : String) {now : Int}
    (ordered : s.clock ≤ now) :
    (s.limiter.times ip).filter (s.limiter.fresh now) =
      (within window now (accepted ip steps)).reverse := by
  rw [IPLimiter.fresh, recorded.windowed, recorded.kept ip now ordered]
  refine congrArg List.reverse (List.filter_congr fun ts member => ?_)
  have past := (recorded.past ip ts member).trans ordered
  rw [afterCutoff]
  exact decide_eq_decide.mpr ⟨fun after => ⟨after, past⟩, fun inside => inside.1⟩

/-- `Allow` returns true exactly when fewer accepted times than the limit are in the window. -/
theorem Recorded.allow_iff (recorded : Recorded limit window steps s) (positive : 0 < limit)
    (ip : String) {now : Int} (ordered : s.clock ≤ now) :
    (s.limiter.allow ip now).1 = true ↔
      ((within window now (accepted ip steps)).length : Int) < limit := by
  rw [IPLimiter.allow_iff (recorded.limited.symm ▸ positive), recorded.filter_times ip ordered,
    List.length_reverse,
    recorded.limited]

/-- No window holds more accepted times than the limit. -/
theorem length_within_le (positive : 0 < limit)
    (history : History (watched limit window) steps s) (ip : String) (now : Int) :
    ((within window now (accepted ip steps)).length : Int) ≤ limit := by
  induction history with
  | start _ => exact Int.le_of_lt positive
  | @step steps before after event earlier taken inductionHypothesis =>
    have recorded := recorded_of_history positive earlier
    obtain ⟨ordered, -⟩ := of_watched_step taken
    rw [accepted_cons]
    dsimp only
    split
    · next address =>
      have allowed := (acceptedAddress_iff.mp address).2
      have fewer := (recorded.allow_iff positive ip ordered).mp allowed
      by_cases inside : now - window < event.now ∧ event.now ≤ now
      · -- The window then holds no earlier time that was not in the window of the call.
        have sublist : (within window now (accepted ip steps)).length ≤
            (within window event.now (accepted ip steps)).length := by
          unfold within
          rw [← List.countP_eq_length_filter, ← List.countP_eq_length_filter]
          refine List.countP_mono_left fun ts member holds => ?_
          have bounds := of_decide_eq_true holds
          have past := recorded.past ip ts member
          exact decide_eq_true ⟨by omega, past.trans ordered⟩
        rw [within_cons, if_pos inside, List.length_cons]
        omega
      · rw [within_cons, if_neg inside]
        exact inductionHypothesis
    · split
      · exact Int.le_of_lt positive
      · exact inductionHypothesis

variable {step : Taken Watched IPEvent}

/-- Any moment of a history ends a history. -/
theorem history_of_append {system : System Watched IPEvent}
    {later earlier : List (Taken Watched IPEvent)}
    (history : History system (later ++ step :: earlier) s) :
    History system earlier step.before ∧
      system.step step.before step.label = some step.after := by
  induction later generalizing s with
  | nil =>
    cases history with
    | step before taken => exact ⟨before, taken⟩
  | cons _ rest inductionHypothesis =>
    cases history with
    | step before _ => exact inductionHypothesis before

/-- The verdict of a call, if it is an `Allow` call. -/
def verdict (step : Taken Watched IPEvent) : Option Bool :=
  match step.label.call with
  | .allow ip => some (step.before.limiter.allow ip step.label.now).1
  | _ => none

theorem verdict_of_allow {ip : String} (isAllow : step.label.call = .allow ip) :
    verdict step = some (step.before.limiter.allow ip step.label.now).1 := by
  rw [verdict, isAllow]

/-- Any call but a `Reset`, and but an `Allow` that returned true. -/
def Idle (step : Taken Watched IPEvent) : Prop :=
  verdict step ≠ some true ∧ ∀ ip, step.label.call ≠ .reset ip

theorem Idle.addresses (idle : Idle step) (ip : String) :
    acceptedAddress step.before.limiter step.label ≠ some ip ∧
      resetAddress step.label ≠ some ip := by
  constructor
  · intro address
    obtain ⟨isAllow, allowed⟩ := acceptedAddress_iff.mp address
    exact idle.1 ((verdict_of_allow isAllow).trans (congrArg some allowed))
  · unfold resetAddress
    split
    · next other isReset => exact absurd isReset (idle.2 other)
    · exact (Option.some_ne_none ip).symm

/-- Some of the calls of a history, where each that is left out is idle. -/
inductive Thinned : List (Taken Watched IPEvent) → List (Taken Watched IPEvent) → Prop
  | nil : Thinned [] []
  | keep {kept all : List (Taken Watched IPEvent)} (step : Taken Watched IPEvent)
      (rest : Thinned kept all) : Thinned (step :: kept) (step :: all)
  | leave {kept all : List (Taken Watched IPEvent)} {step : Taken Watched IPEvent}
      (idle : Idle step) (rest : Thinned kept all) : Thinned kept (step :: all)

/-- Without idle calls the calls that are left have the same verdicts. -/
theorem exists_thinned (positive : 0 < limit)
    (history : History (watched limit window) steps s) {kept : List (Taken Watched IPEvent)}
    (thinned : Thinned kept steps) :
    ∃ others other, History (watched limit window) others other ∧
      others.map Taken.label = kept.map Taken.label ∧ others.map verdict = kept.map verdict ∧
      other.clock ≤ s.clock ∧ ∀ ip, accepted ip others = accepted ip steps := by
  induction history generalizing kept with
  | @start state initial =>
    cases thinned
    exact ⟨[], state, .start initial, rfl, rfl, le_refl _, fun _ => rfl⟩
  | @step steps before after event earlier taken inductionHypothesis =>
    obtain ⟨ordered, same⟩ := of_watched_step taken
    cases thinned with
    | leave idle rest =>
      obtain ⟨others, other, ran, labels, verdicts, clock, times⟩ := inductionHypothesis rest
      refine ⟨others, other, ran, labels, verdicts, ?_, fun ip => ?_⟩
      · rw [same]
        exact clock.trans ordered
      · obtain ⟨notAccepted, notReset⟩ := idle.addresses ip
        rw [accepted_cons, if_neg notAccepted, if_neg notReset, times]
    | keep step rest =>
      obtain ⟨others, other, ran, labels, verdicts, clock, times⟩ := inductionHypothesis rest
      have recorded := recorded_of_history positive earlier
      have recordedOther := recorded_of_history positive ran
      have agree : ∀ ip, (other.limiter.allow ip event.now).1 =
          (before.limiter.allow ip event.now).1 := fun ip => by
        rw [Bool.eq_iff_iff, recordedOther.allow_iff positive ip (clock.trans ordered),
          recorded.allow_iff positive ip ordered, times]
      have moved : (watched limit window).step other event =
          some ⟨other.limiter.after event, event.now⟩ := if_pos (clock.trans ordered)
      refine ⟨_, _, .step ran moved, ?_, ?_, ?_, fun ip => ?_⟩
      · rw [List.map_cons, List.map_cons, labels]
      · have sameVerdict : verdict ⟨other, event, ⟨other.limiter.after event, event.now⟩⟩ =
            verdict ⟨before, event, after⟩ := by
          unfold verdict
          dsimp only
          split
          · rw [agree]
          · rfl
        rw [List.map_cons, List.map_cons, verdicts, sameVerdict]
      · rw [same]
      · have address : acceptedAddress other.limiter event = some ip ↔
            acceptedAddress before.limiter event = some ip := by
          rw [acceptedAddress_iff, acceptedAddress_iff, agree]
        rw [accepted_cons, accepted_cons, times]
        exact if_congr address rfl rfl

end histories

/-- `Allow` returns true exactly when fewer earlier calls than the limit were accepted in the
window since the last `Reset`. So no window holds more accepted calls than the limit, and without
any of the calls that were rejected or that only look or sweep, the verdicts are the same. -/
theorem allow_exact (limit window : Int) (positive : 0 < limit)
    (steps : List (Taken Watched IPEvent)) (s : Watched)
    (history : History (watched limit window) steps s) :
    (∀ later step earlier ip, steps = later ++ step :: earlier → step.label.call = .allow ip →
      (verdict step = some true ↔
        ((within window step.label.now (accepted ip earlier)).length : Int) < limit)) ∧
    (∀ ip now, ((within window now (accepted ip steps)).length : Int) ≤ limit) ∧
    ∀ kept, Thinned kept steps → ∃ others other, History (watched limit window) others other ∧
      others.map Taken.label = kept.map Taken.label ∧ others.map verdict = kept.map verdict := by
  refine ⟨fun later step earlier ip split isAllow => ?_, length_within_le positive history,
    fun kept thinned => ?_⟩
  · rw [split] at history
    obtain ⟨before, taken⟩ := history_of_append history
    rw [verdict_of_allow isAllow, Option.some_inj]
    exact (recorded_of_history positive before).allow_iff positive ip (of_watched_step taken).1
  · obtain ⟨others, other, ran, labels, verdicts, -, -⟩ := exists_thinned positive history thinned
    exact ⟨others, other, ran, labels, verdicts⟩

/-- One event in ten: accepted, rejected, swept, and accepted again. -/
theorem allow_exact_sweep : ∃ steps s, History (watched 1 10) steps s ∧
    steps.map verdict = [some true, none, some false, some true] ∧
      (within 10 12 (accepted "10.0.0.1" steps)).length ≤ 1 := by
  have started : (watched 1 10).start ⟨newIPLimiter 1 10, 0⟩ := rfl
  have ran : ((watched 1 10).trace [] ⟨newIPLimiter 1 10, 0⟩ [⟨0, .allow "10.0.0.1"⟩,
      ⟨5, .allow "10.0.0.1"⟩, ⟨11, .prune⟩, ⟨12, .allow "10.0.0.1"⟩]).any
        (fun run => decide (run.1.map verdict = [some true, none, some false, some true])) =
          true := by decide +kernel
  obtain ⟨steps, s, history, passed⟩ := exists_history_of_trace started ran
  have bound := (allow_exact 1 10 (by decide) steps s history).2.1 "10.0.0.1" 12
  exact ⟨steps, s, history, of_decide_eq_true passed, Int.ofNat_le.mp bound⟩

/-- What the calls that only look report: in every history `Count` is the number of accepted events
of an address in the window since its last `Reset`, whatever was swept, `IsBlocked` is true
exactly when they have reached the limit, and `Stats` counts the addresses that have. -/
theorem readings_exact (limit window : Int) (positive : 0 < limit)
    (steps : List (Taken Watched IPEvent)) (s : Watched)
    (history : History (watched limit window) steps s) (now : Int) (ordered : s.clock ≤ now) :
    (∀ ip, s.limiter.count ip now = (within window now (accepted ip steps)).length ∧
      ((s.limiter.isBlocked ip now).1 = true ↔ s.limiter.count ip now ≥ limit)) ∧
    ∀ blocked : List String, blocked.Nodup →
      (∀ ip, ip ∈ blocked ↔ ((within window now (accepted ip steps)).length : Int) ≥ limit) →
      (s.limiter.stats now).2 = blocked.length := by
  have recorded := recorded_of_history positive history
  have counted : ∀ ip, s.limiter.count ip now = (within window now (accepted ip steps)).length :=
    fun ip => by
      rw [s.limiter.count_eq, recorded.filter_times ip ordered, List.length_reverse]
  refine ⟨fun ip => ⟨counted ip, ?_⟩, fun blocked distinct listed => ?_⟩
  · rw [IPLimiter.isBlocked_iff (recorded.limited.symm ▸ positive), recorded.limited]
  · -- An address that is blocked has an entry, and every entry is of one address.
    have same : ∀ ip, (decide (s.limiter.count ip now ≥ s.limiter.limit) = true) ↔ ip ∈ blocked :=
      fun ip => by rw [decide_eq_true_iff, counted, recorded.limited, listed]
    rw [s.limiter.stats_eq, List.countP_eq_length_filter]
    refine ((List.perm_ext_iff_of_nodup (s.limiter.entries.nodupKeys.filter _) distinct).mpr
      fun ip => ?_).length_eq
    rw [List.mem_filter, same, and_iff_right_iff_imp]
    intro isBlocked
    by_contra untracked
    have none_ : s.limiter.count ip now = 0 := by
      rw [IPLimiter.count, AList.lookup_eq_none.mpr untracked]
    have reached := (listed ip).mp isBlocked
    rw [← counted, none_] at reached
    omega

/-- Of two addresses in the window one has reached the limit. -/
theorem readings_exact_two : ∃ steps s, History (watched 2 10) steps s ∧
    s.limiter.count "10.0.0.1" 12 = (within 10 12 (accepted "10.0.0.1" steps)).length ∧
      (s.limiter.stats 12) = (2, 1) := by
  have started : (watched 2 10).start ⟨newIPLimiter 2 10, 0⟩ := rfl
  have ran : ((watched 2 10).trace [] ⟨newIPLimiter 2 10, 0⟩ [⟨0, .allow "10.0.0.1"⟩,
      ⟨5, .allow "10.0.0.1"⟩, ⟨6, .allow "10.0.0.2"⟩, ⟨11, .allow "10.0.0.1"⟩]).any
        (fun run => decide (run.2.limiter.stats 12 = (2, 1) ∧ run.2.clock ≤ 12)) = true := by
    decide +kernel
  obtain ⟨steps, s, history, passed⟩ := exists_history_of_trace started ran
  obtain ⟨counts, ordered⟩ := of_decide_eq_true passed
  exact ⟨steps, s, history,
    ((readings_exact 2 10 (by decide) steps s history 12 ordered).1 "10.0.0.1").1, counts⟩

end SovaDesk.Ratelimit
