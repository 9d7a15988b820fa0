/-
This file settles whether the slots of relay sessions leak.

`startRelay` and `startWSRelay` take a slot of the session limiter for the address of each
end, one after the other, and only a call that has both arms the function that gives them
back. A call that is refused at its second end returns with the slot of its first, and that
address has one session less until the server is restarted. The limiter counts the running
sessions exactly in the runs in which every call that has its first slot finds room for the
second.

Any number of calls are on their way at once, and each takes its steps at any time between
those of the others. Without a configured limit there is no limiter and nothing to count.
-/

import SovaDesk.Ratelimit.ConnLimiter
import SovaDesk.Relay.Pairing
import SovaDesk.Signal.Address

namespace SovaDesk.Relay.SessionSlots

open Transition Ratelimit

/-! ### Calls -/

/-- The address that the limiter counts. -/
def clientIP (addr : String) : String :=
  match Signal.splitHostPort addr.toList with
  | some (host, _) => String.ofList host
  | none => addr

/-- Where a call stands: it has slots to take, its session runs, it has slots to give back in the
deferred function, or it has returned. -/
inductive Phase
  | acquiring (left : List String)
  | relaying
  | releasing (left : List String)
  | returned
  deriving DecidableEq

/-- A call with the addresses of its connections, and the slots it has taken so far. -/
structure SlotCall where
  addr1 : String
  addr2 : String
  ips : List String
  phase : Phase
  deriving DecidableEq

def startRelay (addr1 addr2 : String) : SlotCall := ⟨addr1, addr2, [], .acquiring [addr1, addr2]⟩

/-- It takes its slots as `startRelay` does. -/
def startWSRelay (addr1 addr2 : String) : SlotCall := startRelay addr1 addr2

/-- The call of a pair, by the framing both connections use. -/
def start : RelayTransport → String → String → SlotCall
  | .tcp => startRelay
  | .ws => startWSRelay

/-- The limiter and a call after the next step of the call. A call that finds no slot closes both
connections and returns. -/
def SlotCall.next (limiter : ConnLimiter) (call : SlotCall) : Option (ConnLimiter × SlotCall) :=
  match call.phase with
  | .acquiring [] => some (limiter, { call with phase := .relaying })
  | .acquiring (addr :: left) =>
    match limiter.acquire (clientIP addr) with
    | none => some (limiter, { call with phase := .returned })
    | some acquired =>
      some (acquired,
        { call with ips := call.ips ++ [clientIP addr], phase := .acquiring left })
  | .relaying => some (limiter, { call with phase := .releasing call.ips })
  | .releasing [] => some (limiter, { call with phase := .returned })
  | .releasing (ip :: left) => some (limiter.release ip, { call with phase := .releasing left })
  | .returned => none

/-- The limiter of a relay server, and the calls so far. -/
structure Sessions where
  limiter : ConnLimiter
  calls : Table Nat SlotCall

inductive SlotLabel
  | start (c : Nat) (transport : RelayTransport) (addr1 addr2 : String)
  | next (c : Nat)
  deriving DecidableEq

def Sessions.step (s : Sessions) : SlotLabel → Option Sessions
  | .start c transport addr1 addr2 =>
    if (s.calls.lookup c).isSome then none
    else some { s with calls := s.calls.insert c (SessionSlots.start transport addr1 addr2) }
  | .next c =>
    (s.calls.lookup c).bind fun call =>
      (call.next s.limiter).map fun stepped =>
        { limiter := stepped.1, calls := s.calls.insert c stepped.2 }

/-- Runs from a server that has seen no pair. -/
def sessions (relayMaxConnsIP : Int) : System Sessions SlotLabel where
  start s := s = ⟨newConnLimiterFromInt relayMaxConnsIP, ∅⟩
  step := Sessions.step

/-! ### The property -/

/-- A session between two addresses finds both slots. -/
def admits (limiter : ConnLimiter) (addr1 addr2 : String) : Bool :=
  (limiter.acquire (clientIP addr1)).any fun acquired =>
    (acquired.acquire (clientIP addr2)).isSome

/-- Both ends of a call, as the limiter counts them. -/
def SlotCall.ends (call : SlotCall) : List String := [clientIP call.addr1, clientIP call.addr2]

/-- The slots that a call has and will give back. -/
def SlotCall.slots (call : SlotCall) : List String :=
  match call.phase with
  | .acquiring _ | .relaying => call.ips
  | .releasing left => left
  | .returned => []

/-- The slots of an address that calls have. -/
def Sessions.taken (s : Sessions) (ip : String) : Int :=
  s.calls.sum fun _ call => (call.slots.count ip : Int)

/-- The ends of an address in the sessions that are running. -/
def Sessions.runningEnds (s : Sessions) (ip : String) : Int :=
  s.calls.sum fun _ call => if call.phase = .relaying then (call.ends.count ip : Int) else 0

/-- Every call satisfies a condition on its phase. -/
def Sessions.AllIn (s : Sessions) (phases : List Phase) : Prop :=
  ∀ c call, s.calls.lookup c = some call → call.phase ∈ phases

instance (s : Sessions) (phases : List Phase) : Decidable (s.AllIn phases) :=
  Table.decidableForall s.calls fun _ call => call.phase ∈ phases

/-- No slot leaked: every count is the number of slots that calls have. So it is the number of ends
in running sessions whenever no call is on its way in or out, and once no session runs every count
is zero and any session is accepted that was accepted at first. -/
structure Accounted (relayMaxConnsIP : Int) (s : Sessions) : Prop where
  counts : ∀ ip, s.limiter.activeCount ip = s.taken ip
  settled : s.AllIn [.relaying, .returned] → ∀ ip, s.limiter.activeCount ip = s.runningEnds ip
  idle : s.AllIn [.returned] → (∀ ip, s.limiter.activeCount ip = 0) ∧
    ∀ addr1 addr2, admits s.limiter addr1 addr2 =
      admits (newConnLimiterFromInt relayMaxConnsIP) addr1 addr2

/-- The address of which a call that has a slot takes its next. -/
def SlotCall.second (call : SlotCall) : Option String :=
  match call.phase, call.ips with
  | .acquiring (addr :: _), _ :: _ => some (clientIP addr)
  | _, _ => none

/-- The condition: an address has a slot left when a call that has its first slot comes for it. -/
def FindsSecond (s : Sessions) : SlotLabel → Prop
  | .next c => ∀ call ∈ s.calls.lookup c, ∀ ip ∈ call.second,
      s.limiter.activeCount ip < s.limiter.maxConn
  | .start _ _ _ _ => True

instance (s : Sessions) : (label : SlotLabel) → Decidable (FindsSecond s label)
  | .next c => inferInstanceAs (Decidable (∀ call ∈ s.calls.lookup c, ∀ ip ∈ call.second,
      s.limiter.activeCount ip < s.limiter.maxConn))
  | .start _ _ _ _ => .isTrue trivial

/-! ### Steps -/

section steps

variable {relayMaxConnsIP : Int} {s after : Sessions} {call : SlotCall} {limiter : ConnLimiter}

/-- What is known of the slots of a call by its phase. -/
def SlotCall.WellFormed (call : SlotCall) : Prop :=
  match call.phase with
  | .acquiring left => call.ips ++ left.map clientIP = call.ends
  | .relaying => call.ips = call.ends
  | .releasing _ | .returned => True

/-- What holds of the states of guarded runs. -/
structure Sound (relayMaxConnsIP : Int) (s : Sessions) : Prop where
  counts : ∀ ip, s.limiter.activeCount ip = s.taken ip
  maxConn : s.limiter.maxConn = (newConnLimiterFromInt relayMaxConnsIP).maxConn
  calls : ∀ c call, s.calls.lookup c = some call → call.WellFormed

theorem wellFormed_start (transport : RelayTransport) (addr1 addr2 : String) :
    (start transport addr1 addr2).WellFormed := by
  cases transport <;> rfl

theorem slots_start (transport : RelayTransport) (addr1 addr2 : String) :
    (start transport addr1 addr2).slots = [] := by
  cases transport <;> rfl

/-- A call that is put in place of an old one changes the slots that calls have by the
difference. -/
theorem taken_insert (calls : Table Nat SlotCall) (c : Nat) (call : SlotCall) (ip : String) :
    (Sessions.mk limiter (calls.insert c call)).taken ip =
      (Sessions.mk limiter calls).taken ip -
        ((calls.lookup c).map fun old => (old.slots.count ip : Int)).getD 0 +
        (call.slots.count ip : Int) :=
  Table.sum_insert calls _ c call

theorem count_le_taken {c : Nat} (found : s.calls.lookup c = some call) (ip : String) :
    (call.slots.count ip : Int) ≤ s.taken ip :=
  Table.le_sum (fun _ call => (call.slots.count ip : Int))
    (fun _ _ _ => Int.natCast_nonneg _) found

/-- What the next step of a call does to the counts, as long as a call that has a slot finds
the next. -/
theorem counts_next {stepped : ConnLimiter × SlotCall} (taken : call.next limiter = some stepped)
    (finds : ∀ ip ∈ call.second, limiter.activeCount ip < limiter.maxConn)
    (held : ∀ ip, (call.slots.count ip : Int) ≤ limiter.activeCount ip)
    (formed : call.WellFormed) :
    stepped.1.maxConn = limiter.maxConn ∧ stepped.2.WellFormed ∧
      ∀ ip, stepped.1.activeCount ip =
        limiter.activeCount ip - (call.slots.count ip : Int) +
          (stepped.2.slots.count ip : Int) := by
  obtain ⟨addr1, addr2, ips, phase⟩ := call
  cases phase with
  | acquiring left =>
    cases left with
    | nil =>
      cases taken
      refine ⟨rfl, ?_, fun ip => by simp [SlotCall.slots]⟩
      simpa [SlotCall.WellFormed, SlotCall.ends] using formed
    | cons addr left =>
      dsimp only [SlotCall.next] at taken
      split at taken
      · next refused =>
        cases taken
        cases ips with
        | nil => exact ⟨rfl, trivial, fun ip => by simp [SlotCall.slots]⟩
        | cons first rest =>
          have room := finds (clientIP addr) rfl
          unfold ConnLimiter.acquire at refused
          rw [if_neg (not_le.mpr room)] at refused
          exact absurd refused (Option.some_ne_none _)
      · next acquired found =>
        cases taken
        obtain ⟨_, same, counts⟩ := ConnLimiter.acquire_some found
        refine ⟨same, ?_, fun ip => ?_⟩
        · simpa [SlotCall.WellFormed, SlotCall.ends] using formed
        · rw [counts ip]
          simp only [SlotCall.slots, List.count_append, List.count_singleton]
          split
          · next equal => simp [equal]; omega
          · next other => simp [beq_eq_false_iff_ne.mpr (Ne.symm other)]
  | relaying =>
    cases taken
    exact ⟨rfl, trivial, fun ip => by simp [SlotCall.slots]⟩
  | releasing left =>
    cases left with
    | nil =>
      cases taken
      exact ⟨rfl, trivial, fun ip => by simp [SlotCall.slots]⟩
    | cons first left =>
      cases taken
      have positive : 0 < limiter.activeCount first := by
        have := held first
        simp only [SlotCall.slots, List.count_cons_self] at this
        omega
      refine ⟨ConnLimiter.maxConn_release _ _, trivial, fun ip => ?_⟩
      rw [ConnLimiter.activeCount_release positive]
      simp only [SlotCall.slots, List.count_cons]
      split
      · next equal => simp [equal]; omega
      · next other => simp [beq_eq_false_iff_ne.mpr (Ne.symm other)]
  | returned => cases taken

/-- A call that has a slot and finds none for its second end returns with it. -/
theorem next_of_refused {ip : String} (second : call.second = some ip)
    (full : limiter.maxConn ≤ limiter.activeCount ip) :
    call.next limiter = some (limiter, { call with phase := .returned }) ∧
      ∃ first, 0 < call.slots.count first := by
  obtain ⟨addr1, addr2, ips, phase⟩ := call
  unfold SlotCall.second at second
  split at second
  · next addr left first rest acquiring taken =>
    cases acquiring
    cases taken
    cases second
    have refused : limiter.acquire (clientIP addr) = none := if_pos full
    exact ⟨by simp only [SlotCall.next, refused], first, by simp [SlotCall.slots]⟩
  · exact absurd second (Option.some_ne_none ip).symm

theorem sound_start : Sound relayMaxConnsIP ⟨newConnLimiterFromInt relayMaxConnsIP, ∅⟩ where
  counts _ := rfl
  maxConn := rfl
  calls _ call found := absurd found (Option.some_ne_none call).symm

theorem Sound.insert (sound : Sound relayMaxConnsIP s) {c : Nat}
    (same : limiter.maxConn = s.limiter.maxConn) (formed : call.WellFormed)
    (counts : ∀ ip, limiter.activeCount ip = s.limiter.activeCount ip -
      ((s.calls.lookup c).map fun old => (old.slots.count ip : Int)).getD 0 +
        (call.slots.count ip : Int)) :
    Sound relayMaxConnsIP ⟨limiter, s.calls.insert c call⟩ where
  counts ip := by
    rw [taken_insert, counts ip, sound.counts ip]
    rfl
  maxConn := same.trans sound.maxConn
  calls other found lookup := by
    rcases Table.lookup_insert_iff.mp lookup with ⟨_, rfl⟩ | ⟨_, old⟩
    · exact formed
    · exact sound.calls other found old

theorem sound_step (sound : Sound relayMaxConnsIP s) {label : SlotLabel}
    (allowed : FindsSecond s label) (taken : s.step label = some after) :
    Sound relayMaxConnsIP after := by
  cases label with
  | start c transport addr1 addr2 =>
    obtain ⟨fresh, started⟩ := Option.ite_none_left_eq_some.mp taken
    cases started
    refine sound.insert rfl (wellFormed_start transport addr1 addr2) fun ip => ?_
    rw [Option.not_isSome_iff_eq_none.mp fresh, slots_start]
    simp
  | next c =>
    obtain ⟨call, found, stepped⟩ := Option.bind_eq_some_iff.mp taken
    obtain ⟨result, next, rfl⟩ := Option.map_eq_some_iff.mp stepped
    obtain ⟨same, formed, counts⟩ := counts_next next (allowed call found)
      (fun ip => (count_le_taken found ip).trans (sound.counts ip).ge) (sound.calls c call found)
    refine sound.insert same formed fun ip => ?_
    rw [counts ip, found, Option.map_some, Option.getD_some]

theorem sound_of_reachableWhen
    (reached : ReachableWhen (sessions relayMaxConnsIP) FindsSecond s) :
    Sound relayMaxConnsIP s := by
  refine reached.invariant (Sound relayMaxConnsIP) (fun state initial => ?_)
    fun before label after sound allowed taken => sound_step sound allowed taken
  cases initial
  exact sound_start

theorem isSome_acquire_iff (limiter : ConnLimiter) (ip : String) :
    (limiter.acquire ip).isSome = true ↔ limiter.activeCount ip < limiter.maxConn := by
  unfold ConnLimiter.acquire
  split
  · next full => exact iff_of_false Bool.false_ne_true (not_lt.mpr full)
  · next room => exact iff_of_true rfl (not_le.mp room)

/-- A session between two addresses finds room for its first end, and for its second with the first
in place. -/
theorem admits_iff (limiter : ConnLimiter) (addr1 addr2 : String) :
    admits limiter addr1 addr2 = true ↔
      limiter.activeCount (clientIP addr1) < limiter.maxConn ∧
        (if clientIP addr2 = clientIP addr1 then limiter.activeCount (clientIP addr2) + 1
          else limiter.activeCount (clientIP addr2)) < limiter.maxConn := by
  rw [admits, Option.any_eq_true]
  constructor
  · rintro ⟨acquired, first, second⟩
    obtain ⟨room, same, counts⟩ := ConnLimiter.acquire_some first
    rw [isSome_acquire_iff, counts, same] at second
    exact ⟨room, second⟩
  · rintro ⟨room, second⟩
    obtain ⟨acquired, first⟩ := Option.isSome_iff_exists.mp
      ((isSome_acquire_iff limiter (clientIP addr1)).mpr room)
    obtain ⟨_, same, counts⟩ := ConnLimiter.acquire_some first
    refine ⟨acquired, first, (isSome_acquire_iff _ _).mpr ?_⟩
    rw [counts, same]
    exact second

/-- What a limiter admits depends on its counts and its maximum only. -/
theorem admits_congr {other : ConnLimiter} (same : limiter.maxConn = other.maxConn)
    (counts : ∀ ip, limiter.activeCount ip = other.activeCount ip) (addr1 addr2 : String) :
    admits limiter addr1 addr2 = admits other addr1 addr2 := by
  rw [Bool.eq_iff_iff, admits_iff, admits_iff, same, counts, counts]

theorem Sound.accounted (sound : Sound relayMaxConnsIP s) : Accounted relayMaxConnsIP s where
  counts := sound.counts
  settled phases ip := by
    rw [sound.counts ip]
    refine Table.sum_congr fun c call found => ?_
    have formed := sound.calls c call found
    rcases List.mem_cons.mp (phases c call found) with relaying | returned
    · rw [if_pos relaying]
      unfold SlotCall.WellFormed at formed
      unfold SlotCall.slots
      rw [relaying] at formed ⊢
      rw [formed]
    · have returned := List.mem_singleton.mp returned
      unfold SlotCall.slots
      rw [returned, List.count_nil, if_neg (by decide), Nat.cast_zero]
  idle phases := by
    have zero : ∀ ip, s.limiter.activeCount ip = 0 := by
      intro ip
      rw [sound.counts ip]
      refine Table.sum_eq_zero fun c call found => ?_
      rw [SlotCall.slots, List.mem_singleton.mp (phases c call found), List.count_nil,
        Nat.cast_zero]
    exact ⟨zero, admits_congr sound.maxConn zero⟩

/-- From a state of a guarded run, a step leaks no slot exactly if it meets the condition. -/
theorem accounted_iff (sound : Sound relayMaxConnsIP s) {label : SlotLabel}
    (taken : s.step label = some after) :
    Accounted relayMaxConnsIP after ↔ FindsSecond s label := by
  refine ⟨fun accounted => ?_, fun allowed => (sound_step sound allowed taken).accounted⟩
  cases label with
  | start c transport addr1 addr2 => trivial
  | next c =>
    intro call found ip second
    by_contra full
    obtain ⟨next, first, has⟩ := next_of_refused second (not_lt.mp full)
    have returned : after = ⟨s.limiter, s.calls.insert c { call with phase := .returned }⟩ := by
      simpa [Sessions.step, Option.mem_def.mp found, next] using taken.symm
    have leaked := accounted.counts first
    have slots : ({ call with phase := .returned } : SlotCall).slots = [] := rfl
    rw [returned, taken_insert, Option.mem_def.mp found, Option.map_some, Option.getD_some,
      slots, List.count_nil, sound.counts first] at leaked
    have same : (Sessions.mk s.limiter s.calls).taken first = s.taken first := rfl
    omega

/-- The counts of the session limiter are the ends of the calls, exactly in the runs in which every
call that has its first slot finds its second. -/
theorem accounted_iff_findsSecond (relayMaxConnsIP : Int)
    {taken : List (Taken Sessions SlotLabel)} {final : Sessions}
    (history : History (sessions relayMaxConnsIP) taken final) :
    (∀ step ∈ taken, Accounted relayMaxConnsIP step.after) ↔
      ∀ step ∈ taken, FindsSecond step.before step.label := by
  have agree : ∀ step : Taken Sessions SlotLabel,
      ReachableWhen (sessions relayMaxConnsIP) FindsSecond step.before →
      (sessions relayMaxConnsIP).step step.before step.label = some step.after →
      (Accounted relayMaxConnsIP step.after ↔ FindsSecond step.before step.label) :=
    fun _ reached stepped => accounted_iff (sound_of_reachableWhen reached) stepped
  exact history.forall_iff_when agree

end steps

/-! ### Two runs -/

/-- One call of a pair to its end. -/
def throughout (c : Nat) (addr1 addr2 : String) : List SlotLabel :=
  [.start c .tcp addr1 addr2, .next c, .next c, .next c, .next c, .next c, .next c, .next c]

/-- With a limit of one, a pair from one address is refused at its second end, and the slot of its
first is gone. -/
theorem refusedSecond_leaks :
    ¬ ∀ final, Reachable (sessions 1) final → Accounted 1 final := by
  intro claimed
  have ran : ((sessions 1).run ⟨newConnLimiterFromInt 1, ∅⟩
      [.start 0 .tcp "10.0.0.1:5000" "10.0.0.1:5001", .next 0, .next 0]).any (fun final =>
        decide (final.AllIn [.returned] ∧ final.limiter.activeCount "10.0.0.1" = 1)) = true := by
    decide
  obtain ⟨final, reached, passed⟩ := exists_reachable_of_run rfl ran
  obtain ⟨returned, held⟩ := of_decide_eq_true passed
  have zero := ((claimed final reached).idle returned).1 "10.0.0.1"
  rw [held] at zero
  exact absurd zero (by decide)

/-- A session between two addresses runs and ends. -/
theorem accounted_throughout :
    ∃ taken final, History (sessions 1) taken final ∧
      taken.reverse.map Taken.label = throughout 0 "10.0.0.1:5000" "10.0.0.2:5000" ∧
      ∀ step ∈ taken, Accounted 1 step.after := by
  have ran : ((sessions 1).trace [] ⟨newConnLimiterFromInt 1, ∅⟩
      (throughout 0 "10.0.0.1:5000" "10.0.0.2:5000")).any (fun ends =>
        decide (ends.1.reverse.map Taken.label = throughout 0 "10.0.0.1:5000" "10.0.0.2:5000" ∧
          ∀ step ∈ ends.1, FindsSecond step.before step.label)) = true := by
    decide
  obtain ⟨taken, final, history, passed⟩ := exists_history_of_trace rfl ran
  obtain ⟨labels, finds⟩ := of_decide_eq_true passed
  exact ⟨taken, final, history, labels, (accounted_iff_findsSecond 1 history).mpr finds⟩

end SovaDesk.Relay.SessionSlots
