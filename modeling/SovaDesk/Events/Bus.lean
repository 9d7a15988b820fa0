/-
This file models the event bus, and settles what its subscribers receive.

Subscribing and unsubscribing hold the write lock and are done in one step. Publishing holds the
read lock only, so several calls of it may run at once: a call takes the lock, goes to the
subscribers one by one, in an order that the map chooses, and returns. Between any two of these
steps others may publish and subscribers may receive. A send on a closed channel and a second close
are panics. None of them is ever reached, and what a subscriber receives is what was published
during its subscription, without repetition, in order, and without gaps as long as it keeps up.
-/

import Mathlib.Data.List.Sort
import Mathlib.Logic.Function.Basic
import SovaDesk.Lib.LossyQueue
import SovaDesk.Lib.System
import SovaDesk.Lib.Table

namespace SovaDesk.Events

open Transition

/-! ### The bus -/

abbrev EventType := String

structure Event where
  type : EventType
  timestamp : Int
  data : Table String String

/-- An event in a channel, with the number of the call of `Publish` that sent it. No code reads the
number. -/
structure Message where
  number : Nat
  event : Event

/-- The buffer of a channel. -/
def channelCapacity : Nat := 64

/-- A subscriber with its channel. What the channel was offered and gave away is recorded, and so
is how many calls of `Publish` had begun when it was subscribed and when it was unsubscribed. -/
structure Subscriber where
  filter : EventType
  channel : Lossy.Queue Message
  closed : Bool
  since : Nat
  stopped : Option Nat

/-- A call of `Publish` that holds the read lock: its event, and the subscribers that its loop has
not come to. -/
structure Publishing where
  event : Event
  remaining : List Nat

/-- A call of `Publish` that took the lock, and the calls that held the lock then. -/
structure Publication where
  event : Event
  alongside : List Nat

/-- The bus. A subscriber is named by its `id`, so the map is the list of the names it holds; the
subscribers that it does not hold any more are still there. -/
structure Bus where
  subscribers : List Nat
  nextID : Nat
  subscriber : Nat → Subscriber
  publishing : Table Nat Publishing
  publications : List Publication
  panicked : Bool

def newBus : Bus where
  subscribers := []
  nextID := 0
  subscriber := fun _ => ⟨"", .empty, true, 0, some 0⟩
  publishing := ∅
  publications := []
  panicked := false

namespace Bus

/-- `Subscribe`. -/
def subscribe (b : Bus) (filter : EventType) : Bus :=
  let id := b.nextID + 1
  { b with
    nextID := id
    subscriber := Function.update b.subscriber id
      ⟨filter, .empty, false, b.publications.length, none⟩
    subscribers := id :: b.subscribers }

/-- `Unsubscribe`. -/
def unsubscribe (b : Bus) (id : Nat) : Bus :=
  if id ∈ b.subscribers then
    { b with
      subscribers := b.subscribers.erase id
      subscriber := Function.update b.subscriber id { b.subscriber id with
        closed := true
        stopped := some b.publications.length }
      panicked := (b.subscriber id).closed }
  else b

/-- `Publish` up to the read lock. -/
def beginPublish (b : Bus) (event : Event) (order : List Nat) : Bus :=
  { b with
    publishing := b.publishing.insert b.publications.length ⟨event, order⟩
    publications := b.publications ++ [⟨event, b.publishing.keys⟩] }

/-- The subscriber wants events of a type. -/
def wants (sub : Subscriber) (event : Event) : Bool := sub.filter = "" ∨ sub.filter = event.type

/-- The body of the loop of `Publish` for one subscriber. -/
def send (b : Bus) (message : Message) (id : Nat) : Bus :=
  let sub := b.subscriber id
  if wants sub message.event then
    if sub.closed then { b with panicked := true }
    else
      { b with
        subscriber := Function.update b.subscriber id
          { sub with channel := sub.channel.offer channelCapacity message } }
  else b

/-- The next turn of the loop of a call of `Publish`. -/
def publishNext (b : Bus) (number : Nat) : Option Bus :=
  match b.publishing.lookup number with
  | some ⟨event, id :: rest⟩ =>
    some { b.send ⟨number, event⟩ id with
      publishing := b.publishing.insert number ⟨event, rest⟩ }
  | _ => none

/-- The end of a call of `Publish`, which unlocks. -/
def endPublish (b : Bus) (number : Nat) : Option Bus :=
  match b.publishing.lookup number with
  | some ⟨_, []⟩ => some { b with publishing := b.publishing.erase number }
  | _ => none

/-- A receive from the channel of a subscriber, which waits while the channel is open and has
nothing. -/
def receive (b : Bus) (id : Nat) : Option Bus :=
  let sub := b.subscriber id
  match sub.channel.receive with
  | some (_, channel) =>
    some { b with
      subscriber := Function.update b.subscriber id { sub with channel := channel } }
  | none => if sub.closed then some b else none

end Bus

/-- The steps of the goroutines that use the bus. -/
inductive Label
  | subscribe (filter : EventType)
  | unsubscribe (id : Nat)
  | beginPublish (event : Event) (order : List Nat)
  | publishNext (number : Nat)
  | endPublish (number : Nat)
  | receive (id : Nat)

/-- One step. The write lock waits for the calls of `Publish`, a subscriber must have been returned
by `Subscribe` before it is used, and after a panic there is nothing more. -/
def step (b : Bus) : Label → Option Bus
  | .subscribe filter =>
    if b.panicked = false ∧ b.publishing.keys = [] then some (b.subscribe filter) else none
  | .unsubscribe id =>
    if b.panicked = false ∧ b.publishing.keys = [] ∧ id ≤ b.nextID then some (b.unsubscribe id)
    else none
  | .beginPublish event order =>
    if b.panicked = false ∧ order.Perm b.subscribers then some (b.beginPublish event order)
    else none
  | .publishNext number => if b.panicked = false then b.publishNext number else none
  | .endPublish number => if b.panicked = false then b.endPublish number else none
  | .receive id => if b.panicked = false ∧ id ≤ b.nextID then b.receive id else none

def busSystem : System Bus Label where
  start b := b = newBus
  step := step

/-! ### What a subscriber is to receive -/

/-- The call of `Publish` was made during the subscription. -/
def Subscriber.during (sub : Subscriber) (number : Nat) : Bool :=
  sub.since ≤ number ∧ ∀ stop ∈ sub.stopped, number < stop

/-- The matching events published during the subscription, in the order in which the calls of
`Publish` took the lock. -/
def Subscriber.addressed (sub : Subscriber) (publications : List Publication) : List Message :=
  (publications.zipIdx.filter fun entry =>
    sub.during entry.2 ∧ Bus.wants sub entry.1.event).map fun entry => ⟨entry.2, entry.1.event⟩

/-- The call of `Publish` has not come to the subscriber. -/
def Bus.Pending (b : Bus) (id number : Nat) : Prop :=
  ∃ call, b.publishing.lookup number = some call ∧ id ∈ call.remaining

/-- The call of `Publish` was under way when the other one took the lock. -/
def Alongside (publications : List Publication) (number other : Nat) : Prop :=
  ∃ publication, publications[other]? = some publication ∧ number ∈ publication.alongside

variable {publications : List Publication} {message : Message}

theorem mem_addressed {sub : Subscriber} :
    message ∈ sub.addressed publications ↔
      sub.during message.number = true ∧ Bus.wants sub message.event = true ∧
        ∃ publication, publications[message.number]? = some publication ∧
          publication.event = message.event := by
  unfold Subscriber.addressed
  simp only [List.mem_map, List.mem_filter, decide_eq_true_eq, List.mem_zipIdx_iff_getElem?]
  constructor
  · rintro ⟨⟨publication, number⟩, ⟨found, during, wanted⟩, rfl⟩
    exact ⟨during, wanted, publication, found, rfl⟩
  · rintro ⟨during, wanted, publication, found, same⟩
    exact ⟨⟨publication, message.number⟩, ⟨found, during, same.symm ▸ wanted⟩, by rw [same]⟩

theorem pairwise_addressed (sub : Subscriber) (publications : List Publication) :
    (sub.addressed publications).Pairwise fun a b => a.number < b.number := by
  unfold Subscriber.addressed
  rw [List.pairwise_map]
  refine List.Pairwise.filter _ ?_
  have numbered : (publications.zipIdx.map Prod.snd).Pairwise (· < ·) := by
    rw [List.zipIdx_map_snd]
    exact List.pairwise_lt_range'
  exact List.pairwise_map.mp numbered

/-- A call of `Publish` after a subscription ended adds nothing to what was for the subscriber. -/
theorem addressed_append (sub : Subscriber) (publications : List Publication)
    (publication : Publication) :
    sub.addressed (publications ++ [publication]) =
      sub.addressed publications ++
        if sub.during publications.length ∧ Bus.wants sub publication.event then
          [⟨publications.length, publication.event⟩]
        else [] := by
  unfold Subscriber.addressed
  rw [List.zipIdx_append, List.filter_append, List.map_append]
  congr 1
  by_cases wanted : sub.during publications.length ∧ Bus.wants sub publication.event <;>
    simp [wanted]

/-! ### The invariant -/

/-- What holds of the channel of a subscriber: it was offered what was published for it, apart from
what the running calls of `Publish` still have to offer, each event once, and two of them in the
other order only if their calls ran at the same time. -/
structure Served (b : Bus) (id : Nat) : Prop where
  channel : (b.subscriber id).channel.Sound channelCapacity
  once : ((b.subscriber id).channel.offered.map (·.1.number)).Nodup
  ordered : (b.subscriber id).channel.offered.Pairwise fun first second =>
    first.1.number < second.1.number ∨
      Alongside b.publications second.1.number first.1.number
  offered : ∀ message, message ∈ (b.subscriber id).channel.offered.map Prod.fst ↔
    message ∈ (b.subscriber id).addressed b.publications ∧ ¬ b.Pending id message.number

/-- What holds of a running call of `Publish`. -/
structure Running (b : Bus) (number : Nat) (call : Publishing) : Prop where
  published : ∃ publication, b.publications[number]? = some publication ∧
    publication.event = call.event
  distinct : call.remaining.Nodup
  subscribed : ∀ id ∈ call.remaining, id ∈ b.subscribers ∧ (b.subscriber id).since ≤ number
  alongside : ∀ other, number < other → other < b.publications.length →
    Alongside b.publications number other

/-- The invariant of the bus: the channels of the subscribers it holds are open. -/
structure Sound (b : Bus) : Prop where
  running : b.panicked = false
  distinct : b.subscribers.Nodup
  known : ∀ id ∈ b.subscribers, id ≤ b.nextID
  live : ∀ id ∈ b.subscribers,
    (b.subscriber id).closed = false ∧ (b.subscriber id).stopped = none ∧
      (b.subscriber id).since ≤ b.publications.length
  ended : ∀ id ≤ b.nextID, id ∉ b.subscribers →
    ∃ stop ≤ b.publications.length, (b.subscriber id).stopped = some stop
  calls : ∀ number call, b.publishing.lookup number = some call → Running b number call
  served : ∀ id ≤ b.nextID, Served b id

theorem sound_newBus : Sound newBus where
  running := rfl
  distinct := List.nodup_nil
  known _ member := absurd member List.not_mem_nil
  live _ member := absurd member List.not_mem_nil
  ended _ _ _ := ⟨0, le_rfl, rfl⟩
  calls _ _ found := absurd found (Option.some_ne_none _).symm
  served _ _ := {
    channel := Lossy.Queue.sound_empty _
    once := List.nodup_nil
    ordered := List.Pairwise.nil
    offered _ := ⟨fun member => absurd member List.not_mem_nil,
      fun ⟨member, _⟩ => absurd member List.not_mem_nil⟩ }

variable {id number : Nat}

section steps

variable {b after : Bus}

theorem lookup_of_idle (idle : b.publishing.keys = []) (number : Nat) :
    b.publishing.lookup number = none := by
  rw [AList.lookup_eq_none, AList.mem_keys, idle]
  exact List.not_mem_nil

/-- A subscriber is served as before when its channel, the published events and the pending calls
are what they were. -/
theorem Served.frame (served : Served b id) (same : after.subscriber id = b.subscriber id)
    (publications : after.publications = b.publications)
    (pending : ∀ number, after.Pending id number ↔ b.Pending id number) : Served after id where
  channel := same ▸ served.channel
  once := same ▸ served.once
  ordered := by
    rw [same, publications]
    exact served.ordered
  offered message := by
    rw [same, publications, pending]
    exact served.offered message

/-- An event that is for a subscriber was published. -/
theorem lt_of_mem_addressed {sub : Subscriber} (member : message ∈ sub.addressed publications) :
    message.number < publications.length := by
  obtain ⟨-, -, publication, found, -⟩ := mem_addressed.mp member
  exact (List.getElem?_eq_some_iff.mp found).1

/-- Nothing that was published before a subscription is for the new subscriber. -/
theorem served_new {filter : EventType} (self : b.subscriber id =
    ⟨filter, .empty, false, b.publications.length, none⟩) : Served b id := by
  constructor <;> rw [self]
  case channel => exact Lossy.Queue.sound_empty _
  case once => exact List.nodup_nil
  case ordered => exact List.Pairwise.nil
  case offered =>
    intro message
    refine ⟨fun member => absurd member List.not_mem_nil, fun ⟨member, _⟩ => ?_⟩
    have published : message.number < b.publications.length := lt_of_mem_addressed member
    have during := (mem_addressed.mp member).1
    rw [Subscriber.during, decide_eq_true_eq] at during
    exact absurd published (Nat.not_lt.mpr during.1)

theorem Sound.subscribe (sound : Sound b) (idle : b.publishing.keys = []) (filter : EventType) :
    Sound (b.subscribe filter) := by
  have fresh : b.nextID + 1 ∉ b.subscribers := fun member =>
    absurd (sound.known _ member) (Nat.not_succ_le_self _)
  have other : ∀ id ≤ b.nextID, (b.subscribe filter).subscriber id = b.subscriber id :=
    fun id old => Function.update_of_ne (Nat.ne_of_lt (Nat.lt_succ_of_le old)) _ _
  have self : (b.subscribe filter).subscriber (b.nextID + 1) =
      ⟨filter, .empty, false, b.publications.length, none⟩ := Function.update_self ..
  constructor
  case running => exact sound.running
  case distinct => exact List.nodup_cons.mpr ⟨fresh, sound.distinct⟩
  case known =>
    intro id member
    rcases List.mem_cons.mp member with rfl | old
    · exact le_rfl
    · exact Nat.le_succ_of_le (sound.known id old)
  case live =>
    intro id member
    rcases List.mem_cons.mp member with rfl | old
    · rw [self]
      exact ⟨rfl, rfl, le_rfl⟩
    · rw [other id (sound.known id old)]
      exact sound.live id old
  case ended =>
    intro id known away
    rw [Bus.subscribe, List.mem_cons, not_or] at away
    have old : id ≤ b.nextID := Nat.le_of_lt_succ (Nat.lt_of_le_of_ne known away.1)
    rw [other id old]
    exact sound.ended id old away.2
  case calls =>
    intro number call found
    exact absurd (found.symm.trans (lookup_of_idle idle number)) (Option.some_ne_none call)
  case served =>
    intro id known
    rcases Nat.lt_or_eq_of_le known with older | rfl
    · have old : id ≤ b.nextID := Nat.le_of_lt_succ older
      exact (sound.served id old).frame (other id old) rfl fun _ => Iff.rfl
    · exact served_new self

theorem Sound.unsubscribe (sound : Sound b) (idle : b.publishing.keys = []) (id : Nat) :
    Sound (b.unsubscribe id) := by
  unfold Bus.unsubscribe
  split
  case isFalse => exact sound
  case isTrue held =>
    obtain ⟨opened, current, since⟩ := sound.live id held
    constructor
    case running => exact opened
    case distinct => exact sound.distinct.erase id
    case known => exact fun other member => sound.known other (List.mem_of_mem_erase member)
    case live =>
      intro other member
      obtain ⟨different, old⟩ := sound.distinct.mem_erase_iff.mp member
      dsimp only
      rw [Function.update_of_ne different]
      exact sound.live other old
    case ended =>
      intro other known away
      dsimp only
      by_cases same : other = id
      · subst same
        rw [Function.update_self]
        exact ⟨_, le_rfl, rfl⟩
      · rw [Function.update_of_ne same]
        exact sound.ended other known fun member =>
          away (sound.distinct.mem_erase_iff.mpr ⟨same, member⟩)
    case calls =>
      intro number call found
      exact absurd (found.symm.trans (lookup_of_idle idle number)) (Option.some_ne_none call)
    case served =>
      intro other known
      have served := sound.served other known
      by_cases same : other = id
      · subst same
        constructor <;> dsimp only <;> rw [Function.update_self]
        case channel => exact served.channel
        case once => exact served.once
        case ordered => exact served.ordered
        case offered =>
          intro message
          rw [served.offered, mem_addressed, mem_addressed]
          refine and_congr_left fun _ => and_congr_left fun ⟨_, publication, found, _⟩ => ?_
          have published := (List.getElem?_eq_some_iff.mp found).1
          simp [Subscriber.during, current, published]
      · exact served.frame (Function.update_of_ne same _ _) rfl fun _ => Iff.rfl

theorem Alongside.append {other : Nat}
    (alongside : Alongside publications number other) (publication : Publication) :
    Alongside (publications ++ [publication]) number other := by
  obtain ⟨earlier, found, member⟩ := alongside
  have old := (List.getElem?_eq_some_iff.mp found).1
  exact ⟨earlier, by rw [List.getElem?_append_left old, found], member⟩

theorem Sound.beginPublish (sound : Sound b) (event : Event) {order : List Nat}
    (listed : order.Perm b.subscribers) : Sound (b.beginPublish event order) := by
  have pending : ∀ id number, (b.beginPublish event order).Pending id number ↔
      (number = b.publications.length ∧ id ∈ order) ∨
        (number ≠ b.publications.length ∧ b.Pending id number) := by
    intro id number
    unfold Bus.Pending Bus.beginPublish
    simp only [Table.lookup_insert_if]
    by_cases latest : number = b.publications.length <;> simp [latest]
  constructor
  case running => exact sound.running
  case distinct => exact sound.distinct
  case known => exact sound.known
  case live =>
    intro id member
    obtain ⟨opened, current, since⟩ := sound.live id member
    exact ⟨opened, current, since.trans (by simp [Bus.beginPublish])⟩
  case ended =>
    intro id known away
    obtain ⟨stop, before, stopped⟩ := sound.ended id known away
    exact ⟨stop, before.trans (by simp [Bus.beginPublish]), stopped⟩
  case calls =>
    intro number call found
    rcases Table.lookup_insert_iff.mp found with ⟨rfl, rfl⟩ | ⟨-, old⟩
    · constructor
      case published => exact ⟨_, List.getElem?_concat_length, rfl⟩
      case distinct => exact listed.nodup_iff.mpr sound.distinct
      case subscribed =>
        intro id member
        have held := listed.mem_iff.mp member
        exact ⟨held, (sound.live id held).2.2⟩
      case alongside =>
        intro other later inside
        rw [Bus.beginPublish, List.length_append, List.length_singleton] at inside
        omega
    · have running := sound.calls number call old
      obtain ⟨publication, there, same⟩ := running.published
      have earlier := (List.getElem?_eq_some_iff.mp there).1
      constructor
      case published =>
        refine ⟨publication, ?_, same⟩
        rw [Bus.beginPublish, List.getElem?_append_left earlier, there]
      case distinct => exact running.distinct
      case subscribed => exact running.subscribed
      case alongside =>
        intro other later inside
        rw [Bus.beginPublish, List.length_append, List.length_singleton] at inside
        rcases Nat.lt_or_eq_of_le (Nat.le_of_lt_succ inside) with before | rfl
        · exact (running.alongside other later before).append _
        · refine ⟨_, List.getElem?_concat_length, ?_⟩
          exact AList.mem_keys.mp (AList.lookup_isSome.mp (old ▸ rfl))
  case served =>
    intro id known
    have served := sound.served id known
    constructor
    case channel => exact served.channel
    case once => exact served.once
    case ordered => exact served.ordered.imp fun close => close.imp_right fun both => both.append _
    case offered =>
      intro message
      show message ∈ (b.subscriber id).channel.offered.map Prod.fst ↔
        message ∈ (b.subscriber id).addressed (b.publications ++ [⟨event, b.publishing.keys⟩]) ∧ _
      rw [served.offered, pending, addressed_append, List.mem_append]
      by_cases latest : message.number = b.publications.length
      · have new : message ∉ (b.subscriber id).addressed b.publications := fun member =>
          absurd (lt_of_mem_addressed member) (latest ▸ lt_irrefl _)
        by_cases held : id ∈ b.subscribers
        · simp [new, latest, listed.mem_iff.mpr held]
        · obtain ⟨stop, before, stopped⟩ := sound.ended id known held
          have absent : message ∉ (if (b.subscriber id).during b.publications.length ∧
              Bus.wants (b.subscriber id) event then
                [(⟨b.publications.length, event⟩ : Message)] else []) := by
            have past : ¬ b.publications.length < stop := Nat.not_lt.mpr before
            simp [Subscriber.during, stopped, past]
          exact iff_of_false (fun both => new both.1) fun both => both.1.elim new absent
      · have old : message ≠ ⟨b.publications.length, event⟩ := fun same =>
          latest (congrArg Message.number same)
        have absent : message ∉ (if (b.subscriber id).during b.publications.length ∧
            Bus.wants (b.subscriber id) event then
              [(⟨b.publications.length, event⟩ : Message)] else []) := by
          split <;> simp [old]
        have kept : b.Pending id message.number ↔
            (message.number = b.publications.length ∧ id ∈ order) ∨
              (message.number ≠ b.publications.length ∧ b.Pending id message.number) :=
          ⟨fun waits => .inr ⟨latest, waits⟩,
            fun either => either.elim (fun added => absurd added.1 latest) And.right⟩
        exact and_congr (or_iff_left absent).symm (not_congr kept)

/-- A channel that changes leaves the other fields of its subscriber, so the subscriptions and what
is for them are what they were. -/
theorem Sound.change (sound : Sound b) (id : Nat) (channel : Lossy.Queue Message)
    (subscriber : after.subscriber =
      Function.update b.subscriber id { b.subscriber id with channel := channel })
    (running : after.panicked = false) (subscribers : after.subscribers = b.subscribers)
    (nextID : after.nextID = b.nextID) (publications : after.publications = b.publications)
    (calls : ∀ number call, after.publishing.lookup number = some call →
      ∃ old, b.publishing.lookup number = some old ∧ old.event = call.event ∧
        List.Sublist call.remaining old.remaining)
    (served : ∀ other ≤ b.nextID, Served after other) : Sound after := by
  have fields : ∀ other, (after.subscriber other).closed = (b.subscriber other).closed ∧
      (after.subscriber other).stopped = (b.subscriber other).stopped ∧
      (after.subscriber other).since = (b.subscriber other).since := by
    intro other
    rw [subscriber]
    by_cases same : other = id
    · rw [same, Function.update_self]
      exact ⟨rfl, rfl, rfl⟩
    · rw [Function.update_of_ne same]
      exact ⟨rfl, rfl, rfl⟩
  constructor
  case running => exact running
  case distinct => exact subscribers ▸ sound.distinct
  case known => exact subscribers ▸ nextID ▸ sound.known
  case live =>
    intro other member
    obtain ⟨closed, stopped, since⟩ := fields other
    rw [closed, stopped, since, publications]
    exact sound.live other (subscribers ▸ member)
  case ended =>
    intro other known away
    rw [(fields other).2.1, publications]
    exact sound.ended other (nextID ▸ known) (subscribers ▸ away)
  case calls =>
    intro number call found
    obtain ⟨old, there, event, left⟩ := calls number call found
    have call := sound.calls number old there
    constructor
    case published => exact publications ▸ event ▸ call.published
    case distinct => exact call.distinct.sublist left
    case subscribed =>
      intro other member
      rw [subscribers, (fields other).2.2]
      exact call.subscribed other (left.subset member)
    case alongside => exact publications ▸ call.alongside
  case served => exact fun other known => served other (nextID ▸ known)

/-- An event that is sent to a subscriber which wants it: the subscriber was waiting for it, so it
was not offered before. -/
theorem Served.offer (served : Served b id) {call : Publishing}
    (running : Running b message.number call) (event : call.event = message.event)
    (waiting : id ∈ call.remaining) (pending : b.Pending id message.number)
    (current : (b.subscriber id).stopped = none)
    (wanted : Bus.wants (b.subscriber id) message.event = true)
    (subscriber : after.subscriber id = { b.subscriber id with
      channel := (b.subscriber id).channel.offer channelCapacity message })
    (publications : after.publications = b.publications)
    (left : ∀ number, after.Pending id number ↔ b.Pending id number ∧ number ≠ message.number) :
    Served after id := by
  have fresh : ∀ entry ∈ (b.subscriber id).channel.offered, entry.1.number ≠ message.number := by
    intro entry member same
    have offered := (served.offered entry.1).mp (List.mem_map_of_mem member)
    exact offered.2 (same ▸ pending)
  obtain ⟨publication, published, same⟩ := running.published
  have addressed : message ∈ (b.subscriber id).addressed b.publications := by
    refine mem_addressed.mpr ⟨?_, wanted, publication, published, same.trans event⟩
    simp [Subscriber.during, current, (running.subscribed id waiting).2]
  constructor <;> rw [subscriber]
  case channel => exact served.channel.offer message
  case once =>
    simp only [Lossy.Queue.offer, List.map_append, List.map_cons, List.map_nil]
    refine served.once.append (List.nodup_singleton _) fun number earlier latest => ?_
    obtain ⟨entry, member, rfl⟩ := List.mem_map.mp earlier
    exact fresh entry member (List.mem_singleton.mp latest)
  case ordered =>
    rw [publications]
    refine List.pairwise_append.mpr ⟨served.ordered, List.pairwise_singleton _ _, ?_⟩
    intro entry member latest last
    obtain rfl := List.mem_singleton.mp last
    rcases Nat.lt_or_gt_of_ne (fresh entry member) with before | later
    · exact Or.inl before
    · -- The other call began after this one, which is still under way.
      have inside := ((served.offered entry.1).mp (List.mem_map_of_mem member)).1
      exact Or.inr (running.alongside _ later (lt_of_mem_addressed inside))
  case offered =>
    intro other
    show other ∈ ((b.subscriber id).channel.offered ++ [_]).map Prod.fst ↔
      other ∈ (b.subscriber id).addressed after.publications ∧ _
    rw [publications, left, List.map_append, List.mem_append, served.offered]
    by_cases latest : other.number = message.number
    · have sameMessage : other ∈ (b.subscriber id).addressed b.publications ↔ other = message := by
        refine ⟨fun member => ?_, fun same => same ▸ addressed⟩
        obtain ⟨-, -, found, there, itsEvent⟩ := mem_addressed.mp member
        rw [latest, published, Option.some_inj] at there
        cases other
        cases message
        simp_all
      simp [latest, sameMessage, pending]
    · have different : other ≠ message := fun same => latest (congrArg Message.number same)
      simp [latest, different]

/-- An event that its call passes over: the subscriber does not want it. -/
theorem Served.skip (served : Served b id) {call : Publishing} (running : Running b number call)
    (unwanted : ¬ Bus.wants (b.subscriber id) call.event = true)
    (same : after.subscriber id = b.subscriber id)
    (publications : after.publications = b.publications)
    (left : ∀ other, after.Pending id other ↔ b.Pending id other ∧ other ≠ number) :
    Served after id := by
  constructor <;> rw [same]
  case channel => exact served.channel
  case once => exact served.once
  case ordered => exact publications ▸ served.ordered
  case offered =>
    intro message
    rw [publications, left, served.offered]
    refine and_congr_right fun addressed => ?_
    have different : message.number ≠ number := by
      intro latest
      obtain ⟨publication, published, itsEvent⟩ := running.published
      obtain ⟨-, wanted, found, there, event⟩ := mem_addressed.mp addressed
      rw [latest, published, Option.some_inj] at there
      rw [← event, ← there, itsEvent] at wanted
      exact unwanted wanted
    simp [different]

theorem Sound.publishNext (sound : Sound b)
    (taken : b.publishNext number = some after) : Sound after := by
  unfold Bus.publishNext at taken
  split at taken
  case h_2 => exact absurd taken (Option.some_ne_none after).symm
  case h_1 event id rest found =>
    obtain rfl := Option.some.inj taken
    have running := sound.calls number _ found
    obtain ⟨away, -⟩ := List.nodup_cons.mp running.distinct
    obtain ⟨opened, current, -⟩ := sound.live id (running.subscribed id List.mem_cons_self).1
    have waiting : b.Pending id number := ⟨_, found, List.mem_cons_self⟩
    have calls : ∀ other call,
        (b.publishing.insert number ⟨event, rest⟩).lookup other = some call →
          ∃ old, b.publishing.lookup other = some old ∧ old.event = call.event ∧
            List.Sublist call.remaining old.remaining := by
      intro other call there
      rcases Table.lookup_insert_iff.mp there with ⟨rfl, rfl⟩ | ⟨-, old⟩
      · exact ⟨_, found, rfl, List.sublist_cons_self _ _⟩
      · exact ⟨call, old, rfl, List.Sublist.refl _⟩
    -- The call has come to this subscriber, and to no other.
    have pending : ∀ other published,
        (∃ call, (b.publishing.insert number ⟨event, rest⟩).lookup published = some call ∧
          other ∈ call.remaining) ↔
            b.Pending other published ∧ ¬ (other = id ∧ published = number) := by
      intro other published
      unfold Bus.Pending
      rw [Table.lookup_insert_if]
      by_cases latest : published = number
      · subst latest
        by_cases same : other = id
        · simp [found, same, away]
        · simp [found, same]
      · simp [latest]
    by_cases wanted : Bus.wants (b.subscriber id) event = true
    · have sent : b.send ⟨number, event⟩ id = { b with
          subscriber := Function.update b.subscriber id { b.subscriber id with
            channel := (b.subscriber id).channel.offer channelCapacity ⟨number, event⟩ } } := by
        simp [Bus.send, wanted, opened]
      rw [sent]
      refine sound.change id ((b.subscriber id).channel.offer channelCapacity ⟨number, event⟩)
        rfl sound.running rfl rfl rfl calls fun other known => ?_
      by_cases same : other = id
      · subst same
        exact (sound.served other known).offer running rfl List.mem_cons_self waiting current wanted
          (Function.update_self ..) rfl fun published => (pending _ published).trans (by simp)
      · exact (sound.served other known).frame (Function.update_of_ne same _ _) rfl
          fun published => (pending other published).trans (by simp [same])
    · have skipped : b.send ⟨number, event⟩ id = b := if_neg wanted
      rw [skipped]
      refine sound.change id (b.subscriber id).channel
        (Function.update_eq_self _ _).symm sound.running rfl rfl rfl calls fun other known => ?_
      by_cases same : other = id
      · subst same
        exact (sound.served other known).skip running wanted rfl rfl
          fun published => (pending _ published).trans (by simp)
      · exact (sound.served other known).frame rfl rfl
          fun published => (pending other published).trans (by simp [same])

theorem Sound.endPublish (sound : Sound b)
    (taken : b.endPublish number = some after) : Sound after := by
  unfold Bus.endPublish at taken
  split at taken
  case h_2 => exact absurd taken (Option.some_ne_none after).symm
  case h_1 event found =>
    obtain rfl := Option.some.inj taken
    refine sound.change 0 (b.subscriber 0).channel
      (Function.update_eq_self _ _).symm sound.running rfl rfl rfl ?_ fun other known => ?_
    · intro other call there
      exact ⟨call, (Table.lookup_erase_iff.mp there).2, rfl, List.Sublist.refl _⟩
    · refine (sound.served other known).frame rfl rfl fun published => ?_
      unfold Bus.Pending
      dsimp only
      rw [Table.lookup_erase_if]
      by_cases latest : published = number
      · subst latest
        simp [found]
      · simp [latest]

theorem Sound.receive (sound : Sound b) (taken : b.receive id = some after) :
    Sound after := by
  unfold Bus.receive at taken
  dsimp only at taken
  split at taken
  case h_1 message channel received =>
    obtain rfl := Option.some.inj taken
    refine sound.change id channel rfl sound.running rfl rfl rfl
      (fun other call there => ⟨call, there, rfl, List.Sublist.refl _⟩) fun other known => ?_
    have served := sound.served other known
    by_cases same : other = id
    · subst same
      have offered := Lossy.Queue.offered_receive received
      constructor <;> dsimp only <;> rw [Function.update_self]
      case channel => exact served.channel.receive received
      case once => exact offered ▸ served.once
      case ordered => exact offered ▸ served.ordered
      case offered =>
        intro message
        rw [offered]
        exact served.offered message
    · exact served.frame (Function.update_of_ne same _ _) rfl fun _ => Iff.rfl
  case h_2 =>
    split at taken
    · exact Option.some.inj taken ▸ sound
    · exact absurd taken (Option.some_ne_none after).symm

end steps

variable {b : Bus}

/-- Every step keeps the invariant. -/
theorem Sound.step {after : Bus} (sound : Sound b) (label : Label)
    (taken : step b label = some after) : Sound after := by
  cases label with
  | subscribe filter =>
    obtain ⟨⟨-, idle⟩, changed⟩ := Option.ite_none_right_eq_some.mp taken
    exact Option.some.inj changed ▸ sound.subscribe idle filter
  | unsubscribe id =>
    obtain ⟨⟨-, idle, -⟩, changed⟩ := Option.ite_none_right_eq_some.mp taken
    exact Option.some.inj changed ▸ sound.unsubscribe idle id
  | beginPublish event order =>
    obtain ⟨⟨-, listed⟩, changed⟩ := Option.ite_none_right_eq_some.mp taken
    exact Option.some.inj changed ▸ sound.beginPublish event listed
  | publishNext number =>
    exact sound.publishNext (Option.ite_none_right_eq_some.mp taken).2
  | endPublish number =>
    exact sound.endPublish (Option.ite_none_right_eq_some.mp taken).2
  | receive id =>
    exact sound.receive (Option.ite_none_right_eq_some.mp taken).2

theorem sound_of_reachable (reached : Reachable busSystem b) : Sound b := by
  refine reached.invariant Sound (fun start initial => ?_)
    fun _ label _ sound _ taken => sound.step label taken
  obtain rfl : start = newBus := initial
  exact sound_newBus

/-! ### The delivery of events -/

/-- No call of `Publish` took the lock while another one held it, as if each of them were one
step. -/
def Bus.Serial (b : Bus) : Prop := ∀ publication ∈ b.publications, publication.alongside = []

/-- What a subscriber received, followed by what is waiting in its channel. -/
def Subscriber.delivered (sub : Subscriber) : List Message :=
  sub.channel.received ++ sub.channel.unread

/-- The events were delivered to a subscriber as its subscription says. -/
structure Delivered (b : Bus) (id : Nat) : Prop where
  /-- Only events that match and were published during the subscription, none of them twice. -/
  subperm : (b.subscriber id).delivered.Subperm
    ((b.subscriber id).addressed b.publications)
  /-- Two events are in the order of their publication, unless these ran at the same time. -/
  ordered : (b.subscriber id).delivered.Pairwise fun first second =>
    first.number < second.number ∨ Alongside b.publications second.number first.number
  /-- If no two publications ran at the same time, then this is a subsequence. -/
  sublist : b.Serial →
    (b.subscriber id).delivered.Sublist ((b.subscriber id).addressed b.publications)
  /-- An event is missing only if 64 events were waiting unread when it came to the channel. -/
  missing : ∀ message ∈ (b.subscriber id).addressed b.publications,
    message ∈ (b.subscriber id).delivered ∨ b.Pending id message.number ∨
      (message, 64) ∈ (b.subscriber id).channel.offered

theorem not_alongside_of_serial (serial : b.Serial) (number other : Nat) :
    ¬ Alongside b.publications number other := by
  rintro ⟨publication, found, member⟩
  rw [serial publication (List.mem_of_getElem? found)] at member
  exact List.not_mem_nil member

theorem Served.delivered (served : Served b id) : Delivered b id := by
  have offers := served.channel.sublist
  have distinct : ((b.subscriber id).channel.offered.map Prod.fst).Nodup := by
    refine List.Nodup.of_map Message.number ?_
    rw [List.map_map]
    exact served.once
  have addressed : (b.subscriber id).delivered ⊆ (b.subscriber id).addressed b.publications :=
    fun message member => ((served.offered message).mp (offers.subset member)).1
  have subperm := List.subperm_of_subset (distinct.sublist offers) addressed
  have ordered : (b.subscriber id).delivered.Pairwise fun first second =>
      first.number < second.number ∨ Alongside b.publications second.number first.number :=
    (List.pairwise_map.mpr served.ordered).sublist offers
  refine ⟨subperm, ordered, fun serial => ?_, fun message member => ?_⟩
  · have increasing := ordered.imp fun close =>
      close.resolve_right (not_alongside_of_serial serial _ _)
    have : Std.Antisymm fun first second : Message => first.number < second.number :=
      ⟨fun _ _ before after => absurd before (Nat.lt_asymm after)⟩
    exact List.sublist_of_subperm_of_pairwise subperm increasing (pairwise_addressed _ _)
  · by_cases pending : b.Pending id message.number
    · exact Or.inr (Or.inl pending)
    · obtain ⟨⟨found, waiting⟩, offered, rfl⟩ :=
        List.mem_map.mp ((served.offered message).mpr ⟨member, pending⟩)
      rcases served.channel.lost offered with received | unread | rfl
      · exact Or.inl (List.mem_append_left _ received)
      · exact Or.inl (List.mem_append_right _ unread)
      · exact Or.inr (Or.inr offered)

/-- In every interleaving, nothing is sent on a closed channel and no channel is closed twice, and
the events were delivered to every subscriber as its subscription says. -/
theorem delivered_of_reachable {b : Bus} (reached : Reachable busSystem b) :
    b.panicked = false ∧ ∀ id ≤ b.nextID, Delivered b id := by
  have sound := sound_of_reachable reached
  exact ⟨sound.running, fun id known => (sound.served id known).delivered⟩

/-- Two subscribers, the second of which wants bans only, and two publications at the same time
that come to the first subscriber in the other order; then the second one leaves, twice. -/
def crossing : List Label :=
  [.subscribe "", .subscribe "peer_banned",
    .beginPublish ⟨"peer_online", 1, ∅⟩ [2, 1], .beginPublish ⟨"peer_banned", 2, ∅⟩ [1, 2],
    .publishNext 1, .publishNext 0, .publishNext 1, .publishNext 0, .endPublish 0, .endPublish 1,
    .receive 1, .unsubscribe 2, .unsubscribe 2, .receive 2, .receive 2]

/-- How the crossing ends: the first subscriber has the later publication first, the second one
received the ban after it left. -/
def crossed (b : Bus) : Bool :=
  (b.subscriber 1).delivered.map (·.number) = [1, 0] ∧
    (b.subscriber 2).channel.received.map (·.number) = [1] ∧ (b.subscriber 2).closed

theorem delivered_crossing : ∃ b, Reachable busSystem b ∧ crossed b = true ∧
    b.panicked = false ∧ ∀ id ≤ b.nextID, Delivered b id := by
  have ran : (busSystem.run newBus crossing).any crossed = true := by decide +kernel
  obtain ⟨b, reached, ends⟩ := exists_reachable_of_run rfl ran
  exact ⟨b, reached, ends, delivered_of_reachable reached⟩

/-! ### The end of the publications -/

/-- A step of a call of `Publish` that has the lock. -/
def Label.OfPublisher : Label → Prop
  | .publishNext _ | .endPublish _ => True
  | .subscribe _ | .unsubscribe _ | .beginPublish _ _ | .receive _ => False

/-- The states that the calls of `Publish` under way reach from a bus, with nobody else's help. -/
def Onwards (b : Bus) : Bus → Prop :=
  ReachableWhen { busSystem with start := fun start => start = b } fun _ label => label.OfPublisher

theorem Onwards.reachable {after : Bus} (reached : Reachable busSystem b)
    (onwards : Onwards b after) : Reachable busSystem after := by
  induction onwards with
  | @start state same =>
    obtain rfl : state = b := same
    exact reached
  | step _ _ taken inductionHypothesis => exact .step inductionHypothesis trivial taken

/-- A call of `Publish` comes to its end, whatever its loop still has to visit. -/
theorem exists_unlocked (reached : Reachable busSystem b) {event : Event}
    (remaining : List Nat) {s : Bus} (onwards : Onwards b s)
    (call : s.publishing.lookup number = some ⟨event, remaining⟩) :
    ∃ after, Onwards b after ∧ after.publishing.keys = s.publishing.keys.erase number := by
  have running := (sound_of_reachable (onwards.reachable reached)).running
  induction remaining generalizing s with
  | nil =>
    have taken : busSystem.step s (.endPublish number) =
        some { s with publishing := s.publishing.erase number } := by
      show (if _ then s.endPublish number else none) = _
      rw [if_pos running, Bus.endPublish, call]
    have own : (Label.endPublish number).OfPublisher := trivial
    exact ⟨_, .step onwards own taken, AList.keys_erase ..⟩
  | cons id rest inductionHypothesis =>
    have taken : busSystem.step s (.publishNext number) =
        some { s.send ⟨number, event⟩ id with
          publishing := s.publishing.insert number ⟨event, rest⟩ } := by
      show (if _ then s.publishNext number else none) = _
      rw [if_pos running, Bus.publishNext, call]
    have own : (Label.publishNext number).OfPublisher := trivial
    have next : Onwards b _ := .step onwards own taken
    obtain ⟨after, ended, keys⟩ := inductionHypothesis next (AList.lookup_insert _)
      (sound_of_reachable (next.reachable reached)).running
    refine ⟨after, ended, keys.trans ?_⟩
    rw [AList.keys_insert, List.erase_cons_head]

/-- `Publish` never waits for a subscriber: from every state of the bus the calls under way can all
return by their own steps, though nobody receives, and then a subscription and its end no longer
have to wait for the lock. -/
theorem publishers_return (reached : Reachable busSystem b) :
    ∃ after, Onwards b after ∧ after.publishing.keys = [] ∧
      (∀ filter, (busSystem.step after (.subscribe filter)).isSome) ∧
        ∀ id ≤ after.nextID, (busSystem.step after (.unsubscribe id)).isSome := by
  have returned : ∀ count s, Onwards b s → s.publishing.keys.length = count →
      ∃ after, Onwards b after ∧ after.publishing.keys = [] := by
    intro count
    induction count with
    | zero => exact fun s onwards none_ => ⟨s, onwards, List.length_eq_zero_iff.mp none_⟩
    | succ count inductionHypothesis =>
      intro s onwards some_
      obtain ⟨number, member⟩ := List.exists_mem_of_length_eq_add_one some_
      obtain ⟨⟨event, remaining⟩, call⟩ := Option.isSome_iff_exists.mp
        (AList.lookup_isSome.mpr (AList.mem_keys.mpr member))
      obtain ⟨next, ended, keys⟩ := exists_unlocked reached remaining onwards call
      refine inductionHypothesis next ended ?_
      rw [keys, List.length_erase_of_mem member, some_, Nat.add_sub_cancel]
  obtain ⟨after, ended, idle⟩ := returned _ b (.start rfl) rfl
  have running := (sound_of_reachable (ended.reachable reached)).running
  refine ⟨after, ended, idle, fun filter => ?_, fun id known => ?_⟩
  · exact Option.isSome_iff_exists.mpr ⟨_, if_pos ⟨running, idle⟩⟩
  · exact Option.isSome_iff_exists.mpr ⟨_, if_pos ⟨running, idle, known⟩⟩

/-- Two publications at the same time whose subscriber receives nothing. -/
theorem publishers_return_two : ∃ b after, Reachable busSystem b ∧ b.publishing.keys = [1, 0] ∧
    Onwards b after ∧ after.publishing.keys = [] := by
  have ran : (busSystem.run newBus [.subscribe "", .beginPublish ⟨"peer_online", 1, ∅⟩ [1],
      .beginPublish ⟨"peer_banned", 2, ∅⟩ [1]]).any
        (fun b => decide (b.publishing.keys = [1, 0])) = true := by decide +kernel
  obtain ⟨b, reached, ends⟩ := exists_reachable_of_run rfl ran
  obtain ⟨after, onwards, idle, -⟩ := publishers_return reached
  exact ⟨b, after, reached, of_decide_eq_true ends, onwards, idle⟩

end SovaDesk.Events
