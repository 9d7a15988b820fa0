/-
This file is a small library of programs that share a store.

A program is a tree of calls: at each node it makes one call of the store's interface
and goes on with the answer, or with nothing when the call failed. A call is atomic,
and nothing else is: between two calls of one program any number of calls of others
may happen, so a program is run by a pool of threads whose next call is chosen anew at
every step. An observer keeps a record beside the run, which no program can read; the
conditions and the properties of runs are stated with it. The library has one rule for
such runs: a property of the store and the record, together with a property of each
running program that its own calls establish and the calls of the others do not break. A
second form of it states once what a thread may expect of the others, and then follows
each program from call to call.
-/

import SovaDesk.Lib.System
import SovaDesk.Lib.Table

open Transition

namespace Interleave

/-- The calls of a store, their answers, and what an undisturbed call does; `none` is a call that
the store refuses. -/
structure Interface where
  Store : Type
  Call : Type
  Answer : Call → Type
  perform : (call : Call) → Store → Option (Answer call × Store)

/-- A program: its result, or a call and what it does with the answer. -/
inductive Program (interface : Interface) (Result : Type)
  | done (result : Result)
  | call (request : interface.Call)
      (next : Option (interface.Answer request) → Program interface Result)

variable {interface : Interface} {Request Result Other Ghost : Type}

/-- How a call ends: with its answer and its effect, or without either when it is refused or
fails. -/
def Interface.attempt (interface : Interface) (fails : Bool) (call : interface.Call)
    (store : interface.Store) : Option (interface.Answer call) × interface.Store :=
  if fails then (none, store)
  else
    match interface.perform call store with
    | none => (none, store)
    | some (answer, after) => (some answer, after)

variable {store : interface.Store} {after : interface.Store}

/-- A call ends without an answer and without an effect, or undisturbed with both. -/
theorem Interface.attempt_cases {fails : Bool} {call : interface.Call}
    {answer : Option (interface.Answer call)}
    (attempted : interface.attempt fails call store = (answer, after)) :
    (answer = none ∧ after = store) ∨
      ∃ reply, fails = false ∧ interface.perform call store = some (reply, after) ∧
        answer = some reply := by
  unfold Interface.attempt at attempted
  split at attempted
  · obtain ⟨rfl, rfl⟩ := Prod.mk.inj attempted
    exact .inl ⟨rfl, rfl⟩
  · next undisturbed =>
    cases performed : interface.perform call store with
    | none =>
      rw [performed] at attempted
      obtain ⟨rfl, rfl⟩ := Prod.mk.inj attempted
      exact .inl ⟨rfl, rfl⟩
    | some outcome =>
      rw [performed] at attempted
      obtain ⟨rfl, rfl⟩ := Prod.mk.inj attempted
      exact .inr ⟨outcome.1, Bool.eq_false_iff.mpr undisturbed, rfl, rfl⟩

theorem Interface.attempt_of_perform {call : interface.Call} {reply : interface.Answer call}
    (performed : interface.perform call store = some (reply, after)) :
    interface.attempt false call store = (some reply, after) := by
  rw [Interface.attempt, performed]
  rfl

/-! ### Programs -/

namespace Program

/-- Go on with another program after the result. -/
def bind : Program interface Other → (Other → Program interface Result) →
    Program interface Result
  | .done result, rest => rest result
  | .call request next, rest => .call request fun answer => (next answer).bind rest

/-- The result and the store when the program runs alone and no call is disturbed. -/
def eval (store : interface.Store) : Program interface Result → Result × interface.Store
  | .done result => (result, store)
  | .call request next =>
    let (answer, after) := interface.attempt false request store
    (next answer).eval after

/-- Every call the program may come to, with what follows it, has a property. -/
def Always (holds : (request : interface.Call) →
    (Option (interface.Answer request) → Program interface Result) → Prop) :
    Program interface Result → Prop
  | .done _ => True
  | .call request next => holds request next ∧ ∀ answer, (next answer).Always holds

theorem bind_assoc {Third : Type} (program : Program interface Other)
    (rest : Other → Program interface Result) (last : Result → Program interface Third) :
    (program.bind rest).bind last = program.bind fun result => (rest result).bind last := by
  induction program with
  | done result => rfl
  | call request next inductionHypothesis =>
    exact congrArg (Program.call request) (funext inductionHypothesis)

variable {request : interface.Call}
  {next : Option (interface.Answer request) → Program interface Result}

/-- A program that runs alone makes its first call. -/
theorem eval_call {reply : interface.Answer request}
    (performed : interface.perform request store = some (reply, after)) :
    (Program.call request next).eval store = (next (some reply)).eval after := by
  rw [eval, Interface.attempt_of_perform performed]

theorem eval_refused (refused : interface.perform request store = none) :
    (Program.call request next).eval store = (next none).eval store := by
  rw [eval, Interface.attempt, refused]
  rfl

variable {program : Program interface Other} {rest : Other → Program interface Result}

theorem eval_bind
    :
    (program.bind rest).eval store =
      (rest (program.eval store).1).eval (program.eval store).2 := by
  induction program generalizing store with
  | done result => rfl
  | call request next inductionHypothesis =>
    rw [bind, eval, eval]
    exact inductionHypothesis _

theorem Always.bind {allowed : interface.Call → Prop}
    (first : program.Always fun request _ => allowed request)
    (second : ∀ result, (rest result).Always fun request _ => allowed request) :
    (program.bind rest).Always fun request _ => allowed request := by
  induction program with
  | done result => exact second result
  | call request next inductionHypothesis =>
    exact ⟨first.1, fun answer => inductionHypothesis answer (first.2 answer)⟩

/-- What the calls of a program keep holds after it has run alone. -/
theorem eval_keeps {holds : interface.Store → Prop} {allowed : interface.Call → Prop}
    {program : Program interface Result}
    (always : program.Always fun request _ => allowed request)
    (kept : ∀ request, allowed request → ∀ before reply after, holds before →
      interface.perform request before = some (reply, after) → holds after)
    (start : holds store) : holds (program.eval store).2 := by
  induction program generalizing store with
  | done result => exact start
  | call request next inductionHypothesis =>
    rw [eval]
    refine inductionHypothesis _ (always.2 _) ?_
    cases performed : interface.perform request store with
    | none => exact start
    | some outcome => exact kept request always.1 store outcome.1 outcome.2 start performed

/-- Every call the program may come to, when some calls are always answered, has a property of it
and of the calls that were answered before, the latest first. -/
def After (mayFail : interface.Call → Prop) (holds : List interface.Call → interface.Call → Prop)
    (seen : List interface.Call) : Program interface Result → Prop
  | .done _ => True
  | .call request next => holds seen request ∧
      (mayFail request → (next none).After mayFail holds seen) ∧
      ∀ answer, (next (some answer)).After mayFail holds (request :: seen)

section after

variable {mayFail : interface.Call → Prop} {holds : List interface.Call → interface.Call → Prop}
  {seen : List interface.Call}

theorem After.bind (first : program.After mayFail holds seen)
    (second : ∀ result later, (rest result).After mayFail holds later) :
    (program.bind rest).After mayFail holds seen := by
  induction program generalizing seen with
  | done result => exact second result seen
  | call request next inductionHypothesis =>
    obtain ⟨holdsNow, refused, answered⟩ := first
    exact ⟨holdsNow, fun fails => inductionHypothesis none (refused fails),
      fun answer => inductionHypothesis (some answer) (answered answer)⟩

/-- A call that has the property whatever came before. -/
theorem After.call (free : holds seen request)
    (rest : ∀ answer later, (next answer).After mayFail holds later) :
    (Program.call request next).After mayFail holds seen :=
  ⟨free, fun _ => rest none seen, fun answer => rest (some answer) _⟩

end after

end Program

/-! ### Pools of threads -/

/-- A running program and what it was started for. -/
structure Thread (interface : Interface) (Request Result : Type) where
  request : Request
  program : Program interface Result

/-- The store, the running threads, and the observer's record. -/
structure Pool (interface : Interface) (Request Result Ghost : Type) where
  store : interface.Store
  running : Table Nat (Thread interface Request Result)
  ghost : Ghost

/-- What an observer notes when a thread begins, makes a call (with the store before it) and
ends. -/
structure Observer (interface : Interface) (Request Result Ghost : Type) where
  began : Nat → Request → Ghost → Ghost
  called : Nat → Request → (call : interface.Call) → Option (interface.Answer call) →
    interface.Store → Ghost → Ghost
  ended : Nat → Request → Result → Ghost → Ghost

/-- The steps of a pool: a new thread begins, or a running one makes its next call. -/
inductive Label (Request : Type)
  | begin (thread : Nat) (request : Request)
  | turn (thread : Nat) (fails : Bool)
  deriving DecidableEq

/-- Let a thread stand before its next call, or end it if there is none. -/
def Pool.settle (observer : Observer interface Request Result Ghost)
    (pool : Pool interface Request Result Ghost) (thread : Nat) (request : Request) :
    Program interface Result → Pool interface Request Result Ghost
  | .done result =>
    { pool with
      running := pool.running.erase thread
      ghost := observer.ended thread request result pool.ghost }
  | .call call next =>
    { pool with running := pool.running.insert thread ⟨request, .call call next⟩ }

/-- One step of a pool. -/
def Pool.step (handler : Request → Program interface Result)
    (observer : Observer interface Request Result Ghost)
    (pool : Pool interface Request Result Ghost) :
    Label Request → Option (Pool interface Request Result Ghost)
  | .begin thread request =>
    if (pool.running.lookup thread).isSome then none
    else
      let noted := { pool with ghost := observer.began thread request pool.ghost }
      some (noted.settle observer thread request (handler request))
  | .turn thread fails =>
    match pool.running.lookup thread with
    | some ⟨request, .call call next⟩ =>
      let (answer, store) := interface.attempt fails call pool.store
      let noted := { pool with
        store := store
        ghost := observer.called thread request call answer pool.store pool.ghost }
      some (noted.settle observer thread request (next answer))
    | _ => none

/-- What a running thread was started for, and the call it makes at its next turn. -/
def Pool.nextCall (pool : Pool interface Request Result Ghost) (thread : Nat) :
    Option (Request × interface.Call) :=
  match pool.running.lookup thread with
  | some ⟨request, .call call _⟩ => some (request, call)
  | _ => none

variable {pool : Pool interface Request Result Ghost} {request : Request} {thread : Nat}

theorem Pool.nextCall_of_lookup {call : interface.Call}
    {next : Option (interface.Answer call) → Program interface Result}
    (found : pool.running.lookup thread = some ⟨request, .call call next⟩) :
    pool.nextCall thread = some (request, call) := by
  rw [Pool.nextCall, found]

theorem Pool.lookup_of_nextCall {call : interface.Call}
    (isNext : pool.nextCall thread = some (request, call)) :
    ∃ next, pool.running.lookup thread = some ⟨request, .call call next⟩ := by
  unfold Pool.nextCall at isNext
  split at isNext
  · next request call next found =>
    obtain ⟨rfl, rfl⟩ := Prod.mk.inj (Option.some.inj isNext)
    exact ⟨next, found⟩
  · exact absurd isNext (Option.some_ne_none _).symm

theorem Pool.settle_store (observer : Observer interface Request Result Ghost)
    (pool : Pool interface Request Result Ghost) (thread : Nat) (request : Request)
    (program : Program interface Result) :
    (pool.settle observer thread request program).store = pool.store := by
  cases program <;> rfl

theorem Pool.store_of_turn {handler : Request → Program interface Result}
    {observer : Observer interface Request Result Ghost}
    {after : Pool interface Request Result Ghost} {fails : Bool}
    {call : interface.Call}
    {next : Option (interface.Answer call) → Program interface Result}
    (found : pool.running.lookup thread = some ⟨request, .call call next⟩)
    (stepped : pool.step handler observer (.turn thread fails) = some after) :
    after.store = (interface.attempt fails call pool.store).2 := by
  rw [Pool.step, found] at stepped
  rw [← Option.some.inj stepped, Pool.settle_store]
  rfl

/-- The runs of any number of threads over one store, from an idle pool. -/
def interleaving (handler : Request → Program interface Result)
    (observer : Observer interface Request Result Ghost)
    (initial : interface.Store → Ghost → Prop) :
    System (Pool interface Request Result Ghost) (Label Request) where
  start pool := pool.running = ∅ ∧ initial pool.store pool.ghost
  step := Pool.step handler observer

/-! ### The rule -/

/-- What has to be shown of a property of store and record and a property of running threads: each
begin, call and end keeps the first, establishes the second for its own thread and keeps it for
the others. -/
structure Obligations (handler : Request → Program interface Result)
    (observer : Observer interface Request Result Ghost)
    (guard : Pool interface Request Result Ghost → Label Request → Prop)
    (shared : interface.Store → Ghost → Prop)
    (own : interface.Store → Ghost → Nat → Request → Program interface Result → Prop) :
    Prop where
  begins : ∀ store ghost thread request, shared store ghost →
    shared store (observer.began thread request ghost) ∧
      own store (observer.began thread request ghost) thread request (handler request) ∧
      ∀ other, other ≠ thread → ∀ another program, own store ghost other another program →
        own store (observer.began thread request ghost) other another program
  calls : ∀ pool thread fails request call next, guard pool (.turn thread fails) →
    pool.running.lookup thread = some ⟨request, .call call next⟩ →
    shared pool.store pool.ghost →
    own pool.store pool.ghost thread request (.call call next) →
    ∀ answer after, interface.attempt fails call pool.store = (answer, after) →
    shared after (observer.called thread request call answer pool.store pool.ghost) ∧
      own after (observer.called thread request call answer pool.store pool.ghost) thread request
        (next answer) ∧
      ∀ other, other ≠ thread → ∀ another program, own pool.store pool.ghost other another program →
        own after (observer.called thread request call answer pool.store pool.ghost) other another
          program
  ends : ∀ store ghost thread request result, shared store ghost →
    own store ghost thread request (.done result) →
    shared store (observer.ended thread request result ghost) ∧
      ∀ other, other ≠ thread → ∀ another program, own store ghost other another program →
        own store (observer.ended thread request result ghost) other another program

section rule

variable {handler : Request → Program interface Result}
  {observer : Observer interface Request Result Ghost}
  {guard : Pool interface Request Result Ghost → Label Request → Prop}
  {shared : interface.Store → Ghost → Prop}
  {own : interface.Store → Ghost → Nat → Request → Program interface Result → Prop}

/-- What the rule keeps. -/
def Pool.Holds (shared : interface.Store → Ghost → Prop)
    (own : interface.Store → Ghost → Nat → Request → Program interface Result → Prop)
    (pool : Pool interface Request Result Ghost) : Prop :=
  shared pool.store pool.ghost ∧ ∀ thread running, pool.running.lookup thread = some running →
    own pool.store pool.ghost thread running.request running.program

/-- A thread that settles keeps what holds of the others. -/
theorem Obligations.settle (obligations : Obligations handler observer guard shared own)
    {program : Program interface Result} (kept : shared pool.store pool.ghost)
    (established : own pool.store pool.ghost thread request program)
    (others : ∀ other running, other ≠ thread → pool.running.lookup other = some running →
      own pool.store pool.ghost other running.request running.program) :
    (pool.settle observer thread request program).Holds shared own := by
  cases program with
  | done result =>
    obtain ⟨sharedAfter, othersAfter⟩ :=
      obligations.ends pool.store pool.ghost thread request result kept established
    refine ⟨sharedAfter, fun other running found => ?_⟩
    obtain ⟨different, older⟩ := Table.lookup_erase_iff.mp found
    exact othersAfter other different _ _ (others other running different older)
  | call call next =>
    refine ⟨kept, fun other running found => ?_⟩
    rcases Table.lookup_insert_iff.mp found with ⟨rfl, rfl⟩ | ⟨different, older⟩
    · exact established
    · exact others other running different older

/-- The rule: what meets the obligations and holds at every start holds in every guarded run. -/
theorem Obligations.invariant {initial : interface.Store → Ghost → Prop}
    (obligations : Obligations handler observer guard shared own)
    (starts : ∀ store ghost, initial store ghost → shared store ghost)
    (reached : ReachableWhen (interleaving handler observer initial) guard pool) :
    pool.Holds shared own := by
  refine reached.invariant (Pool.Holds shared own) ?_ ?_
  · rintro pool ⟨idle, isInitial⟩
    refine ⟨starts _ _ isInitial, fun thread running found => ?_⟩
    rw [idle] at found
    exact (nomatch found)
  · rintro before label after ⟨kept, established⟩ allowed taken
    cases label with
    | begin thread request =>
      have stepped : Pool.step handler observer before (.begin thread request) = some after := taken
      rw [Pool.step] at stepped
      split_ifs at stepped
      rw [← Option.some.inj stepped]
      obtain ⟨sharedAfter, ownAfter, othersAfter⟩ :=
        obligations.begins before.store before.ghost thread request kept
      exact obligations.settle sharedAfter ownAfter fun other running different found =>
        othersAfter other different _ _ (established other running found)
    | turn thread fails =>
      have stepped : Pool.step handler observer before (.turn thread fails) = some after := taken
      rw [Pool.step] at stepped
      split at stepped
      · next request call next found =>
        rw [← Option.some.inj stepped]
        obtain ⟨sharedAfter, ownAfter, othersAfter⟩ :=
          obligations.calls before thread fails request call next allowed found kept
            (established thread _ found) _ _ rfl
        exact obligations.settle sharedAfter ownAfter fun other running different foundOther =>
          othersAfter other different _ _ (established other running foundOther)
      · exact absurd stepped (Option.some_ne_none _).symm

end rule

/-! ### The rule for programs among others -/

/-- What a thread may expect of the calls of others: a relation on store and record that allows
nothing to happen, and any number of allowed changes. -/
structure Rely (interface : Interface) (Ghost : Type) where
  allows : Nat → interface.Store → Ghost → interface.Store → Ghost → Prop
  refl : ∀ thread store ghost, allows thread store ghost store ghost
  trans : ∀ {thread first firstGhost second secondGhost third thirdGhost},
    allows thread first firstGhost second secondGhost →
      allows thread second secondGhost third thirdGhost →
      allows thread first firstGhost third thirdGhost

section rely

variable (observer : Observer interface Request Result Ghost)
  (allowed : Nat → Request → interface.Call → Bool → interface.Store → Ghost → Prop)
  (shared : interface.Store → Ghost → Prop) (rely : Rely interface Ghost)

/-- A step that a thread takes keeps the shared property and does what the others expect. -/
structure Rely.Fair (thread : Nat) (store : interface.Store) (ghost : Ghost)
    (after : interface.Store) (noted : Ghost) : Prop where
  kept : shared after noted
  expected : ∀ other, other ≠ thread → rely.allows other store ghost after noted

/-- Every step of a program is fair, whatever the others do in between. -/
def Program.Among (thread : Nat) (request : Request) :
    Program interface Result → interface.Store → Ghost → Prop
  | .done result, before, old => ∀ store ghost, rely.allows thread before old store ghost →
      shared store ghost →
      rely.Fair shared thread store ghost store (observer.ended thread request result ghost)
  | .call asked next, before, old => ∀ store ghost, rely.allows thread before old store ghost →
      shared store ghost → ∀ fails, allowed thread request asked fails store ghost →
      ∀ answer after, interface.attempt fails asked store = (answer, after) →
      rely.Fair shared thread store ghost after
          (observer.called thread request asked answer store ghost) ∧
        (next answer).Among thread request after
          (observer.called thread request asked answer store ghost)

variable {observer allowed shared rely}

/-- What the others do leaves a program fair. -/
theorem Program.Among.later
    {program : Program interface Result} {before : interface.Store} {old ghost : Ghost}
    (among : program.Among observer allowed shared rely thread request before old)
    (changed : rely.allows thread before old store ghost) :
    program.Among observer allowed shared rely thread request store ghost := by
  cases program with
  | done result => exact fun after noted further => among after noted (rely.trans changed further)
  | call call next =>
    exact fun after noted further => among after noted (rely.trans changed further)

/-- The rule: when every handler is fair among others, the shared property holds in every guarded
run. -/
theorem Rely.obligations {handler : Request → Program interface Result}
    {guard : Pool interface Request Result Ghost → Label Request → Prop}
    (begins : ∀ store ghost thread request, shared store ghost →
      rely.Fair shared thread store ghost store (observer.began thread request ghost) ∧
        (handler request).Among observer allowed shared rely thread request store
          (observer.began thread request ghost))
    (guarded : ∀ pool thread fails request call, guard pool (.turn thread fails) →
      pool.nextCall thread = some (request, call) →
      allowed thread request call fails pool.store pool.ghost) :
    Obligations handler observer guard shared fun store ghost thread request program =>
      program.Among observer allowed shared rely thread request store ghost where
  begins store ghost thread request kept := by
    obtain ⟨fair, among⟩ := begins store ghost thread request kept
    exact ⟨fair.kept, among, fun other different another program held =>
      held.later (fair.expected other different)⟩
  calls pool thread fails request call next holds found kept among answer after attempted := by
    obtain ⟨fair, rest⟩ := among pool.store pool.ghost (rely.refl _ _ _) kept fails
      (guarded pool thread fails request call holds (Pool.nextCall_of_lookup found)) answer after
      attempted
    exact ⟨fair.kept, rest, fun other different another program held =>
      held.later (fair.expected other different)⟩
  ends store ghost thread request result kept among := by
    have fair := among store ghost (rely.refl _ _ _) kept
    exact ⟨fair.kept, fun other different another program held =>
      held.later (fair.expected other different)⟩

end rely

end Interleave
