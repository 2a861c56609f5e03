import Mathlib.Data.BitVec
import Ormpp.Data.Bytes
import Ormpp.Data.Interleaving

/-!
# The awaiter of an asio coroutine

`SafeAsioAwaitableAdapter`, compiled with its executors and its cancellation: the state that the
awaiter shares with the tasks it posts, and one definition for each task or call. Tasks and calls
run one after the other, in any order that the posts allow; what asio, the executor and the child do
is an answer of the environment.

The parent coroutine is suspended while it awaits, and an awaiter is awaited once, as the awaitable
in it can be run once. A task that asio has taken runs once, and a coroutine that was spawned
completes once.
-/

namespace Ormpp

namespace Adapter

/-- `asio::cancellation_type`. -/
abbrev CancellationType := BitVec 32

def CancellationType.none : CancellationType := 0

def CancellationType.all : CancellationType := 0xffffffff

/-- How far the child coroutine is, for the statements only. `run_asio` is at its end before asio
calls the completion handler. -/
inductive Child
  | unborn
  | running
  | finished
  | completed
  deriving DecidableEq

/-- The fields of `SharedState` but for the awaitable, and who holds it. -/
structure State (α : Type) where
  result : Option α := none
  exception : Option Bytes := none
  resumeHandle : Bool := false
  finished : Bool := false
  awaitStarted : Bool := false
  abandoned : Bool := false
  resumeObserved : Bool := false
  asyncExecutor : Bool := false
  pendingCancellation : CancellationType := .none
  /-- The adapters whose `state_` points here. The first one is made with it. -/
  holders : List ℕ := [0]
  /-- An adapter was destroyed, or assigned to, while it held the state. -/
  destroyed : Bool := false
  child : Child := .unborn

inductive Schedule
  | accepts
  | refuses
  | throws (exception : Bytes)

/-- What a task or a call is answered. None asks for all of it. -/
structure Answer (α : Type) where
  /-- What `asio::post` throws. -/
  post : Option Bytes := none
  /-- What `asio::co_spawn` throws. -/
  spawn : Option Bytes := none
  /-- The value or the exception of the child, if it comes to its end. -/
  outcome : Option (Except Bytes α) := none
  /-- The exception that asio gives to the completion handler. -/
  completion : Option Bytes := none
  schedule : Schedule := .accepts
  /-- The state of a cancellation handle is gone. -/
  expired : Bool := false

inductive Call
  | coAwait (source target : ℕ) (executor : Bool)
  | awaitSuspend (adapter : ℕ)
  | cancel (adapter : ℕ) (type : CancellationType)
  | cancelByHandle (type : CancellationType)
  | moveConstruct (source target : ℕ)
  | moveAssign (source target : ℕ)
  | destroy (adapter : ℕ)
  deriving DecidableEq

/-- A call that was made, or what has become of it. -/
inductive Frame
  | called (c : Call)
  | startPosted
  | child
  | childFinished
  | resumePosted
  /-- On the executor. -/
  | scheduled
  | cancelPosted (type : CancellationType)
  | returned
  deriving DecidableEq

inductive Action (α : Type)
  /-- The child is spawned, with the state as it is then. -/
  | spawned (s : State α)
  /-- The parent is resumed, with the state as it is then. -/
  | resumed (s : State α)
  /-- The task of a cancel request runs before the child has finished. -/
  | requested (type : CancellationType)
  /-- The signal reaches the child. -/
  | delivered (type : CancellationType)

variable {α : Type}

abbrev Segment (α : Type) := State α × Frame × List (Action α)

namespace State

def shouldResume (s : State α) : Bool := !s.abandoned && !s.resumeObserved && s.resumeHandle

/-! ## Resumption -/

/-- `await_resume` takes the result out unless it throws. -/
def awaitResume (s : State α) : State α :=
  { s with resumeObserved := true, result := if s.exception.isSome then s.result else none }

/-- `handle.resume()`, up to `await_resume`. -/
def resume (s : State α) : Segment α := (s.awaitResume, .returned, [.resumed s])

/-- An exception is stored unless one is already there. -/
def addException (s : State α) (exception : Bytes) : State α :=
  { s with exception := s.exception.or (some exception) }

/-- `resume_parent`. -/
def resumeParent (s : State α) (schedule : Schedule) : Segment α :=
  if !s.shouldResume then (s, .returned, [])
  else if s.asyncExecutor then
    match schedule with
    | .accepts => (s, .scheduled, [])
    | .refuses => s.resume
    | .throws exception => (s.addException exception).resume
  else s.resume

/-- The task that `resume_parent` schedules. -/
def resumeScheduled (s : State α) : Segment α :=
  if s.shouldResume then s.resume else (s, .returned, [])

/-- `post_resume`. The task has taken the pointer to the state before it is posted, so that the
handler of an exception would find a null pointer. -/
def postResume (s : State α) (answer : Answer α) : Option (Segment α) :=
  match answer.post with
  | none => some (s, .resumePosted, [])
  | some _ => none

/-! ## The child -/

/-- The end of `run_asio`. -/
def runAsio (s : State α) : Except Bytes α → State α
  | .ok value => { s with result := some value, finished := true, child := .finished }
  | .error exception => { s with exception := some exception, finished := true, child := .finished }

def finishedWithoutResult : Bytes :=
  ascii "asio_async_simple_adapter: safe asio coroutine finished without a result"

/-- What `complete_asio` stores. -/
def completed (s : State α) (completion : Option Bytes) : State α :=
  let t := { s with exception := s.exception.or completion, child := .completed }
  if !t.finished && t.exception.isNone then { t with exception := some finishedWithoutResult }
  else t

/-- `complete_asio`. -/
def completeAsio (s : State α) (answer : Answer α) : Option (Segment α) :=
  (s.completed answer.completion).postResume answer

/-- The signal reaches a child that was spawned until its completion, and is lost otherwise. -/
def emit (s : State α) (type : CancellationType) : List (Action α) :=
  match s.child with
  | .running | .finished => [.delivered type]
  | .unborn | .completed => []

def emitPending (s : State α) : List (Action α) :=
  if s.pendingCancellation ≠ .none then s.emit s.pendingCancellation else []

/-- `start_asio`. The child runs at once, maybe to its end. -/
def startAsio (s : State α) (answer : Answer α) : Option (Segment α) :=
  if s.abandoned then some (s, .returned, [])
  else
    match answer.spawn with
    | some exception =>
      { s with exception := some exception, finished := true }.postResume answer
    | none =>
      let t := { s with child := .running }
      match answer.outcome with
      | none => some (t, .child, .spawned s :: t.emitPending)
      | some outcome =>
        some (t.runAsio outcome, .childFinished, .spawned s :: (t.runAsio outcome).emitPending)

/-- The child goes on to its end, or is torn down before it. -/
def endChild (s : State α) (answer : Answer α) : Option (Segment α) :=
  match answer.outcome with
  | some outcome => some (s.runAsio outcome, .childFinished, [])
  | none => s.completeAsio answer

/-! ## Cancellation -/

/-- `request_cancel`. -/
def requestCancel (s : State α) (answer : Answer α) (type : CancellationType) : Segment α :=
  if s.resumeObserved then (s, .returned, [])
  else
    match answer.post with
    | none => (s, .cancelPosted type, [])
    | some _ => (s, .returned, [])

def recordRequest (s : State α) (type : CancellationType) : List (Action α) :=
  match s.child with
  | .unborn | .running => [.requested type]
  | .finished | .completed => []

/-- The task that `request_cancel` posts. -/
def runCancel (s : State α) (type : CancellationType) : Segment α :=
  if s.finished || s.resumeObserved then (s, .returned, s.recordRequest type)
  else
    let t := { s with pendingCancellation := s.pendingCancellation ||| type }
    (t, .returned, s.recordRequest type ++ t.emit type)

/-- `abandon`. -/
def abandon (s : State α) (answer : Answer α) : Segment α :=
  if s.resumeObserved then (s, .returned, [])
  else
    let t := { s with abandoned := true }
    if !t.awaitStarted then (t, .returned, []) else t.requestCancel answer .all

/-! ## The adapters -/

/-- The pointer is moved from one adapter to another. -/
def movePointer (s : State α) (source target : ℕ) : State α :=
  if source ∈ s.holders then { s with holders := target :: s.holders.erase source } else s

/-- The destructor. -/
def destroy (s : State α) (answer : Answer α) (adapter : ℕ) : Segment α :=
  if adapter ∈ s.holders then
    { s with holders := s.holders.erase adapter, destroyed := true }.abandon answer
  else (s, .returned, [])

/-- The assignment abandons what the target held before. -/
def moveAssign (s : State α) (answer : Answer α) (source target : ℕ) : Segment α :=
  if source = target then (s, .returned, [])
  else if target ∈ s.holders then
    ({ s with
        holders := s.holders.erase target
        destroyed := true }.movePointer source target).abandon
      answer
  else (s.movePointer source target, .returned, [])

def coAwait (s : State α) (source target : ℕ) (executor : Bool) : State α :=
  if source ∈ s.holders then { s with asyncExecutor := executor }.movePointer source target else s

/-- `await_suspend`. Where it returns false the parent goes on with `await_resume`. -/
def awaitSuspend (s : State α) (answer : Answer α) (adapter : ℕ) : Option (Segment α) :=
  if adapter ∉ s.holders then some (s, .returned, [])
  else if s.awaitStarted then none
  else
    let t := { s with resumeHandle := true, awaitStarted := true }
    match answer.post with
    | none => some (t, .startPosted, [])
    | some exception =>
      some ({ t with exception := some exception, finished := true }.awaitResume, .returned, [])

def runCall (s : State α) (answer : Answer α) : Call → Option (Segment α)
  | .coAwait source target executor => some (s.coAwait source target executor, .returned, [])
  | .awaitSuspend adapter => s.awaitSuspend answer adapter
  | .cancel adapter type =>
    some (if adapter ∈ s.holders then s.requestCancel answer type else (s, .returned, []))
  | .cancelByHandle type =>
    some (if answer.expired then (s, .returned, []) else s.requestCancel answer type)
  | .moveConstruct source target => some (s.movePointer source target, .returned, [])
  | .moveAssign source target => some (s.moveAssign answer source target)
  | .destroy adapter => some (s.destroy answer adapter)

end State

/-! ## The program -/

/-- A task or a call runs. One that cannot happen, or whose behaviour is undefined, has no
result. -/
def resume (s : State α) : Frame → Answer α → Option (Segment α)
  | .called c, answer => s.runCall answer c
  | .startPosted, answer => s.startAsio answer
  | .child, answer => s.endChild answer
  | .childFinished, answer => s.completeAsio answer
  | .resumePosted, answer => some (s.resumeParent answer.schedule)
  | .scheduled, _ => some s.resumeScheduled
  | .cancelPosted type, _ => some (s.runCancel type)
  | .returned, _ => some (s, .returned, [])

def program (α : Type) : Program (State α) Frame Call (Answer α) (Action α) := ⟨.called, resume⟩

/-- An adapter as its constructor leaves it. -/
def initial (α : Type) : Config (State α) Frame := ⟨{}, []⟩

end Adapter

end Ormpp
