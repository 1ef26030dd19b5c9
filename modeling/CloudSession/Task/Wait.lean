/-
Waiting for a task. It is polled until it ends or the time is up, which is
looked at after each poll: the first poll takes no time, and between polls
the waiter sleeps for the interval.
-/
import CloudSession.Session.Requests
import CloudSession.Task.Status

namespace CloudSession

namespace Task

/-- A task that was waited for. Times are in milliseconds. -/
structure Watched where
  ref : String
  state : State
  polls : Nat
  timeout : Nat
  interval : Nat
deriving DecidableEq, Repr

/-- What a status means to the waiter: the task goes on, or the wait ends. -/
def verdict (ref : String) (status : Status) : Option (Except SessionError Unit) :=
  match status.state with
  | .success => some (.ok ())
  | .error => some (.error (.task ref (status.message.getD "Unknown error")))
  | .canceled => some (.error (.taskCanceled ref))
  | _ => none

/-- Polls until the wait ends, `polls` having been made in `elapsed`
milliseconds. The first argument bounds the polls still to be made. -/
def waitFrom {m : Type → Type} [Monad m] [MonadExcept SessionError m] (poll : m Status)
    (ref : String) (timeout interval : Nat) : Nat → Nat → Nat → m Watched
  | 0, _, _ => throw (.taskTimeout ref timeout)
  | bound + 1, polls, elapsed => do
    let status ← poll
    match verdict ref status with
    | some (.ok ()) => return ⟨ref, status.state, polls + 1, timeout, interval⟩
    | some (.error e) => throw e
    | none =>
      if timeout ≤ elapsed then throw (.taskTimeout ref timeout)
      else waitFrom poll ref timeout interval bound (polls + 1) (elapsed + interval)

/-- How many polls can be made before the time is up. Without an interval
time stands still, and only `pending` more polls can be answered. -/
def pollBound (timeout interval pending : Nat) : Nat :=
  if interval = 0 then pending + 1 else timeout / interval + 2

end Task

namespace Client

/-- The status of a task. -/
def poll (c : Client) (format : Task.Format) (ref : String) : Action Task.Status := do
  let response ← c.call ref .get Headers.empty none
  Action.attempt (Task.parseStatus format response)

/-- Waits for a task. -/
def wait (c : Client) (format : Task.Format) (ref : String) (timeout interval : Nat) :
    Action Task.Watched := do
  let pending := (← get).outside.network.answers.length
  Task.waitFrom (c.poll format ref) ref timeout interval
    (Task.pollBound timeout interval pending) 0 0

end Client
end CloudSession
