/-
Two clients side by side, whatever they are asked to do. Operations go in
lockstep if those do that make no calls, and the calls by which the others are
carried out (`Operation.lockstep_runBy`). Under a relation that the basic
actions go along with, all do that look at no connection but through calls
(`Operation.lockstep_apart`).
-/
import CloudSession.Proofs.Fleet.Basic
import CloudSession.Proofs.Session.Lockstep

namespace CloudSession

/-- What is seen of an operation: what it gave, and what it did outside. -/
structure Observation where
  operation : Operation
  result : Except SessionError Yield
  events : List Event

namespace Operation

open CloudSession.Action CloudSession.Client

/-- Carries out an operation, with another way to make calls. -/
def runBy (c : Client) (call : Calling) : Operation → Action Yield
  | .call action method headers body => return .response (← call action method headers body)
  | .poll format ref => return .status (← pollBy call format ref)
  | .wait format ref timeout interval =>
    return .watched (← waitBy call format ref timeout interval)
  | operation => operation.run c

/-- A client carries operations out with its own calls. -/
theorem run_eq_runBy (c : Client) (operation : Operation) :
    operation.run c = operation.runBy c c.call := by
  cases operation <;> rfl

/-- Whether an operation makes calls. -/
def makesCalls : Operation → Bool
  | .call _ _ _ _ => true
  | .poll _ _ => true
  | .wait _ _ _ _ => true
  | _ => false

/-- Whether an operation gives the connection for the client's requests. -/
def isResolve : Operation → Bool
  | .resolve => true
  | _ => false

variable {c : Client} {R : Scene → Scene → Prop}

/-- Operations go in lockstep as their calls do. -/
theorem lockstep_runBy {call call' : Calling}
    (hnetwork : ∀ {s t}, R s t → t.outside.network = s.outside.network)
    (hcall : ∀ action method headers body,
      Lockstep R (call action method headers body) (call' action method headers body))
    {operation : Operation}
    (hother : operation.makesCalls = false →
      Lockstep R (operation.run c) (operation.run c)) :
    Lockstep R (operation.runBy c call) (operation.runBy c call') := by
  cases operation with
  | call action method headers body => exact (hcall action method headers body).returning _
  | poll format ref => exact (lockstep_pollBy hcall format ref).returning _
  | wait format ref timeout interval =>
    exact (lockstep_waitBy hcall hnetwork format ref timeout interval).returning _
  | _ => exact hother rfl

/-- What makes no calls goes along where the basic actions do, but that a
connection is given must be told of apart. -/
theorem lockstep_apart (h : c.Mirrors R) {operation : Operation}
    (hcalls : operation.makesCalls = false)
    (hresolve : operation.isResolve = true → Lockstep R c.resolve c.resolve) :
    Lockstep R (operation.run c) (operation.run c) := by
  cases operation with
  | authenticate force => exact (h.authenticate force).returning _
  | ensureSession => exact h.ensureSession.returning _
  | catalog => exact h.catalog.returning _
  | endpoint wanted => exact (h.endpoint wanted).returning _
  | resolve => exact (hresolve rfl).returning _
  | invalidate => exact .bind h.invalidate fun _ => .pure _
  | negotiate force => exact (h.negotiate force).returning _
  | isValid context => exact (h.isValid context).returning _
  | cached => exact h.cached.returning _
  | clearCached => exact .bind h.clearCached fun _ => .pure _
  | _ => exact absurd hcalls (by simp [makesCalls])

end Operation
end CloudSession
