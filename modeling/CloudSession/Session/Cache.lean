/-
Getting a token. A context is looked for in the shared store, then in the
client's own memory; if neither has a valid one, a handshake is performed
and its context kept in both. That the shared store cannot be written does
not spoil a session that has been established.
-/
import CloudSession.Client
import CloudSession.Session.Scene

namespace CloudSession.Client

open CloudSession.Action

/-- Whether a context may still be used. -/
def isValid (c : Client) (context : Context) : Action Bool := do
  match context.isValid (← now) c.skew with
  | some valid => return valid
  | none => throw .clockRange

/-- Keeps a context in the client's memory. -/
def remember (c : Client) (context : Context) : Action Unit :=
  setSession fun s => { s with memory := s.memory.put c.key context }

/-- Removes the client's context from its memory. -/
def forget (c : Client) : Action Unit :=
  setSession fun s => { s with memory := s.memory.clear c.key }

/-- The cached context, valid or not. One found in the shared store is
copied into memory. -/
def cached (c : Client) : Action (Option Context) := do
  match ← storeGet c.key with
  | some context => do
    c.remember context
    return some context
  | none => return (← session).memory.get? c.key

/-- The cached context if it is valid. -/
def cachedValid (c : Client) : Action (Option Context) := do
  match ← c.cached with
  | none => return none
  | some context => return if ← c.isValid context then some context else none

/-- Performs the handshake. -/
def handshake (c : Client) : Action Context := do
  let request ← attempt (Handshake.request c.identity)
  let answer ← send .handshake request
  attempt (Handshake.conclude c.identity answer)

/-- Performs the handshake and caches its context. -/
def renew (c : Client) : Action Context := do
  let context ← c.handshake
  c.remember context
  ignoringErrors (storePut c.key context)
  return context

/-- A valid context, cached unless a new one is forced. -/
def negotiate (c : Client) (force : Bool) : Action Context := do
  if force then c.renew
  else
    match ← c.cachedValid with
    | some context => return context
    | none => c.renew

/-- Removes the client's context from memory and from the shared store. -/
def clearCached (c : Client) : Action Unit := do
  c.forget
  storeClear c.key

end CloudSession.Client
