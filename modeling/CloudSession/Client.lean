/-
A client: an identity and how its requests find their service. A
configuration becomes a client only if everything in it that can be checked
without a network is in order.
-/
import CloudSession.CacheKey
import CloudSession.Catalog.Basic
import CloudSession.Handshake.Basic

namespace CloudSession

/-- The protocol that a configuration names. -/
def Protocol.named (name : String) : Except SessionError Protocol :=
  match Protocol.ofName? name with
  | some p => .ok p
  | none => .error (.configuration (.unknownProtocol (Text.trim name)))

/-- What a client is made from. The skew, in nanoseconds, is how long before
its expiry a token counts as expired. -/
structure Config where
  identity : Identity
  selector : Selector
  defaults : Wanted
  skew : Int
  evictsForced : Bool
  sharesStore : Bool
deriving DecidableEq, Repr

/-- A client whose configuration has been checked. -/
structure Client where
  identity : Identity
  selector : Selector
  microversion : Option Microversion
  defaults : Wanted
  skew : Int
  evictsForced : Bool
deriving DecidableEq, Repr

namespace Client

/-- The client of a configuration. -/
def ofConfig (c : Config) : Except SessionError Client :=
  match Handshake.validate c.identity, c.selector.validate with
  | .error e, _ => .error e
  | .ok (), .error e => .error e
  | .ok (), .ok microversion =>
    .ok ⟨c.identity, c.selector, microversion, c.defaults, c.skew, c.evictsForced⟩

/-- A configuration becomes a client only when it is in order throughout. -/
theorem ofConfig_eq_ok {config : Config} {c : Client} (h : ofConfig config = .ok c) :
    ∃ microversion, Handshake.validate config.identity = .ok () ∧
      config.selector.validate = .ok microversion ∧
      c = ⟨config.identity, config.selector, microversion, config.defaults, config.skew,
        config.evictsForced⟩ := by
  unfold ofConfig at h
  split at h
  · exact nomatch h
  · exact nomatch h
  · next microversion hidentity hselector =>
    exact ⟨microversion, hidentity, hselector, (Except.ok.inj h).symm⟩

/-- The key that the client's session is cached under. -/
def key (c : Client) : String := c.identity.cacheKey

/-- The service type that the client's requests are for. -/
def serviceType (c : Client) : String := c.selector.effectiveType c.defaults.type

end Client
end CloudSession
