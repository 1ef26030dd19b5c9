import CloudSession.Log.Secrecy
import CloudSession.Main
import CloudSession.Proofs.Success
import CloudSession.Proofs.Json.Numeral
import CloudSession.Proofs.Text.Utf8
import CloudSession.Proofs.CacheKey
import CloudSession.Proofs.Json.Printed
import CloudSession.Proofs.Json.ReadBack
import CloudSession.Proofs.Json.Readable
import CloudSession.Proofs.Time.Calendar
import CloudSession.Proofs.Time.Scanning
import CloudSession.Proofs.Time.RoundTrip
import CloudSession.Proofs.Context
import CloudSession.Proofs.Store.Laws
import CloudSession.Proofs.Store.Entry
import CloudSession.Proofs.Store.Refinement
import CloudSession.Proofs.Url.Origin
import CloudSession.Proofs.Session.Quiet
import CloudSession.Proofs.Http.Headers
import CloudSession.Proofs.Session.Provenance
import CloudSession.Proofs.Session.Evicted
import CloudSession.Proofs.Session.Coherence
import CloudSession.Proofs.Fleet.Basic
import CloudSession.Proofs.Fleet.Coherence
import CloudSession.Proofs.Fleet.Provenance
import CloudSession.Proofs.Fleet.Eviction
import CloudSession.Proofs.Session.Handshakes
import CloudSession.Proofs.Session.Upkeep
import CloudSession.Proofs.Session.Lockstep
import CloudSession.Proofs.Session.Memo
import CloudSession.Proofs.Session.Apart
import CloudSession.Proofs.Session.Linked
import CloudSession.Proofs.Session.Forced
import CloudSession.Proofs.Session.Reused
import CloudSession.Proofs.Session.OneSession
import CloudSession.Proofs.Session.Reported
import CloudSession.Proofs.Session.Spared
import CloudSession.Proofs.Session.Steady
import CloudSession.Proofs.Fleet.OneSession
import CloudSession.Proofs.Fleet.Rejected
import CloudSession.Proofs.Fleet.Origin
import CloudSession.Proofs.Fleet.Forced
import CloudSession.Proofs.Fleet.Reused
import CloudSession.Proofs.Fleet.Lockstep
import CloudSession.Proofs.Fleet.Memo
import CloudSession.Proofs.Fleet.Apart
import CloudSession.Proofs.Fleet.Corrupt
import CloudSession.Proofs.Fleet.Spared
import CloudSession.Proofs.Fleet.Steady
import CloudSession.Proofs.Context.RoundTrip
import CloudSession.Proofs.Task.Wait
import CloudSession.Proofs.Handshake.Answers
import CloudSession.Proofs.Fleet.EmptyTokens
import CloudSession.Proofs.Url.Site
import CloudSession.Proofs.Handshake.SharedKey
import CloudSession.Proofs.Fleet.Refused
import CloudSession.Proofs.Text.Hex
import CloudSession.Proofs.Log.Quoted
import CloudSession.Proofs.Log.Secrecy
import CloudSession.Proofs.Profile.Skew
import CloudSession.Proofs.Text.Part
import CloudSession.Proofs.Text.Words
import CloudSession.Proofs.Url.Address
import CloudSession.Proofs.Url.Host
import CloudSession.Proofs.Url.Reread
import CloudSession.Proofs.Catalog.RoundTrip
import CloudSession.Proofs.Handshake.Login
import CloudSession.Proofs.Session.Marked
import CloudSession.Proofs.Session.Home
import CloudSession.Proofs.Fleet.Home
import CloudSession.Proofs.Catalog.Lookup
import CloudSession.Proofs.Catalog.Discovery
import CloudSession.Proofs.Catalog.Offers
import CloudSession.Proofs.Catalog.Published
import CloudSession.Proofs.Catalog.Agreement
import CloudSession.Proofs.Enumeration
import CloudSession.Proofs.Catalog.Positions
import CloudSession.Proofs.Http.Overlay
import CloudSession.Proofs.Http.History
import CloudSession.Proofs.Session.Overlay
import CloudSession.Proofs.Session.Versioned
import CloudSession.Proofs.Json.Compact
import CloudSession.Proofs.Http.Messages
import CloudSession.Proofs.Task.Document
import CloudSession.Proofs.Json.Leaves
import CloudSession.Proofs.Handshake.Documents
import CloudSession.Proofs.Time.Expiry
import CloudSession.Proofs.Handshake.Expiry
import CloudSession.Proofs.Profile.Checks
import CloudSession.Proofs.Command.Call
import CloudSession.Proofs.Microversion
