/-
The key under which the session of an identity is cached: a digest over
everything that decides which session a handshake yields. Each part is
closed by a NUL, so that no part runs into the next.
-/
import CloudSession.Digest.Sha256
import CloudSession.Identity
import CloudSession.Text.Hex

namespace CloudSession.CacheKey

/-- The digest of a text in hexadecimal. -/
def digestText (s : String) : String :=
  Text.Hex.encode (Digest.Sha256.digest s.toUTF8.data.toList)

/-- The parts of a key in order. The secret stands as its digest, and a
tenant that is not named as an empty text. -/
def parts (authUrl protocol : String) (credentials : Credentials) (scope : Scope) : List String :=
  [Text.trimEndSlashes authUrl, protocol, credentials.userId, digestText credentials.secret,
    scope.kind.word, scope.domainName, scope.tenantName.getD "", scope.tenantDomainId]

/-- The message that is digested. -/
def message (parts : List String) : List UInt8 :=
  parts.flatMap fun part => part.toUTF8.data.toList ++ [0]

/-- The key for an auth URL, a protocol's text, credentials and a scope. -/
def ofParts (authUrl protocol : String) (credentials : Credentials) (scope : Scope) : String :=
  Text.Hex.encode (Digest.Sha256.digest (message (parts authUrl protocol credentials scope)))

end CloudSession.CacheKey

namespace CloudSession

/-- The key of an identity. -/
def Identity.cacheKey (i : Identity) : String :=
  CacheKey.ofParts i.authUrl i.protocol.id i.credentials i.scope

end CloudSession
