/-
What a Keystone handshake sends. Its body is a text of JSON that decodes to the document
of its version, and the leaves of that are the fields of the version and nothing else
(`request_decodes`): whatever the texts of an identity are, none of them changes where
another one stands or what is read there.
-/
import CloudSession.Handshake.Basic
import CloudSession.Proofs.Json.Compact
import CloudSession.Proofs.Json.Leaves

namespace CloudSession

namespace Keystone

open Json

-- ==================================================================== fields

/-- The tenant of version 2, if one is set. -/
def tenantFields (scope : Scope) : List (List String × Json) :=
  scope.tenantName.toList.map fun name => (["auth", "tenantName"], .str name)

/-- What a token of version 3 is scoped to. -/
def scopeFields (scope : Scope) : List (List String × Json) :=
  match scope.kind with
  | .project =>
    [(["auth", "scope", "project", "domain", "id"], .str scope.tenantDomainId),
      (["auth", "scope", "project", "name"], Json.ofText? scope.tenantName)]
  | .domain => [(["auth", "scope", "domain", "name"], .str scope.domainName)]
  | .unscoped => []

/-- The fields of the document of each version, in the order of their keys. -/
def fields (k : Keystone) (c : Credentials) (scope : Scope) : List (List String × Json) :=
  match k with
  | .v1 =>
    [(["credentials", "key"], .str c.secret), (["credentials", "username"], .str c.userId)]
  | .v2Password =>
    [(["auth", "passwordCredentials", "password"], .str c.secret),
      (["auth", "passwordCredentials", "username"], .str c.userId)] ++ tenantFields scope
  | .v2ApiKey =>
    [(["auth", "RAX-KSKEY:apiKeyCredentials", "apiKey"], .str c.secret),
      (["auth", "RAX-KSKEY:apiKeyCredentials", "username"], .str c.userId)] ++ tenantFields scope
  | .v3Password =>
    [(["auth", "identity", "methods"], .arr [.str "password"]),
      (["auth", "identity", "password", "user", "domain", "name"], .str scope.domainName),
      (["auth", "identity", "password", "user", "name"], .str c.userId),
      (["auth", "identity", "password", "user", "password"], .str c.secret)] ++ scopeFields scope
  | .v3Token =>
    [(["auth", "identity", "methods"], .arr [.str "token"]),
      (["auth", "identity", "token", "id"], .str c.secret)] ++ scopeFields scope
  | .v3ApplicationCredential =>
    [(["auth", "identity", "application_credential", "id"], .str c.userId),
      (["auth", "identity", "application_credential", "secret"], .str c.secret),
      (["auth", "identity", "methods"], .arr [.str "application_credential"])]

variable (k : Keystone) (c : Credentials) (scope : Scope)

/-- The leaves of a document are the fields of its version. -/
theorem leaves_document : (k.document c scope).leaves = k.fields c scope := by
  obtain ⟨kind, domainName, tenantName, tenantDomainId⟩ := scope
  cases k with
  | v1 | v3ApplicationCredential => rfl
  | v2Password | v2ApiKey => cases tenantName <;> rfl
  | v3Password | v3Token => cases kind <;> cases tenantName <;> rfl

-- ================================================================= readable

-- No part of a document is a number, so what is written of it reads back. The depths are
-- counted from the texts up.

/-- A value of texts only, which nests no deeper than a depth. -/
structure Told (depth : Nat) (v : Json) : Prop where
  readable : Readable depth v
  numbers : v.numbers = []

theorem told_str {depth : Nat} (s : String) : Told depth (.str s) := ⟨.str s, rfl⟩

theorem told_ofText? {depth : Nat} (s : Option String) : Told depth (Json.ofText? s) :=
  ⟨readable_ofText? s, numbers_ofText? s⟩

theorem told_object {depth : Nat} {members : List (String × Json)}
    (h : ∀ m ∈ members, Told depth m.2) : Told (depth + 1) (Json.object members) :=
  ⟨readable_object fun m hm => (h m hm).readable, numbers_object fun m hm => (h m hm).numbers⟩

theorem told_credentials (depth : Nat) (userKey secretKey : String) :
    Told (depth + 1) (Json.object [(userKey, .str c.userId), (secretKey, .str c.secret)]) :=
  told_object (by simp [told_str])

theorem told_scopeBlock {block : Json} (h : scopeBlock? scope = some block) : Told 4 block := by
  unfold scopeBlock? at h
  split at h
  · obtain rfl := Option.some.inj h
    have hdomain : Told 2 (Json.object [("id", .str scope.tenantDomainId)]) :=
      told_object (by simp [told_str])
    have hproject : Told 3 (Json.object [("name", Json.ofText? scope.tenantName),
        ("domain", Json.object [("id", .str scope.tenantDomainId)])]) :=
      told_object (by simp [told_ofText?, hdomain])
    exact told_object (by simp [hproject])
  · obtain rfl := Option.some.inj h
    have hdomain : Told 3 (Json.object [("name", .str scope.domainName)]) :=
      told_object (by simp [told_str])
    exact told_object (by simp [hdomain])
  · exact nomatch h

theorem told_document2 {name : String} {proof : Json} (h : Told 4 proof) :
    Told 6 (document2 (name, proof) scope) := by
  have hauth : Told 5 (Json.object ((name, proof) ::
      scope.tenantName.toList.map fun name => ("tenantName", Json.str name))) :=
    told_object (by simp [h, told_str])
  exact told_object (by simp [hauth])

theorem told_document3 {method : String} {proof : Json} (hproof : Told 3 proof)
    {scope? : Option Json} (hscope : ∀ block ∈ scope?, Told 4 block) :
    Told 6 (document3 (identityBlock method proof) scope?) := by
  have hmethods : Told 3 (.arr [.str method]) := ⟨.arr (by simp [Readable.str]), rfl⟩
  have hidentity : Told 4 (identityBlock method proof) :=
    told_object (by simp [hmethods, hproof])
  have hauth : Told 5 (Json.object (("identity", identityBlock method proof) ::
      scope?.toList.map fun block => ("scope", block))) :=
    told_object (by simpa [hidentity] using hscope)
  exact told_object (by simp [hauth])

theorem told_passwordProof3 : Told 3 (passwordProof3 c scope) := by
  have hdomain : Told 1 (Json.object [("name", .str scope.domainName)]) :=
    told_object (by simp [told_str])
  have huser : Told 2 (Json.object [("name", .str c.userId),
      ("domain", Json.object [("name", .str scope.domainName)]), ("password", .str c.secret)]) :=
    told_object (by simp [told_str, hdomain])
  exact told_object (by simp [huser])

/-- Every document holds texts only and is not deep. -/
theorem told_document : Told 6 (k.document c scope) := by
  have hscope : ∀ block ∈ scopeBlock? scope, Told 4 block := fun _ => told_scopeBlock scope
  cases k with
  | v1 => exact told_object (by simp [told_credentials])
  | v2Password => exact told_document2 scope (told_credentials c 3 "username" "password")
  | v2ApiKey => exact told_document2 scope (told_credentials c 3 "username" "apiKey")
  | v3Password => exact told_document3 (told_passwordProof3 c scope) hscope
  | v3Token => exact told_document3 (told_object (by simp [told_str])) hscope
  | v3ApplicationCredential =>
    exact told_document3 (told_credentials c 2 "id" "secret") (fun _ h => nomatch h)

/-- What is sent decodes to the document that was written. -/
theorem readBytes?_document :
    readBytes? (k.document c scope).compact.toUTF8 = some (k.document c scope) := by
  have htold := told_document k c scope
  exact readBytes?_of_numbers_eq_nil (htold.readable.mono (by decide)) htold.numbers

-- =================================================================== members

/-- Only version 2 has a tenant, and only if one is set. -/
theorem reaches_tenant : Reaches ["auth", "tenantName"] (k.fields c scope) ↔
    (k = .v2Password ∨ k = .v2ApiKey) ∧ scope.tenantName.isSome = true := by
  obtain ⟨kind, domainName, tenantName, tenantDomainId⟩ := scope
  cases k with
  | v1 | v3ApplicationCredential => simp [Reaches, fields, List.cons_prefix_cons]
  | v2Password | v2ApiKey =>
    simp [Reaches, fields, tenantFields, List.cons_prefix_cons, Option.isSome_iff_exists]
  | v3Password | v3Token =>
    cases kind <;> simp [Reaches, fields, scopeFields, List.cons_prefix_cons]

/-- Only version 3 has a scope, for a password or a token that is to have one. -/
theorem reaches_scope : Reaches ["auth", "scope"] (k.fields c scope) ↔
    (k = .v3Password ∨ k = .v3Token) ∧ scope.kind ≠ .unscoped := by
  obtain ⟨kind, domainName, tenantName, tenantDomainId⟩ := scope
  cases k with
  | v1 | v3ApplicationCredential => simp [Reaches, fields, List.cons_prefix_cons]
  | v2Password | v2ApiKey => simp [Reaches, fields, tenantFields, List.cons_prefix_cons]
  | v3Password | v3Token =>
    cases kind <;> simp [Reaches, fields, scopeFields, List.cons_prefix_cons]

-- ================================================================= documents

/-- The body of a handshake decodes to a document of which the leaves are the fields of
the version: there is a tenant in version 2 if one is set, a scope in version 3 for a
password or a token that is to have one, and no other member than those. Bodies, also of
different versions, are the same if and only if all their fields are. -/
theorem request_decodes (authUrl : String) :
    ∃ r body doc, Handshake.request ⟨.keystone k, authUrl, c, scope⟩ = .ok r ∧
      r.body = some body ∧ readBytes? body = some doc ∧
      doc.leaves = k.fields c scope ∧
      ((doc.at? ["auth", "tenantName"]).isSome = true ↔
        (k = .v2Password ∨ k = .v2ApiKey) ∧ scope.tenantName.isSome = true) ∧
      ((doc.at? ["auth", "scope"]).isSome = true ↔
        (k = .v3Password ∨ k = .v3Token) ∧ scope.kind ≠ .unscoped) ∧
      ∀ k' authUrl' c' scope', (request k' authUrl' c' scope').body = some body ↔
        k'.fields c' scope' = k.fields c scope := by
  have hread := readBytes?_document k c scope
  have hreadable := (told_document k c scope).readable
  have hleaves := leaves_document k c scope
  refine ⟨_, _, _, rfl, rfl, hread, hleaves, ?_, ?_, fun k' authUrl' c' scope' => ?_⟩
  · rw [isSome_at?_iff hreadable, hleaves]
    exact reaches_tenant k c scope
  · rw [isSome_at?_iff hreadable, hleaves]
    exact reaches_scope k c scope
  · constructor
    · -- the same bytes are read as the same document
      intro h
      have hsame : k'.document c' scope' = k.document c scope := by
        have hread' := readBytes?_document k' c' scope'
        rw [Option.some.inj h, hread] at hread'
        exact (Option.some.inj hread').symm
      rw [← leaves_document, ← leaves_document, hsame]
    · -- and a document is made up by its leaves
      intro h
      rw [← leaves_document, ← leaves_document] at h
      have hsame := leaves_injective (told_document k' c' scope').readable hreadable h
      rw [request, hsame]

end Keystone
end CloudSession
