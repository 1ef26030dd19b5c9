/-
What a cache key tells apart. The digest of the key's message and the
digest of the secret are taken as they are: a key is as good as SHA-256 on
the messages concerned, and nothing else of it can fail. The message is
read back part by part, since a zero byte closes every part and, where no
text holds NUL, none of them contains one (`message_injective`). So two
sources of one key agree in every text, but for slashes behind the auth URL
and for a tenant that is empty where the other's is absent
(`key_eq_iff_alike`).
-/
import CloudSession.CacheKey
import CloudSession.Proofs.Text.Hex
import CloudSession.Proofs.Text.Utf8

namespace CloudSession

namespace CacheKey

-- ============================================================ the message

/-- Two sequences that a zero closes, with none before it, are the same,
and so is what follows them. -/
theorem closed_inj {a b c d : List UInt8} (ha : (0 : UInt8) ∉ a) (hb : (0 : UInt8) ∉ b)
    (h : a ++ 0 :: c = b ++ 0 :: d) : a = b ∧ c = d := by
  -- Where one side ended first, its zero would stand among the other's bytes.
  induction a generalizing b with
  | nil =>
    cases b with
    | nil => exact ⟨rfl, (List.cons.inj h).2⟩
    | cons y b => exact absurd (List.mem_cons.mpr (.inl (List.cons.inj h).1)) hb
  | cons x a ih =>
    cases b with
    | nil => exact absurd (List.mem_cons.mpr (.inl (List.cons.inj h).1.symm)) ha
    | cons y b =>
      obtain ⟨hxy, htail⟩ := List.cons.inj h
      obtain ⟨hab, hcd⟩ := ih (fun hmem => ha (List.mem_cons_of_mem x hmem))
        (fun hmem => hb (List.mem_cons_of_mem y hmem)) htail
      exact ⟨by rw [hxy, hab], hcd⟩

/-- A text without NUL. -/
def Plain (s : String) : Prop := '\x00' ∉ s.toList

instance (s : String) : Decidable (Plain s) := inferInstanceAs (Decidable (_ ∉ _))

theorem message_cons (part : String) (parts : List String) :
    message (part :: parts) = part.toUTF8.data.toList ++ 0 :: message parts := by
  simp [message]

/-- The parts of a message are read back from it when no part holds NUL. -/
theorem message_injective {ps qs : List String} (hps : ∀ p ∈ ps, Plain p)
    (hqs : ∀ q ∈ qs, Plain q) (h : message ps = message qs) : ps = qs := by
  induction ps generalizing qs with
  | nil =>
    cases qs with
    | nil => rfl
    | cons q qs =>
      rw [message_cons] at h
      simp [message] at h
  | cons p ps ih =>
    cases qs with
    | nil =>
      rw [message_cons] at h
      simp [message] at h
    | cons q qs =>
      rw [message_cons, message_cons] at h
      obtain ⟨hbytes, hrest⟩ := closed_inj
        (Text.Utf8.zero_notMem_toUTF8 (hps p List.mem_cons_self))
        (Text.Utf8.zero_notMem_toUTF8 (hqs q List.mem_cons_self)) h
      have hpq : p = q := Text.Utf8.toUTF8_toList_injective hbytes
      have htails : ps = qs := ih (fun p hp => hps p (List.mem_cons_of_mem _ hp))
        (fun q hq => hqs q (List.mem_cons_of_mem _ hq)) hrest
      rw [hpq, htails]

-- ============================================================= the sources

/-- What a key is made from. -/
structure Source where
  authUrl : String
  protocol : String
  credentials : Credentials
  scope : Scope
deriving DecidableEq, Repr

namespace Source

/-- The key of a source. -/
def key (s : Source) : String := ofParts s.authUrl s.protocol s.credentials s.scope

/-- The message that is digested to the key. -/
def message (s : Source) : List UInt8 :=
  CacheKey.message (parts s.authUrl s.protocol s.credentials s.scope)

/-- The bytes of the secret. -/
def secretBytes (s : Source) : List UInt8 := s.credentials.secret.toUTF8.data.toList

/-- Every text of a source but its secret. -/
def texts (s : Source) : List String :=
  [s.authUrl, s.protocol, s.credentials.userId, s.scope.domainName,
    s.scope.tenantName.getD "", s.scope.tenantDomainId]

/-- Sources that agree in every text, but for slashes behind the auth URL
and for a tenant that is empty in one and absent in the other. -/
structure Alike (s t : Source) : Prop where
  authUrl : Text.trimEndSlashes s.authUrl = Text.trimEndSlashes t.authUrl
  protocol : s.protocol = t.protocol
  userId : s.credentials.userId = t.credentials.userId
  secret : s.credentials.secret = t.credentials.secret
  kind : s.scope.kind = t.scope.kind
  domainName : s.scope.domainName = t.scope.domainName
  tenantName : s.scope.tenantName.getD "" = t.scope.tenantName.getD ""
  tenantDomainId : s.scope.tenantDomainId = t.scope.tenantDomainId

end Source

theorem word_injective {k k' : TokenScope} (h : k.word = k'.word) : k = k' := by
  revert h
  cases k <;> cases k' <;> decide

/-- Trimming slashes brings in no NUL. -/
theorem plain_trimEndSlashes {s : String} (h : Plain s) : Plain (Text.trimEndSlashes s) := by
  intro hmem
  rw [Text.trimEndSlashes, String.toList_ofList, Text.dropEndWhile, List.mem_reverse] at hmem
  exact h (List.mem_reverse.mp ((List.dropWhile_sublist _).mem hmem))

/-- No part of a key holds NUL when no text of its source does: the secret
stands as hexadecimal digits, the scope as one of three words. -/
theorem plain_parts {s : Source} (h : ∀ text ∈ s.texts, Plain text) :
    ∀ part ∈ parts s.authUrl s.protocol s.credentials s.scope, Plain part := by
  have hword : ∀ kind : TokenScope, Plain kind.word := by
    intro kind
    cases kind <;> decide
  intro part hpart
  simp only [parts, List.mem_cons, List.not_mem_nil, or_false] at hpart
  rcases hpart with rfl | rfl | rfl | rfl | rfl | rfl | rfl | rfl
  · exact plain_trimEndSlashes (h _ (by simp [Source.texts]))
  · exact h _ (by simp [Source.texts])
  · exact h _ (by simp [Source.texts])
  · exact Text.Hex.nul_notMem_encode _
  · exact hword _
  · exact h _ (by simp [Source.texts])
  · exact h _ (by simp [Source.texts])
  · exact h _ (by simp [Source.texts])

/-- Equal parts come from sources that are alike, if the digests of the
secrets tell them apart. -/
theorem alike_of_parts {s t : Source}
    (secrets : s.credentials.secret ≠ t.credentials.secret →
      Digest.Sha256.digest s.secretBytes ≠ Digest.Sha256.digest t.secretBytes)
    (h : parts s.authUrl s.protocol s.credentials s.scope
      = parts t.authUrl t.protocol t.credentials t.scope) : s.Alike t := by
  simp only [parts, List.cons.injEq, and_true] at h
  obtain ⟨hurl, hprotocol, huser, hsecret, hkind, hdomain, htenant, htenantDomain⟩ := h
  have hsecrets : s.credentials.secret = t.credentials.secret :=
    Decidable.byContradiction fun hne => secrets hne (Text.Hex.encode_injective hsecret)
  exact ⟨hurl, hprotocol, huser, hsecrets, word_injective hkind, hdomain, htenant,
    htenantDomain⟩

/-- Sources that are alike have the same parts. -/
theorem parts_of_alike {s t : Source} (h : s.Alike t) :
    parts s.authUrl s.protocol s.credentials s.scope
      = parts t.authUrl t.protocol t.credentials t.scope := by
  simp only [parts, h.authUrl, h.protocol, h.userId, h.secret, h.kind, h.domainName,
    h.tenantName, h.tenantDomainId]

-- =============================================================== the key

/-- Sources that are alike have one key; and where the digest tells the two
secrets and the two messages apart, sources of one key are alike, unless a
text of one of them other than its secret holds NUL. -/
theorem key_eq_iff_alike (s t : Source) :
    (s.Alike t → s.key = t.key)
      ∧ ((s.credentials.secret ≠ t.credentials.secret →
            Digest.Sha256.digest s.secretBytes ≠ Digest.Sha256.digest t.secretBytes) →
          (s.message ≠ t.message →
            Digest.Sha256.digest s.message ≠ Digest.Sha256.digest t.message) →
          s.key = t.key →
          s.Alike t ∨ ∃ text ∈ s.texts ++ t.texts, ¬ Plain text) := by
  constructor
  · intro halike
    rw [Source.key, Source.key, ofParts, ofParts, parts_of_alike halike]
  · intro secrets messages hkey
    have hmessage : s.message = t.message :=
      Decidable.byContradiction fun hne => messages hne (Text.Hex.encode_injective hkey)
    by_cases hnul : ∃ text ∈ s.texts ++ t.texts, ¬ Plain text
    · exact .inr hnul
    · have hplain : ∀ text ∈ s.texts ++ t.texts, Plain text := fun text hmem =>
        Decidable.byContradiction fun hne => hnul ⟨text, hmem, hne⟩
      have hs := plain_parts fun text h => hplain text (List.mem_append_left _ h)
      have ht := plain_parts fun text h => hplain text (List.mem_append_right _ h)
      exact .inl (alike_of_parts secrets (message_injective hs ht hmessage))

/-- A source in the default domain, with every other text free. -/
def Source.sample (authUrl userId secret : String) (tenantName : Option String)
    (tenantDomainId : String) : Source :=
  ⟨authUrl, "keystone", ⟨userId, secret⟩, ⟨.project, "Default", tenantName, tenantDomainId⟩⟩

/-- A slash behind the auth URL and an empty tenant in place of none leave
the key as it is. Text moved from one part to the next, like another
secret, changes it. -/
theorem key_eq_iff_alike_samples :
    (Source.sample "https://id/v3/" "ann" "pw" none "default").key
        = (Source.sample "https://id/v3" "ann" "pw" (some "") "default").key
      ∧ (Source.sample "https://id/v3" "ann" "pw" (some "ops") "default").key
        ≠ (Source.sample "https://id/v3" "ann" "pw" (some "op") "sdefault").key
      ∧ (Source.sample "https://id/v3" "ann" "pw" none "default").key
        ≠ (Source.sample "https://id/v3" "ann" "wp" none "default").key := by
  refine ⟨?_, fun hkey => ?_, fun hkey => ?_⟩
  · refine (key_eq_iff_alike _ _).1 ?_
    constructor <;> decide
  · obtain halike | ⟨text, hmem, hnul⟩ := (key_eq_iff_alike _ _).2 (by decide)
      (by decide +kernel) hkey
    · exact absurd halike.tenantName (by decide)
    · exact absurd hnul (by revert text; decide)
  · obtain halike | ⟨text, hmem, hnul⟩ := (key_eq_iff_alike _ _).2 (by decide +kernel)
      (by decide +kernel) hkey
    · exact absurd halike.secret (by decide)
    · exact absurd hnul (by revert text; decide)

/-- Where a text holds NUL, two sources that differ can have one key. -/
example :
    (Source.sample "https://id/v3" "ann" "pw" (some "b\x00c") "d").key
      = (Source.mk "https://id/v3" "keystone" ⟨"ann", "pw"⟩
          ⟨.project, "Default\x00b", some "c", "d"⟩).key := by
  decide +kernel

end CacheKey

end CloudSession
