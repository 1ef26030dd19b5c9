/-
Contexts in documents. A context that a handshake yields (`conclude_storable`)
is written so that whatever is read back of it has the same token and expires
at the same moment (`read?_pretty`).
-/
import CloudSession.Handshake.Basic
import CloudSession.Proofs.Json.Printed
import CloudSession.Proofs.Time.RoundTrip

namespace CloudSession.Context

-- ==================================================================== copies

/-- A context of the same token that expires at the same moment. -/
structure SameToken (x y : Context) : Prop where
  token : x.token = y.token
  expires : x.expires = y.expires

theorem SameToken.refl (x : Context) : SameToken x x := ⟨rfl, rfl⟩

/-- Copies are valid at the same moments. -/
theorem SameToken.isValid_eq {x y : Context} (h : SameToken x y) (now : Instant) (skew : Int) :
    x.isValid now skew = y.isValid now skew := by
  simp only [Context.isValid, h.token, h.expires]

/-- A context whose expiry a document can hold. -/
def Storable (x : Context) : Prop := ∀ expires, x.expires = some expires → expires.WellFormed

-- ================================================================== read back

open Json in
/-- The syntax tree of a document spells its value. -/
theorem spells_of_read? {v : Json} {d : Doc} (h : Doc.read? (v.pretty.toList.map some) = some d) :
    Spells v d := by
  unfold Doc.read? at h
  split at h
  · next d' r hread =>
    split at h
    · obtain rfl := Option.some.inj h
      rw [pretty, String.toList_ofList, ← List.append_nil ((prettyChars 0 v).map some)] at hread
      exact (value?_pretty 0 v (fun _ _ h => absurd h (by simp)) hread).2
    · exact absurd h (by simp)
  · exact absurd h (by simp)

open Json in
/-- An expiry, or none, reads back from what is written of it. -/
theorem nullable?_expiry {expires : Option Instant} (hwell : ∀ i, expires = some i → i.WellFormed)
    {d : Doc} (h : Spells (Json.ofText? (expires.map Instant.text)) d) :
    d.nullable? readInstant? = some expires := by
  cases expires with
  | none =>
    obtain rfl := Spells.of_null h
    rfl
  | some i =>
    obtain rfl := Spells.of_str (s := i.text) h
    show (readInstant? (.str (i.text.toList.map pieceOf))).map some = some (some i)
    rw [readInstant?, Doc.text?, string?_pieceOf, Option.bind_some,
      Instant.readLenient_text (hwell i rfl)]
    rfl

open Json in
/-- The record of a written context has its four fields. -/
theorem ofDoc?_members (token expires user catalog : Doc) :
    Record.ofDoc? fieldNames (.obj [("token".toList.map pieceOf, token),
        ("expires".toList.map pieceOf, expires), ("user".toList.map pieceOf, user),
        ("catalog".toList.map pieceOf, catalog)])
      = some ⟨true, [("catalog", catalog), ("user", user), ("expires", expires),
          ("token", token)]⟩ := by
  simp only [Record.ofDoc?, Record.collect?, string?_pieceOf]
  rfl

open Json in
/-- The syntax tree of a written context has its four fields in order. -/
theorem spells_toJson {x : Context} {d : Doc} (h : Spells x.toJson d) :
    ∃ expires user catalog,
      d = .obj [("token".toList.map pieceOf, .str (x.token.toList.map pieceOf)),
        ("expires".toList.map pieceOf, expires), ("user".toList.map pieceOf, user),
        ("catalog".toList.map pieceOf, catalog)] ∧
      Spells (Json.ofText? (x.expires.map Instant.text)) expires ∧
      Spells (x.user.getD .null) user ∧ Spells x.catalog catalog := by
  unfold toJson at h
  rcases h with _ | _ | _ | _ | _ | hmembers
  rcases hmembers with _ | ⟨htoken, hmembers⟩
  rcases hmembers with _ | ⟨hexpires, hmembers⟩
  rcases hmembers with _ | ⟨huser, hmembers⟩
  rcases hmembers with _ | ⟨hcatalog, hmembers⟩
  cases hmembers
  obtain rfl := htoken.of_str
  exact ⟨_, _, _, rfl, hexpires, huser, hcatalog⟩

open Json in
/-- What is read of a written context has its token and its expiry. -/
theorem read?_pretty {x y : Context} (hx : x.Storable)
    (h : Context.read? x.toJson.pretty = some y) : SameToken x y := by
  unfold Context.read? at h
  obtain ⟨d, hd, hof⟩ := Option.bind_eq_some_iff.mp h
  obtain ⟨expires, user, catalog, rfl, hexpires, -, -⟩ := spells_toJson (spells_of_read? hd)
  rw [ofDoc?, ofDoc?_members, Option.bind_some] at hof
  unfold ofRecord? at hof
  simp only [Bool.not_true, Bool.false_and, Bool.false_eq_true, if_false] at hof
  split at hof
  · next token expires user catalog htok hexpiry _ _ =>
    obtain rfl := Option.some.inj hof
    have htok : Json.string? (x.token.toList.map pieceOf) = some token := htok
    have hexpiry : Doc.nullable? readInstant? _ = some expires := hexpiry
    rw [string?_pieceOf] at htok
    rw [nullable?_expiry hx hexpires] at hexpiry
    exact ⟨Option.some.inj htok, Option.some.inj hexpiry⟩
  · exact absurd hof (by simp)

-- ================================================================= handshakes

theorem storable_of_noExpiry {x : Context} (h : x.expires = none) : x.Storable := by
  intro expires hx
  rw [h] at hx
  exact absurd hx (by simp)

end CloudSession.Context

namespace CloudSession.Handshake

theorem toContext_storable {g : Keystone.Grant} {noCatalog : Json} {x : Context}
    (h : g.toContext noCatalog = .ok x) : x.Storable := by
  unfold Keystone.Grant.toContext at h
  split at h
  · obtain rfl := Except.ok.inj h
    exact Context.storable_of_noExpiry rfl
  · split at h
    · next expires hread =>
      obtain rfl := Except.ok.inj h
      intro _ heq
      obtain ⟨rfl⟩ := heq
      exact Instant.readExpiry_wellFormed hread
    · exact absurd h (by simp)

theorem readBody_storable {read : Json.Doc → Option Keystone.Grant} {noCatalog : Json}
    {r : Response} {x : Context} (h : Keystone.readBody read noCatalog r = .ok x) :
    x.Storable := by
  unfold Keystone.readBody at h
  split at h
  · exact toContext_storable h
  · exact absurd h (by simp)

/-- The context of a login does not expire. -/
theorem login_storable {v : VCloud} {origin : String} {r : Response} {x : Context}
    (h : v.read origin r = .ok x) : x.Storable := by
  unfold VCloud.read at h
  split at h
  · unfold VCloud.readSuccess at h
    split at h
    · exact absurd h (by simp)
    split at h
    · exact absurd h (by simp)
    split at h
    · exact absurd h (by simp)
    · obtain rfl := Except.ok.inj h
      exact Context.storable_of_noExpiry rfl
  · split at h <;> exact absurd h (by simp)

/-- The readings of a granting document, by the versions of Keystone. -/
def ReadsGrant (read : Json.Doc → Option Keystone.Grant) : Prop :=
  read = Keystone.readGrant1? ∨ read = Keystone.readGrant2? ∨
    ∃ token, read = Keystone.readGrant3? token

/-- A context comes from the document of a grant, whose catalog may be missing,
or from a login. -/
theorem conclude_cases {i : Identity} {answer : Answer} {x : Context}
    (h : conclude i answer = .ok x) :
    (∃ read noCatalog r, ReadsGrant read ∧ (noCatalog = .obj [] ∨ noCatalog = .arr []) ∧
        Keystone.readBody read noCatalog r = .ok x) ∨
      ∃ v origin r, VCloud.read v origin r = .ok x := by
  cases answer with
  | error message => exact absurd h (by simp [conclude])
  | ok r =>
    unfold conclude read at h
    simp only at h
    split at h
    · next k _ =>
      left
      unfold Keystone.read at h
      split at h
      · cases k
        all_goals
          unfold Keystone.readSuccess at h
          simp only at h
        case v1 => exact ⟨_, _, r, Or.inl rfl, Or.inl rfl, h⟩
        case v2Password => exact ⟨_, _, r, Or.inr (Or.inl rfl), Or.inr rfl, h⟩
        case v2ApiKey => exact ⟨_, _, r, Or.inr (Or.inl rfl), Or.inr rfl, h⟩
        -- The versions 3 differ only in what they send.
        all_goals
          split at h
          · exact absurd h (by simp)
          split at h
          · exact absurd h (by simp)
          · exact ⟨_, _, r, Or.inr (Or.inr ⟨_, rfl⟩), Or.inr rfl, h⟩
      · split at h <;> exact absurd h (by simp)
    · next v _ =>
      right
      cases horigin : loginOrigin i with
      | error e =>
        rw [horigin] at h
        exact absurd h (by simp [Except.bind])
      | ok origin =>
        rw [horigin] at h
        exact ⟨v, origin, r, h⟩

/-- The expiry of a context that a handshake yields can be stored. -/
theorem conclude_storable {i : Identity} {answer : Answer} {x : Context}
    (h : conclude i answer = .ok x) : x.Storable := by
  rcases conclude_cases h with ⟨_, _, _, -, -, h⟩ | ⟨_, _, _, h⟩
  · exact readBody_storable h
  · exact login_storable h

end CloudSession.Handshake
