/-
Contexts that a document can hold (`Keepable`): those that a handshake yields
(`conclude_keepable`) and those that were read from documents
(`keepable_of_read?`). Such a context reads back from its document as it was,
whatever its token, expiry, user and catalog are (`read?_toJson`). Only the reals
among its numbers must be known to read back.
-/
import CloudSession.Proofs.Context
import CloudSession.Proofs.Json.Readable

namespace CloudSession.Context

open Json

-- ================================================================== keepable

/-- A context that a document can hold: its values nest no deeper than they may
in a record, and a user that is null counts as none. -/
structure Keepable (x : Context) : Prop where
  expires : x.Storable
  user : ∀ v, x.user = some v → v ≠ .null ∧ Readable (maxDepth - 1) v
  catalog : Readable (maxDepth - 1) x.catalog

/-- The numbers in the user and in the catalog of a context. -/
def numbers (x : Context) : List Number := (x.user.getD .null).numbers ++ x.catalog.numbers

/-- The reals of a context read back from what is written of them. -/
def RealsReadBack (x : Context) : Prop :=
  ∀ n ∈ x.numbers, n.isReal = true → n.ReadsBack

instance (x : Context) : Decidable x.RealsReadBack :=
  inferInstanceAs (Decidable (∀ n ∈ x.numbers, n.isReal = true → n.ReadsBack))

theorem readable_user {x : Context} (hx : x.Keepable) :
    Readable (maxDepth - 1) (x.user.getD .null) := by
  cases huser : x.user with
  | none => exact .null
  | some v => exact (hx.user v huser).2

theorem numbers_readsBack {x : Context} (hx : x.Keepable) (hreals : x.RealsReadBack) :
    (∀ n ∈ (x.user.getD .null).numbers, n.ReadsBack) ∧
      ∀ n ∈ x.catalog.numbers, n.ReadsBack :=
  ⟨(readable_user hx).readsBack fun n hn => hreals n (List.mem_append_left _ hn),
    hx.catalog.readsBack fun n hn => hreals n (List.mem_append_right _ hn)⟩

theorem toJson_readsBack {x : Context} (hx : x.Keepable) (hreals : x.RealsReadBack) :
    ∀ n ∈ x.toJson.numbers, n.ReadsBack := by
  obtain ⟨huser, hcatalog⟩ := numbers_readsBack hx hreals
  have hexpires := numbers_ofText? (x.expires.map Instant.text)
  intro n hn
  obtain ⟨m, hm, hn⟩ := mem_memberNumbers.mp hn
  simp only [List.mem_cons, List.not_mem_nil, or_false] at hm
  rcases hm with rfl | rfl | rfl | rfl
  · exact absurd hn (by simp [Json.numbers])
  · exact absurd hn (by simp [hexpires])
  · exact huser n hn
  · exact hcatalog n hn

-- ================================================================ round trip

/-- A field that is not null holds its value. -/
theorem nullable?_value {depth : Nat} {v : Json} (hv : Readable depth v) (hnull : v ≠ .null)
    (hnumbers : ∀ n ∈ v.numbers, n.ReadsBack) {d : Doc} (h : Spells v d) :
    d.nullable? (Doc.toJson? depth) = some (some v) := by
  have hvalue := toJson?_of_spells v hv hnumbers h
  unfold Doc.nullable?
  split
  · cases h
    exact absurd rfl hnull
  · rw [hvalue]
    rfl

/-- A context reads back from its document. -/
theorem read?_toJson {x : Context} (hx : x.Keepable) (hreals : x.RealsReadBack) :
    Context.read? x.toJson.pretty = some x := by
  obtain ⟨huserNumbers, hcatalogNumbers⟩ := numbers_readsBack hx hreals
  obtain ⟨d, hd⟩ := read?_complete (toJson_readsBack hx hreals)
  obtain ⟨expires, user, catalog, rfl, hexpires, huser, hcatalog⟩ :=
    spells_toJson (spells_of_read? hd)
  have hexpiry := nullable?_expiry hx.expires hexpires
  have huserField : user.nullable? (Doc.toJson? (maxDepth - 1)) = some x.user := by
    cases hsome : x.user with
    | none =>
      rw [hsome] at huser
      obtain rfl := huser.of_null
      rfl
    | some v =>
      rw [hsome] at huser huserNumbers
      obtain ⟨hnull, hreadable⟩ := hx.user v hsome
      exact nullable?_value hreadable hnull huserNumbers huser
  have hcatalogField : ∃ found, catalog.nullable? (Doc.toJson? (maxDepth - 1)) = some found ∧
      found.getD .null = x.catalog := by
    by_cases hnull : x.catalog = .null
    · rw [hnull] at hcatalog
      obtain rfl := hcatalog.of_null
      exact ⟨none, rfl, hnull.symm⟩
    · exact ⟨_, nullable?_value hx.catalog hnull hcatalogNumbers hcatalog, rfl⟩
  obtain ⟨found, hfound, hgetD⟩ := hcatalogField
  rw [Context.read?, hd, Option.bind_some, ofDoc?, ofDoc?_members, Option.bind_some]
  let r : Record := ⟨true, [("catalog", catalog), ("user", user), ("expires", expires),
    ("token", .str (x.token.toList.map pieceOf))]⟩
  have htoken : r.required? "token" Doc.text? = some x.token := string?_pieceOf x.token
  have hexpiresRead : r.optional? "expires" readInstant? = some x.expires := hexpiry
  have huserRead : r.optional? "user" (Doc.toJson? (maxDepth - 1)) = some x.user := huserField
  have hcatalogRead : r.optional? "catalog" (Doc.toJson? (maxDepth - 1)) = some found := hfound
  show ofRecord? r = some x
  unfold ofRecord?
  rw [if_neg (by simp [r])]
  simp only [htoken, hexpiresRead, huserRead, hcatalogRead, hgetD]

-- =================================================================== sources

theorem nullable?_some {α : Type} {read : Doc → Option α} {d : Doc} {a : α}
    (h : d.nullable? read = some (some a)) : d ≠ .null ∧ read d = some a := by
  unfold Doc.nullable? at h
  split at h
  · exact absurd h (by simp)
  · next hnull =>
    obtain ⟨b, hb, heq⟩ := Option.map_eq_some_iff.mp h
    obtain rfl := Option.some.inj heq
    exact ⟨hnull, hb⟩

/-- A field that gives something was read. -/
theorem optional?_some {α : Type} {read : Doc → Option α} {r : Record} {name : String} {a : α}
    (h : r.optional? name read = some (some a)) : ∃ d, d ≠ .null ∧ read d = some a := by
  unfold Record.optional? at h
  split at h
  · exact absurd h (by simp)
  · exact ⟨_, nullable?_some h⟩

theorem toJson?_ne_null {depth : Nat} {d : Doc} {v : Json} (hd : d ≠ .null)
    (h : d.toJson? depth = some v) : v ≠ .null := by
  rintro rfl
  cases d with
  | null => exact hd rfl
  | bool b => exact absurd h (by simp [Doc.toJson?])
  | number t => exact absurd h (by simp [Doc.toJson?])
  | str ps => exact absurd h (by simp [Doc.toJson?])
  | arr items => cases depth <;> exact absurd h (by simp [Doc.toJson?])
  | obj members => cases depth <;> exact absurd h (by simp [Doc.toJson?, object])

/-- The value of a field can be held. -/
theorem optional?_value {depth : Nat} {r : Record} {name : String} {v : Json}
    (h : r.optional? name (Doc.toJson? depth) = some (some v)) : v ≠ .null ∧ Readable depth v := by
  obtain ⟨d, hd, hvalue⟩ := optional?_some h
  exact ⟨toJson?_ne_null hd hvalue, readable_of_toJson? d hvalue⟩

/-- What was read of a document can be written again. -/
theorem keepable_of_read? {text : String} {x : Context} (h : Context.read? text = some x) :
    x.Keepable := by
  obtain ⟨d, -, hof⟩ := Option.bind_eq_some_iff.mp h
  obtain ⟨r, -, hof⟩ := Option.bind_eq_some_iff.mp hof
  unfold ofRecord? at hof
  split at hof
  · exact absurd hof (by simp)
  simp only at hof
  split at hof
  · next token expires user catalog _ hexpires huser hcatalog =>
    obtain rfl := Option.some.inj hof
    refine ⟨fun i hi => ?_, fun v hv => ?_, ?_⟩
    · have hi : expires = some i := hi
      subst hi
      obtain ⟨d, -, hread⟩ := optional?_some hexpires
      obtain ⟨s, -, hinstant⟩ := Option.bind_eq_some_iff.mp hread
      cases hlenient : Instant.readLenient s.toList with
      | error fault => exact absurd hinstant (by simp [hlenient, Except.toOption])
      | ok i' =>
        rw [hlenient] at hinstant
        obtain rfl := Option.some.inj hinstant
        exact Instant.readLenient_wellFormed hlenient
    · have hv : user = some v := hv
      subst hv
      exact optional?_value huser
    · cases catalog with
      | none => exact .null
      | some v => exact (optional?_value hcatalog).2
  · exact absurd hof (by simp)

end CloudSession.Context

namespace CloudSession.Handshake

open Json

/-- A user and a catalog that a document can hold. -/
structure ValuesKeepable (user catalog : Option Json) : Prop where
  user : ∀ v, user = some v → v ≠ .null ∧ Readable (maxDepth - 1) v
  catalog : ∀ v, catalog = some v → Readable (maxDepth - 1) v

/-- What stands two records deep in an answer can stand one record deep. -/
theorem optional?_readValue {r : Record} {name : String} {v : Json}
    (h : r.optional? name Keystone.readValue? = some (some v)) :
    v ≠ .null ∧ Readable (maxDepth - 1) v := by
  obtain ⟨hnull, hreadable⟩ := Context.optional?_value h
  exact ⟨hnull, hreadable.mono (by decide)⟩

theorem valuesKeepable_of_fields {r : Record} {name name' : String} {user catalog : Option Json}
    (huser : r.optional? name Keystone.readValue? = some user)
    (hcatalog : r.optional? name' Keystone.readValue? = some catalog) :
    ValuesKeepable user catalog := by
  refine ⟨fun v hv => ?_, fun v hv => ?_⟩
  · subst hv
    exact optional?_readValue huser
  · subst hv
    exact (optional?_readValue hcatalog).2

theorem grant_keepable {read : Doc → Option Keystone.Grant} (hread : ReadsGrant read)
    {d : Doc} {g : Keystone.Grant} (h : read d = some g) : ValuesKeepable g.user g.catalog := by
  rcases hread with rfl | rfl | ⟨token, rfl⟩
  · obtain ⟨r, -, h⟩ := Option.bind_eq_some_iff.mp h
    split at h
    · next hcatalog =>
      obtain rfl := Option.some.inj h
      refine ⟨fun v hv => absurd hv (by simp), fun v hv => ?_⟩
      have hv : _ = some v := hv
      subst hv
      exact (optional?_readValue hcatalog).2
    · exact absurd h (by simp)
  · obtain ⟨r, -, h⟩ := Option.bind_eq_some_iff.mp h
    split at h
    · next hcatalog huser =>
      obtain rfl := Option.some.inj h
      exact valuesKeepable_of_fields huser hcatalog
    · exact absurd h (by simp)
  · obtain ⟨r, -, h⟩ := Option.bind_eq_some_iff.mp h
    split at h
    · next hcatalog huser =>
      obtain rfl := Option.some.inj h
      exact valuesKeepable_of_fields huser hcatalog
    · exact absurd h (by simp)

theorem toContext_values {g : Keystone.Grant} {noCatalog : Json} {x : Context}
    (h : g.toContext noCatalog = .ok x) :
    x.user = g.user ∧ x.catalog = g.catalog.getD noCatalog := by
  unfold Keystone.Grant.toContext at h
  split at h
  · obtain rfl := Except.ok.inj h
    exact ⟨rfl, rfl⟩
  · split at h
    · obtain rfl := Except.ok.inj h
      exact ⟨rfl, rfl⟩
    · exact absurd h (by simp)

theorem readBody_keepable {read : Doc → Option Keystone.Grant} (hread : ReadsGrant read)
    {noCatalog : Json} (hnone : noCatalog = .obj [] ∨ noCatalog = .arr []) {r : Response}
    {x : Context} (h : Keystone.readBody read noCatalog r = .ok x) :
    ValuesKeepable x.user (some x.catalog) := by
  have hmissing : Readable (maxDepth - 1) noCatalog := by
    rcases hnone with rfl | rfl
    · exact .obj .nil (by simp)
    · exact .arr (by simp)
  unfold Keystone.readBody at h
  split at h
  · next g hgrant =>
    obtain ⟨d, -, hg⟩ := Option.bind_eq_some_iff.mp hgrant
    obtain ⟨huser, hcatalog⟩ := grant_keepable hread hg
    obtain ⟨huserEq, hcatalogEq⟩ := toContext_values h
    refine ⟨fun v hv => huser v (huserEq ▸ hv), fun v hv => ?_⟩
    obtain rfl := Option.some.inj hv
    rw [hcatalogEq]
    cases hsome : g.catalog with
    | none => exact hmissing
    | some v => exact hcatalog v hsome
  · exact absurd h (by simp)

/-- The user of a login is an object of texts. -/
theorem user_texts {v : VCloud} {body : ByteArray} {user : Json} (h : v.user body = .ok user) :
    ∃ texts : List (String × Option String),
      user = object (texts.map fun (name, s) => (name, Json.ofText? s)) := by
  unfold VCloud.user at h
  split at h
  · exact absurd h (by simp)
  split at h
  · unfold VCloud.orgListUser at h
    split at h
    · exact absurd h (by simp)
    · exact absurd h (by simp)
    · next href name _ _ =>
      obtain rfl := Except.ok.inj h
      exact ⟨[("org", some (VCloud.pathOf href)), ("org_name", name)], rfl⟩
  · unfold VCloud.sessionUser at h
    split at h
    · exact absurd h (by simp)
    split at h
    · next org user _ _ =>
      obtain rfl := Except.ok.inj h
      exact ⟨[("org_name", org), ("user", user)], rfl⟩
    · exact absurd h (by simp)

theorem user_keepable {v : VCloud} {body : ByteArray} {user : Json}
    (h : v.user body = .ok user) : user ≠ .null ∧ Readable (maxDepth - 1) user := by
  obtain ⟨texts, rfl⟩ := user_texts h
  refine ⟨by simp [object], (readable_object fun m hm => ?_).mono (by decide : 1 ≤ maxDepth - 1)⟩
  obtain ⟨⟨name, s⟩, -, rfl⟩ := List.mem_map.mp hm
  exact readable_ofText? s

/-- A catalog that was made up is a list of objects of texts. -/
theorem readable_catalog (entries : Catalog) : Readable (maxDepth - 1) entries.toJson := by
  have hentry : ∀ e, Readable 1 (Catalog.endpointToJson e) := by
    intro e
    refine readable_object fun m hm => ?_
    simp only [List.mem_cons, List.not_mem_nil, or_false] at hm
    rcases hm with rfl | rfl | rfl | rfl | rfl
    · exact .str _
    · exact .str _
    · exact readable_ofText? _
    · exact .str _
    · exact .str _
  refine .arr fun v hv => ?_
  obtain ⟨e, -, rfl⟩ := List.mem_map.mp hv
  exact (hentry e).mono (by decide)

theorem login_keepable {v : VCloud} {origin : String} {r : Response} {x : Context}
    (h : v.read origin r = .ok x) : ValuesKeepable x.user (some x.catalog) := by
  unfold VCloud.read at h
  split at h
  · unfold VCloud.readSuccess at h
    split at h
    · exact absurd h (by simp)
    split at h
    · exact absurd h (by simp)
    split at h
    · exact absurd h (by simp)
    · next user huser =>
      obtain rfl := Except.ok.inj h
      refine ⟨fun w hw => ?_, fun w hw => ?_⟩
      · obtain rfl := Option.some.inj hw
        exact user_keepable huser
      · obtain rfl := Option.some.inj hw
        exact readable_catalog _
  · split at h <;> exact absurd h (by simp)

/-- What a handshake yields can be written. -/
theorem conclude_keepable {i : Identity} {answer : Answer} {x : Context}
    (h : conclude i answer = .ok x) : x.Keepable := by
  have hexpires := conclude_storable h
  have hvalues : ValuesKeepable x.user (some x.catalog) := by
    rcases conclude_cases h with ⟨_, _, _, hread, hnone, h⟩ | ⟨_, _, _, h⟩
    · exact readBody_keepable hread hnone h
    · exact login_keepable h
  exact ⟨hexpires, hvalues.user, hvalues.catalog _ rfl⟩

end CloudSession.Handshake

namespace CloudSession.Context

/-- A context that a handshake yielded or that was read from a document. -/
def Obtained (x : Context) : Prop :=
  (∃ i answer, Handshake.conclude i answer = .ok x) ∨ ∃ text, Context.read? text = some x

theorem Obtained.keepable {x : Context} (h : x.Obtained) : x.Keepable := by
  rcases h with ⟨i, answer, h⟩ | ⟨text, h⟩
  · exact Handshake.conclude_keepable h
  · exact keepable_of_read? h

/-- Whatever can be held has been read from its own document. -/
theorem Keepable.obtained {x : Context} (hx : x.Keepable) (hreals : x.RealsReadBack) :
    x.Obtained :=
  Or.inr ⟨_, read?_toJson hx hreals⟩

end CloudSession.Context
