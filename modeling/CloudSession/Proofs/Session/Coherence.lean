/-
The session of a client fits together. There is a catalog if and only if there
is a context, and it is that context's own; the connection that is remembered
is that of the forced base URL or of the endpoint which the catalog gives
(`Coherent`). Whatever a client does keeps this, also what fails
(`fits_authenticate`, `fits_resolve`, `fits_call`).
-/
import CloudSession.Proofs.Session.Evicted

namespace CloudSession

open CloudSession.Action

/-- A context in use, and its catalog as it was read. -/
structure Installed where
  context : Context
  catalog : Catalog

/-- The context in use with the catalog in use, if there are both. -/
def Session.installed (s : Session) : Option Installed :=
  s.context.bind fun context => s.catalog.map fun catalog => ⟨context, catalog⟩

theorem Session.installed_eq_some {s : Session} {i : Installed} :
    s.installed = some i ↔ s.context = some i.context ∧ s.catalog = some i.catalog := by
  cases i
  simp only [installed, Option.bind_eq_some_iff, Option.map_eq_some_iff, Installed.mk.injEq]
  grind

theorem KeepsSession.installed {p : Event → Bool} {s s' : Scene} (h : KeepsSession p s s') :
    s'.session.installed = s.session.installed := by
  rw [Session.installed, Session.installed, h.context, h.catalog]

namespace Client

/-- The URL that the client's requests for something go to. -/
def EndpointOf (c : Client) (s : Session) (wanted : Wanted) (url : String) : Prop :=
  c.selector.baseUrl = some url ∨
    c.selector.baseUrl = none ∧ ∃ entries, s.catalog = some entries ∧
      entries.endpoint c.selector wanted = .ok url

/-- The parts of a session fit together. -/
structure Coherent (c : Client) (s : Session) : Prop where
  paired : s.context.isSome ↔ s.catalog.isSome
  parsed : ∀ x entries, s.context = some x → s.catalog = some entries →
    Catalog.parse (Handshake.catalogFormat c.identity.protocol) x.catalog = .ok entries
  resolved : ∀ connection, s.resolved = some connection →
    ∃ url, c.EndpointOf s c.defaults url ∧ Connection.ofUrl url = .ok connection

/-- The session in a scene fits together. -/
def Fits (c : Client) (s : Scene) : Prop := c.Coherent s.session

variable {c : Client}

theorem coherent_initial : c.Coherent .initial :=
  ⟨by simp [Session.initial], fun _ _ h => absurd h (by simp [Session.initial]),
    fun _ h => absurd h (by simp [Session.initial])⟩

/-- Without a connection only the context and the catalog have to fit. -/
theorem Coherent.unresolved {s s' : Session} (h : c.Coherent s) (hresolved : s'.resolved = none)
    (hcontext : s'.context = s.context) (hcatalog : s'.catalog = s.catalog) :
    c.Coherent s' := by
  refine ⟨?_, fun x entries hx hentries => ?_, fun _ hc => ?_⟩
  · rw [hcontext, hcatalog]
    exact h.paired
  · exact h.parsed x entries (hcontext ▸ hx) (hcatalog ▸ hentries)
  · exact absurd (hresolved.symm.trans hc) (by simp)

/-- Without a session there is nothing to fit. -/
theorem coherent_dropped {s : Session} (hcontext : s.context = none) (hcatalog : s.catalog = none)
    (hresolved : s.resolved = none) : c.Coherent s :=
  coherent_initial.unresolved hresolved hcontext hcatalog

/-- A context fits together with its own catalog. -/
theorem coherent_installed {s : Session} {x : Context} {entries : Catalog}
    (hparse : Catalog.parse (Handshake.catalogFormat c.identity.protocol) x.catalog = .ok entries)
    (hcontext : s.context = some x) (hcatalog : s.catalog = some entries)
    (hresolved : s.resolved = none) : c.Coherent s := by
  refine ⟨by rw [hcontext, hcatalog]; simp, fun x' entries' hx hentries => ?_, fun _ hc => ?_⟩
  · obtain rfl := Option.some.inj (hcontext.symm.trans hx)
    obtain rfl := Option.some.inj (hcatalog.symm.trans hentries)
    exact hparse
  · exact absurd (hresolved.symm.trans hc) (by simp)

/-- A context in use has its catalog beside it. -/
theorem Coherent.installed {s : Session} (h : c.Coherent s) {x : Context}
    (hx : s.context = some x) : ∃ i, s.installed = some i ∧ i.context = x := by
  obtain ⟨entries, hentries⟩ := Option.isSome_iff_exists.mp (h.paired.mp (by simp [hx]))
  exact ⟨⟨x, entries⟩, Session.installed_eq_some.mpr ⟨hx, hentries⟩, rfl⟩

/-- A session fits together if it has the same parts as one that does. -/
theorem Coherent.congr {s s' : Session} (h : c.Coherent s) (hcontext : s'.context = s.context)
    (hcatalog : s'.catalog = s.catalog) (hresolved : s'.resolved = s.resolved) :
    c.Coherent s' := by
  refine ⟨?_, fun x entries hx hentries => ?_, fun connection hc => ?_⟩
  · rw [hcontext, hcatalog]
    exact h.paired
  · exact h.parsed x entries (hcontext ▸ hx) (hcatalog ▸ hentries)
  · obtain ⟨url, hurl, hof⟩ := h.resolved connection (hresolved ▸ hc)
    refine ⟨url, hurl.imp_right ?_, hof⟩
    rw [hcatalog]
    exact fun hfound => hfound

theorem fits_of_keeps {α : Type} {a : Action α} {p : Event → Bool}
    (h : Steps (KeepsSession p) a) :
    Triple c.Fits a (fun _ => c.Fits) c.Fits :=
  h.triple fun _ _ hkeeps hs => hs.congr hkeeps.context hkeeps.catalog hkeeps.resolved

-- =================================================================== sessions

/-- A context is installed with its own catalog. -/
theorem fits_authenticate (force : Bool) :
    Triple c.Fits (c.authenticate force) (fun _ => c.Fits) c.Fits := by
  refine .bind (fits_of_keeps (c.keeps_negotiate force)) fun context => ?_
  refine .bind (.attempt (Q := fun catalog _ =>
    Catalog.parse (Handshake.catalogFormat c.identity.protocol) context.catalog = .ok catalog)
    (fun _ _ hcatalog _ => hcatalog) fun _ hs => hs) fun catalog => ?_
  refine .bind (.setSession (Q := fun _ => c.Fits) fun s hcatalog => ?_)
    fun _ => .pure fun _ hs => hs
  exact coherent_installed hcatalog rfl rfl rfl

theorem fits_active : Triple c.Fits c.active (fun _ => c.Fits) c.Fits := by
  refine .bind .session_same fun session => ?_
  split
  · exact .pure fun _ hs => hs
  · refine .bind (fits_of_keeps c.keeps_installedValid) fun found => ?_
    split
    · exact .pure fun _ hs => hs
    · exact .bind (fits_authenticate false) fun _ => .pure fun _ hs => hs

-- ================================================================== endpoints

/-- The catalog is the installed one, if there is one at all. -/
theorem fits_catalog :
    Triple c.Fits c.catalog
      (fun entries s => c.Fits s ∧
        (entries = [] ∨ s.session.catalog = some entries))
      c.Fits := by
  refine .bind fits_active fun active => ?_
  split
  · exact .pure fun _ hs => ⟨hs, Or.inl rfl⟩
  · refine .bind .session_eq fun session => .pure ?_
    intro s hs
    obtain ⟨hs, rfl⟩ := hs
    refine ⟨hs, ?_⟩
    cases s.session.catalog with
    | none => exact Or.inl rfl
    | some entries => exact Or.inr rfl

/-- An empty catalog has no endpoint but a forced one. -/
theorem endpoint_nil {selector : Selector} {wanted : Wanted} {url : String}
    (h : Catalog.endpoint [] selector wanted = .ok url) : selector.baseUrl = some url := by
  unfold Catalog.endpoint at h
  split at h
  · next base hbase => rw [hbase, Except.ok.inj h]
  · next hbase =>
    have hnone : ∀ region, Catalog.choose? region [] = none := by
      intro region
      cases region <;> rfl
    simp only [Catalog.candidates, List.filter_nil, hnone] at h
    exact absurd h (by simp)

theorem fits_endpoint (wanted : Wanted) :
    Triple c.Fits (c.endpoint wanted)
      (fun url s => c.Fits s ∧ c.EndpointOf s.session wanted url) c.Fits := by
  unfold endpoint
  split
  · next url hbase => exact .pure fun _ hs => ⟨hs, Or.inl hbase⟩
  · next hbase =>
    refine .bind fits_catalog fun entries => .attempt ?_ fun _ hs => hs.1
    intro url s hurl hs
    obtain ⟨hs, rfl | hentries⟩ := hs
    · exact ⟨hs, Or.inl (endpoint_nil hurl)⟩
    · exact ⟨hs, Or.inr ⟨hbase, entries, hentries, hurl⟩⟩

/-- The connection that is found is the one of the client's endpoint. -/
theorem fits_resolve :
    Triple c.Fits c.resolve
      (fun connection s => c.Fits s ∧
        ∃ url, c.EndpointOf s.session c.defaults url ∧ Connection.ofUrl url = .ok connection)
      c.Fits := by
  refine .bind .session_eq fun session => ?_
  split
  · next connection hconnection =>
    refine .pure ?_
    intro s hs
    obtain ⟨hs, rfl⟩ := hs
    exact ⟨hs, hs.resolved connection hconnection⟩
  · refine .bind ((fits_endpoint c.defaults).pre fun _ hs => hs.1) fun url => ?_
    refine .bind (.attempt (Q := fun connection s =>
      (c.Fits s ∧ c.EndpointOf s.session c.defaults url) ∧ Connection.ofUrl url = .ok connection)
      (fun connection s hof hs => ⟨hs, hof⟩) fun _ hs => hs.1) fun connection => ?_
    refine .bind (.setSession (Q := fun _ s => c.Fits s ∧
      ∃ url, c.EndpointOf s.session c.defaults url ∧ Connection.ofUrl url = .ok connection) ?_)
      fun _ => .pure fun _ hs => hs
    intro s hs
    obtain ⟨⟨hs, hurl⟩, hof⟩ := hs
    refine ⟨⟨hs.paired, hs.parsed, ?_⟩, url, hurl, hof⟩
    intro _ heq
    obtain ⟨rfl⟩ := heq
    exact ⟨url, hurl, hof⟩

theorem fits_invalidate : Triple c.Fits invalidate (fun _ => c.Fits) c.Fits :=
  .setSession fun _ hs => hs.unresolved rfl rfl rfl

theorem fits_connect (connection : Connection) :
    Triple c.Fits (connect connection) (fun _ => c.Fits) c.Fits := by
  refine .bind .session_same fun session => ?_
  split
  · exact .pure fun _ hs => hs
  · exact .bind (fits_of_keeps (keeps_openConnection connection)) fun _ =>
      .setSession fun _ hs => hs.congr rfl rfl rfl

-- =================================================================== requests

theorem fits_clearCached : Triple c.Fits c.clearCached (fun _ => c.Fits) c.Fits := by
  refine .bind (.setSession (Q := fun _ => c.Fits) fun _ hs => hs.congr rfl rfl rfl) fun _ => ?_
  exact .storeChange (fun _ hs _ => hs) (fun _ _ _ hs _ _ => hs.congr rfl rfl rfl)
    fun _ _ _ hs _ _ => hs.congr rfl rfl rfl

theorem fits_settle (forced : Bool) (r : Response) :
    Triple c.Fits (c.settle forced r) (fun _ => c.Fits) c.Fits := by
  have hunauthorized : Triple c.Fits (c.onUnauthorized forced) (fun _ => c.Fits) c.Fits := by
    unfold onUnauthorized
    split
    · exact .bind (.setSession fun _ _ => coherent_dropped rfl rfl rfl) fun _ =>
        .ignoringErrors fits_clearCached
    · split
      · exact .setSession fun _ _ => coherent_dropped rfl rfl rfl
      · exact .pure fun _ hs => hs
  unfold settle
  split
  · exact .pure fun _ hs => hs
  · split
    · exact .bind hunauthorized fun _ => .throw fun _ hs => hs
    · exact .throw fun _ hs => hs

theorem fits_call (action : String) (method : Method) (headers : Headers)
    (body : Option ByteArray) :
    Triple c.Fits (c.call action method headers body) (fun _ => c.Fits) c.Fits := by
  refine .bind fits_active fun active => .bind (fits_resolve.post fun _ _ hs => hs.1)
    fun connection => .bind (fits_connect connection) fun _ => ?_
  refine .bind (.send (Q := fun _ => c.Fits) fun _ _ _ hs _ => hs.congr rfl rfl rfl)
    fun answer => ?_
  split
  · exact .throw fun _ hs => hs
  · exact fits_settle _ _

end Client
end CloudSession
