/-
Where the requests of a client go that logs in. The catalog of a login leads back
to the origin of the auth URL, however the URL was written and wherever the context
was found (`AtHome.connection_eq`). So a client that seeks compute resolves its
endpoint to that origin whenever it has a session (`outcome_resolve_home`), and it
sends each of its requests there (`home_call`).
-/
import CloudSession.Proofs.Handshake.Login
import CloudSession.Proofs.Session.Marked
import CloudSession.Proofs.Session.Memo
import CloudSession.Proofs.Url.Reread

namespace CloudSession

open CloudSession.Action

/-- The connection for what is below the interface at the site of another. -/
def Connection.home (site : Connection) : Connection := { site with pathPrefix := "/api" }

namespace Client

-- ====================================================================== home

/-- The client's handshake is a login. If it can be sent at all, it is to an origin. -/
structure IsLoginAt (c : Client) (origin : String) : Prop where
  login : ∃ v, c.identity.protocol = .vcloud v
  origin : ∀ sent, Handshake.loginOrigin c.identity = .ok sent → sent = origin

/-- A client that logs in at the site of its auth URL, over http, and seeks the
compute service there. -/
structure LogsIn (c : Client) (site : Connection) : Prop where
  login : ∃ v, c.identity.protocol = .vcloud v
  url : Connection.ofUrl c.identity.authUrl = .ok site
  http : Url.IsHttp site.scheme
  seeks : c.SeeksCompute

/-- A context under a key, which lives at the site if the key is the client's. -/
def LivesAt (c : Client) (site : Connection) (key : String) (x : Context) : Prop :=
  key = c.key → x.LivesAt site.origin

/-- The contexts within reach live at the site, and the session fits together. -/
structure AtHome (c : Client) (site : Connection) (s : Scene) : Prop where
  marked : c.Marked (c.LivesAt site) s
  fits : c.Fits s

variable {c : Client} {site : Connection}

/-- Who shares the client's key and logs in at the same origin gives contexts that live
there, and no document of such a context is about another place. -/
theorem stamps_livesAt {d : Client} (h : d.key = c.key → d.IsLoginAt site.origin) :
    d.Stamps (c.LivesAt site) where
  granted hx hkey := by
    obtain ⟨⟨v, hprotocol⟩, horigin⟩ := h hkey
    obtain ⟨sent, hsent, hx⟩ := Handshake.livesAt_of_conclude hprotocol hx
    exact horigin sent hsent ▸ hx
  kept hx hread hkey := by
    have hx := hx hkey
    obtain rfl := Option.some.inj (hx.read?_toJson.symm.trans hread)
    exact hx

variable (hlogs : c.LogsIn site)
include hlogs

theorem LogsIn.isLogin : c.IsLoginAt site.origin := by
  refine ⟨hlogs.login, fun sent hsent => ?_⟩
  rw [Handshake.loginOrigin, hlogs.url] at hsent
  exact (Except.ok.inj hsent).symm

theorem LogsIn.stamps : c.Stamps (c.LivesAt site) := stamps_livesAt fun _ => hlogs.isLogin

theorem LogsIn.upkeep : c.Upkeep (c.AtHome site) :=
  ((upkeep_marked hlogs.stamps).and upkeep_fits).congr fun _ =>
    ⟨fun h => ⟨h.1, h.2⟩, fun h => ⟨h.marked, h.fits⟩⟩

/-- The catalog in use is the one that the login made up. -/
theorem AtHome.catalog_eq {s : Scene} (h : c.AtHome site s) {entries : Catalog}
    (hentries : s.session.catalog = some entries) :
    entries = [VCloud.computeEndpoint site.origin] := by
  obtain ⟨v, hprotocol⟩ := hlogs.login
  obtain ⟨x, hx⟩ := Option.isSome_iff_exists.mp (h.fits.paired.mpr (by simp [hentries]))
  have hparsed := h.fits.parsed x entries hx hentries
  rw [hprotocol] at hparsed
  exact Except.ok.inj (hparsed.symm.trans (h.marked.context x hx rfl).catalog_parse)

/-- What the client's endpoint is resolved to is at the site. -/
theorem AtHome.connection_eq {s : Scene} (h : c.AtHome site s) {url : String}
    (hurl : c.EndpointOf s.session c.defaults url) {connection : Connection}
    (hof : Connection.ofUrl url = .ok connection) : connection = site.home := by
  rcases hurl with hbase | ⟨-, entries, hentries, hurl⟩
  · exact nomatch hlogs.seeks.baseUrl.symm.trans hbase
  · obtain rfl := h.catalog_eq hlogs hentries
    obtain rfl := Except.ok.inj ((hlogs.seeks.endpoint_eq site.origin).symm.trans hurl)
    have hsound := Connection.ofUrl_sound hlogs.url
    exact Except.ok.inj (hof.symm.trans (Connection.ofUrl_origin_api hsound hlogs.http))

theorem home_resolve :
    Triple (c.AtHome site) c.resolve (fun connection s => c.AtHome site s ∧ connection = site.home)
      (c.AtHome site) := by
  refine (((upkeep_marked hlogs.stamps).resolve.and fits_resolve).conseq
    (fun s hs => ⟨hs.marked, hs.fits⟩) ?_ fun s hs => ⟨hs.1, hs.2⟩)
  intro connection s hs
  obtain ⟨hmarked, hfits, url, hurl, hof⟩ := hs
  have hhome : c.AtHome site s := ⟨hmarked, hfits⟩
  exact ⟨hhome, hhome.connection_eq hlogs hurl hof⟩

theorem LogsIn.forcedToken?_eq (session : Session) : c.forcedToken? session = none := by
  rw [forcedToken?, hlogs.seeks.token]
  exact ite_self none

/-- The client's endpoint is resolved to the site whenever there is a session, and
where there is none it is for the reason that there is none. -/
theorem outcome_resolve_home {s : Scene} (h : c.AtHome site s) :
    (c.resolve.outcome s).1 = (c.ensureSession.outcome s).1.map fun _ => site.home := by
  rw [outcome_resolve, ensureSession, outcome_bind]
  cases hresolved : s.session.resolved with
  | some connection =>
    -- A connection is remembered only beside a context, and that is valid for ever.
    obtain ⟨url, hurl, hof⟩ := h.fits.resolved connection hresolved
    obtain rfl := h.connection_eq hlogs hurl hof
    rcases hurl with hbase | ⟨-, entries, hentries, -⟩
    · exact nomatch hlogs.seeks.baseUrl.symm.trans hbase
    · obtain ⟨x, hx⟩ := Option.isSome_iff_exists.mp (h.fits.paired.mpr (by simp [hentries]))
      have hvalid := (h.marked.context x hx rfl).isValid_eq s.outside.now c.skew
      rw [outcome_active_valid (hlogs.forcedToken?_eq s.session) hx hvalid]
      rfl
  | none =>
    have hbase := hlogs.seeks.baseUrl
    rcases ho : c.active.outcome s with ⟨e | a, s'⟩
    · have hcatalog : c.catalog.outcome s = (.error e, s') := by
        rw [catalog, outcome_bind, ho]
      have hendpoint : (c.endpoint c.defaults).outcome s = (.error e, s') := by
        simp only [endpoint, hbase, outcome_bind, hcatalog]
      simp only [resolveAfresh, outcome_bind, hendpoint]
      rfl
    · obtain ⟨hown, -⟩ := held_active.ok ⟨rfl, hlogs.forcedToken?_eq s.session⟩ ho
      have hhome := hlogs.upkeep.active.ok h ho
      obtain ⟨-, hcontext⟩ := (marked_active hlogs.stamps).ok h.marked ho
      obtain ⟨entries, hentries⟩ :=
        Option.isSome_iff_exists.mp (hhome.fits.paired.mp (by simp [hcontext hown]))
      have hcatalog : c.catalog.outcome s = (.ok entries, s') := by
        rw [catalog, outcome_bind_ok ho, if_neg (by simp [hown]),
          outcome_bind_ok (outcome_session s'), hentries]
        rfl
      obtain rfl := hhome.catalog_eq hlogs hentries
      have hendpoint : (c.endpoint c.defaults).outcome s = (.ok (site.origin ++ "/api"), s') := by
        simp only [endpoint, hbase]
        rw [outcome_bind_ok hcatalog, outcome_attempt, hlogs.seeks.endpoint_eq]
      have hsound := Connection.ofUrl_sound hlogs.url
      rw [outcome_resolveAfresh hendpoint (Connection.ofUrl_origin_api hsound hlogs.http)]
      rfl

-- ================================================================== requests

omit hlogs in
/-- What was sent to the service was sent below the interface at the site, to where
the action points from there. -/
def SentHome (site : Connection) (action : String) (s : Scene) : Prop :=
  ∀ r answer, .exchange .service r answer ∈ s.outside.log → r.url = site.home.urlFor action

variable {action : String}

omit hlogs in
theorem SentHome.grows {p : Event → Bool} {s s' : Scene} (h : SentHome site action s)
    (hgrows : Grows p s s') (hp : ∀ e, p e = true → e.isService = false) :
    SentHome site action s' := by
  intro r answer hsent
  obtain ⟨new, hnew, hall⟩ := hgrows.log
  rw [hnew] at hsent
  rcases List.mem_append.mp hsent with hsent | hsent
  · exact h r answer hsent
  · exact nomatch (hp _ (hall _ hsent))

omit hlogs in
theorem SentHome.quiet {s s' : Scene} (h : SentHome site action s) (hquiet : Quiet s s') :
    SentHome site action s' :=
  h.grows hquiet.toGrows fun _ => Event.not_isService_of_isQuiet

/-- The client is at home, and has sent its requests from there. -/
def StaysHome (c : Client) (site : Connection) (action : String) (s : Scene) : Prop :=
  c.AtHome site s ∧ SentHome site action s

omit hlogs in
/-- What keeps both the contexts and the session as they are to be, and sends nothing
to the service. -/
theorem home_unsent {α : Type} {a : Action α} {p : Event → Bool}
    (hmarked : Triple (c.Marked (c.LivesAt site)) a (fun _ => c.Marked (c.LivesAt site))
      (c.Marked (c.LivesAt site)))
    (hfits : Triple c.Fits a (fun _ => c.Fits) c.Fits) (hgrows : Steps (Grows p) a)
    (hp : ∀ e, p e = true → e.isService = false) :
    Triple (c.StaysHome site action) a (fun _ => c.StaysHome site action)
      (c.StaysHome site action) :=
  ((hmarked.and hfits).and (hgrows.triple fun _ _ hgrow hs => SentHome.grows hs hgrow hp)).conseq
    (fun _ hs => ⟨⟨hs.1.marked, hs.1.fits⟩, hs.2⟩)
    (fun _ _ hs => ⟨⟨hs.1.1, hs.1.2⟩, hs.2⟩) fun _ hs => ⟨⟨hs.1.1, hs.1.2⟩, hs.2⟩

/-- A call sends its request home. -/
theorem home_call (method : Method) (headers : Headers) (body : Option ByteArray) :
    Triple (c.StaysHome site action) (c.call action method headers body)
      (fun _ => c.StaysHome site action) (c.StaysHome site action) := by
  have hupkeep : c.Upkeep (SentHome site action) := .of_quiet fun _ _ hquiet hs => hs.quiet hquiet
  refine .bind (hlogs.upkeep.and hupkeep).active fun current => ?_
  refine .bind ((home_resolve hlogs).and hupkeep.resolve) fun connection => ?_
  by_cases hconnection : connection = site.home
  · subst hconnection
    have hquiet : Steps (Grows Event.isQuiet) (connect site.home) :=
      (quiet_connect site.home).mono fun _ _ hquiet => hquiet.toGrows
    refine .bind ((home_unsent (marked_connect site.home) (fits_connect site.home) hquiet
      fun _ => Event.not_isService_of_isQuiet).pre fun s hs => ⟨hs.1.1, hs.2⟩) fun _ => ?_
    refine .bind (.send (Q := fun _ => c.StaysHome site action) ?_)
      fun answer => ?_
    · intro s answer network hs _
      obtain ⟨⟨hmarked, hfits⟩, hsent⟩ := hs
      refine ⟨⟨hmarked.congr rfl rfl rfl, hfits⟩, fun r answer' hevent => ?_⟩
      rcases List.mem_append.mp hevent with hevent | hevent
      · exact hsent r answer' hevent
      · obtain ⟨-, rfl, -⟩ := Event.exchange.inj (List.mem_singleton.mp hevent)
        rfl
    · split
      · exact .throw fun _ hs => hs
      · exact home_unsent (marked_settle _ _) (fits_settle _ _) (c.grows_settle _ _)
          fun e he => by simpa using Event.not_isService_of_not_isRequest e he
  -- No other connection is resolved.
  · exact .vacuous fun s hs => hconnection hs.1.2

end Client
end CloudSession
