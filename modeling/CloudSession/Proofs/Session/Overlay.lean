/-
The headers of service requests. They are the caller's, laid over a few defaults with
different names (`requestHeaders_eq`, `distinct_defaults`): the token's, the accepted media
type, a content type and a microversion. The microversion is sent if it is one of the
service type that the request's endpoint was looked up by (`ofType_prepare`); so it is of
every request that a client sends (`service_headers_overlay`).
-/
import CloudSession.Proofs.Catalog.Lookup
import CloudSession.Proofs.Http.Overlay
import CloudSession.Proofs.Session.OneSession

namespace CloudSession

open CloudSession.Action

-- ================================================================ microversions

/-- The microversion of a selector in order is the one that its text names. -/
theorem Selector.microversion_of_validate {s : Selector} {found : Option Microversion}
    (h : s.validate = .ok found) (m : Microversion) :
    found = some m ↔ ∃ text, s.microversion = some text ∧ Microversion.parse text = .ok m := by
  unfold Selector.validate Selector.microversion? at h
  split at h
  · exact nomatch h
  · cases htext : s.microversion with
    | none =>
      rw [htext] at h
      obtain rfl := Except.ok.inj h
      simp
    | some text =>
      rw [htext] at h
      obtain ⟨parsed, hparsed, rfl⟩ := map_eq_ok h
      simp [hparsed]

theorem Microversion.headerFor?_eq_some_iff {m : Microversion} {type value : String} :
    m.headerFor? type = some value ↔
      (∃ rest, type = m.service ++ rest) ∧ value = m.service ++ " " ++ m.version := by
  have hprefix : Text.startsWith type m.service = true ↔ ∃ rest, type = m.service ++ rest := by
    rw [Text.startsWith, List.isPrefixOf_iff_prefix]
    constructor
    · intro h
      obtain ⟨rest, hrest⟩ := h
      refine ⟨String.ofList rest, String.ext ?_⟩
      rw [String.toList_append, String.toList_ofList, hrest]
    · intro h
      obtain ⟨rest, rfl⟩ := h
      exact ⟨rest.toList, String.toList_append.symm⟩
  rw [headerFor?, ← hprefix]
  split
  · next hstarts => simp [hstarts, text, eq_comm]
  · next hstarts => simp [hstarts]

-- ==================================================================== defaults

namespace Protocol

/-- The media type that requests of a protocol accept. -/
def accept : Protocol → String
  | .keystone _ => "application/json"
  | .vcloud v => v.accept

/-- The headers that every request of a protocol has. -/
def pairs (token : String) : Protocol → List (String × String)
  | .keystone k => [((keystone k).tokenHeader, token), ("Accept", (keystone k).accept)]
  | .vcloud v => [("Accept", (vcloud v).accept), ((vcloud v).tokenHeader, token)]

theorem requestHeaders_eq_ofList (p : Protocol) (token : String) :
    Handshake.requestHeaders p token = Headers.ofList (p.pairs token) := by
  cases p <;> rfl

theorem mem_pairs {p : Protocol} {token : String} {pair : String × String} :
    pair ∈ p.pairs token ↔ pair = (p.tokenHeader, token) ∨ pair = ("Accept", p.accept) := by
  cases p with
  | keystone k => simp [pairs]
  | vcloud v => simp [pairs, or_comm]

end Protocol

/-- What a request has under a name if its caller gives nothing for it: the token in the
protocol's header, the media type that the protocol accepts, a content type with the
methods of Keystone that have a body, and the microversion if it is one of the service type
that the selector, or else the defaults, ask for. -/
inductive DefaultHeader (config : Config) (method : Method) (token name : String) : String → Prop
  | token : Headers.sameName config.identity.protocol.tokenHeader name = true →
      DefaultHeader config method token name token
  | accept : Headers.sameName "Accept" name = true →
      DefaultHeader config method token name config.identity.protocol.accept
  | contentType {k : Keystone} : Headers.sameName "Content-Type" name = true →
      config.identity.protocol = .keystone k → method = .post ∨ method = .put →
      DefaultHeader config method token name "application/json"
  | microversion {text rest : String} {m : Microversion} :
      Headers.sameName "OpenStack-API-Version" name = true →
      config.selector.microversion = some text → Microversion.parse text = .ok m →
      config.selector.type.getD config.defaults.type = m.service ++ rest →
      DefaultHeader config method token name (m.service ++ " " ++ m.version)

/-- Headers are those of a caller, laid over the defaults. -/
structure IsOverlay (config : Config) (method : Method) (token : String)
    (caller headers : Headers) : Prop where
  distinct : headers.Distinct
  get? : ∀ name value, headers.get? name = some value ↔
    caller.get? name = some value ∨
      caller.get? name = none ∧ DefaultHeader config method token name value

namespace Client

variable {config : Config} {c : Client} {method : Method} {token : String} {caller : Headers}

/-- The headers that a request has by default. -/
def defaultPairs (c : Client) (method : Method) (token : String) (caller : Headers) :
    List (String × String) :=
  c.identity.protocol.pairs token ++
    (c.addedContentType? method caller).toList.map ("Content-Type", ·) ++
    c.microversion?.toList.map (Microversion.header, ·)

theorem setIfSome_eq_setAll (h : Headers) (name : String) (value : Option String) :
    setIfSome h name value = h.setAll (value.toList.map (name, ·)) := by
  cases value <;> rfl

/-- The caller's headers are laid over the defaults. -/
theorem requestHeaders_eq (c : Client) (method : Method) (token : String) (caller : Headers) :
    c.requestHeaders method token caller
      = (Headers.ofList (c.defaultPairs method token caller)).extend caller := by
  simp only [requestHeaders, setIfSome_eq_setAll, Protocol.requestHeaders_eq_ofList,
    Headers.ofList, Headers.setAll, defaultPairs, List.foldl_append]

/-- The defaults have different names. -/
theorem distinct_defaults (c : Client) (method : Method) (token : String) (caller : Headers) :
    (Headers.mk (c.defaultPairs method token caller)).Distinct := by
  have hnames : ((c.identity.protocol.pairs token).map Prod.fst ++
      ["Content-Type", Microversion.header]).Pairwise
        fun a b => Headers.sameName a b = false := by
    rcases c.identity.protocol with k | v
    · show ["X-Auth-Token", "Accept", "Content-Type", Microversion.header].Pairwise _
      decide +kernel
    · show ["Accept", (Protocol.vcloud v).tokenHeader, "Content-Type",
        Microversion.header].Pairwise _
      cases v <;> decide +kernel
  have hsome : ∀ (name : String) (value : Option String),
      ((value.toList.map (name, ·)).map Prod.fst).Sublist [name] := by
    intro name value
    cases value with
    | none => exact List.nil_sublist _
    | some value => exact .refl _
  -- the last two are left out where they have no value
  have hsublist : ((c.defaultPairs method token caller).map Prod.fst).Sublist
      ((c.identity.protocol.pairs token).map Prod.fst ++
        ["Content-Type", Microversion.header]) := by
    rw [defaultPairs, List.map_append, List.map_append, List.append_assoc]
    exact (List.Sublist.refl _).append ((hsome _ _).append (hsome _ _))
  exact List.pairwise_map.mp (hnames.sublist hsublist)

/-- The content type is added where the protocol and the method want one. -/
theorem addedContentType?_eq_some_iff {value : String} :
    c.addedContentType? method caller = some value ↔
      (∃ k, c.identity.protocol = .keystone k) ∧ (method = .post ∨ method = .put) ∧
        caller.get? "Content-Type" = none ∧ value = "application/json" := by
  have hbody : method.hasBody = true ↔ method = .post ∨ method = .put := by
    cases method <;> simp [Method.hasBody]
  have hlacks : caller.contains "Content-Type" = false ↔ caller.get? "Content-Type" = none := by
    rw [Headers.contains, Option.isSome_eq_false_iff, Option.isNone_iff_eq_none]
  rw [← hbody, ← hlacks, addedContentType?]
  cases method.hasBody <;> cases caller.contains "Content-Type" <;>
    cases c.identity.protocol <;> simp [Handshake.defaultContentType?, eq_comm]

/-- What stands among the defaults under a name that the caller does not give. -/
theorem mem_defaultPairs (hclient : ofConfig config = .ok c) {name value : String}
    (hcaller : caller.get? name = none) :
    (∃ pair ∈ c.defaultPairs method token caller,
      Headers.sameName pair.1 name = true ∧ pair.2 = value) ↔
      DefaultHeader config method token name value := by
  obtain ⟨found, -, hvalid, rfl⟩ := ofConfig_eq_ok hclient
  have hversion := Selector.microversion_of_validate hvalid
  simp only [defaultPairs, List.mem_append, Protocol.mem_pairs, List.mem_map, Option.mem_toList,
    addedContentType?_eq_some_iff, microversion?, Option.bind_eq_some_iff, hversion,
    Microversion.headerFor?_eq_some_iff]
  constructor
  · intro h
    obtain ⟨_, ((rfl | rfl) | ⟨_, ⟨⟨k, hk⟩, hmethod, -, rfl⟩, rfl⟩) |
      ⟨_, ⟨m, ⟨text, htext, hparse⟩, ⟨rest, htype⟩, rfl⟩, rfl⟩, hname, rfl⟩ := h
    · exact .token hname
    · exact .accept hname
    · exact .contentType hname hk hmethod
    · exact .microversion hname htext hparse htype
  · intro h
    cases h with
    | token hname => exact ⟨_, .inl (.inl (.inl rfl)), hname, rfl⟩
    | accept hname => exact ⟨_, .inl (.inl (.inr rfl)), hname, rfl⟩
    | @contentType k hname hk hmethod =>
      have hlacks := (caller.get?_congr hname).trans hcaller
      exact ⟨_, .inl (.inr ⟨_, ⟨⟨k, hk⟩, hmethod, hlacks, rfl⟩, rfl⟩), hname, rfl⟩
    | @microversion text rest m hname htext hparse htype =>
      exact ⟨_, .inr ⟨_, ⟨m, ⟨text, htext, hparse⟩, ⟨rest, htype⟩, rfl⟩, rfl⟩, hname, rfl⟩

/-- The headers of a request are the caller's, laid over the defaults. -/
theorem isOverlay_requestHeaders (hclient : ofConfig config = .ok c) (method : Method)
    (token : String) {caller : Headers} (hcaller : caller.Distinct) :
    IsOverlay config method token caller (c.requestHeaders method token caller) := by
  have hdistinct := c.distinct_defaults method token caller
  rw [requestHeaders_eq]
  refine ⟨Headers.distinct_extend (Headers.distinct_ofList _) caller, fun name value => ?_⟩
  rw [Headers.get?_extend _ hcaller, Headers.ofList, Headers.get?_setAll hdistinct]
  cases hname : caller.get? name with
  | some found => simp
  | none =>
    have hempty : Headers.empty.get? name = none := rfl
    rw [hempty, Option.or_none, Option.none_or, Headers.get?_eq_some_iff hdistinct,
      mem_defaultPairs hclient hname]
    simp

-- =============================================================== service types

/-- A connection leads to an endpoint of the client's service type in the installed
catalog. -/
def OfType (c : Client) (connection : Connection) (s : Scene) : Prop :=
  ∃ entries e, s.session.catalog = some entries ∧ e ∈ entries ∧ e.type = c.serviceType ∧
    Connection.ofUrl e.url = .ok connection

theorem ofType_of_endpointOf (hbase : c.selector.baseUrl = none) {s : Scene} {url : String}
    (hurl : c.EndpointOf s.session c.defaults url) {connection : Connection}
    (hof : Connection.ofUrl url = .ok connection) : c.OfType connection s := by
  obtain hforced | ⟨-, entries, hentries, hfound⟩ := hurl
  · exact nomatch hbase.symm.trans hforced
  · obtain ⟨e, hfirst, hadmits, rfl⟩ := Catalog.exists_of_endpoint hbase hfound
    exact ⟨entries, e, hentries, hfirst.mem, hadmits.type, hof⟩

theorem ofType_connect (connection : Connection) :
    Triple (c.OfType connection) (connect connection) (fun _ => c.OfType connection)
      (c.OfType connection) := by
  refine .bind .session_same fun session => ?_
  split
  · exact .pure fun _ hs => hs
  · refine .bind ((keeps_openConnection connection).triple fun s s' hkeeps hs => ?_) fun _ =>
      .setSession fun _ hs => hs
    obtain ⟨entries, e, hentries, he⟩ := hs
    exact ⟨entries, e, hkeeps.catalog.trans hentries, he⟩

/-- Without a forced base URL a request is prepared for an endpoint of the client's service
type. -/
theorem ofType_prepare (hbase : c.selector.baseUrl = none) :
    Triple c.Fits c.prepare (fun prepared s => c.OfType prepared.2 s) fun _ => True := by
  have hactive : Triple c.Fits c.active (fun _ => c.Fits) fun _ => True :=
    fits_active.conseq (fun _ hs => hs) (fun _ _ hs => hs) fun _ _ => trivial
  have hresolve : Triple c.Fits c.resolve (fun connection s => c.OfType connection s)
      fun _ => True := by
    refine fits_resolve.conseq (fun _ hs => hs) (fun connection s hs => ?_) fun _ _ => trivial
    obtain ⟨-, url, hurl, hof⟩ := hs
    exact ofType_of_endpointOf hbase hurl hof
  have hconnect : ∀ connection, Triple (c.OfType connection) (connect connection)
      (fun _ => c.OfType connection) fun _ => True := fun connection =>
    (ofType_connect connection).conseq (fun _ hs => hs) (fun _ _ hs => hs) fun _ _ => trivial
  exact .bind hactive fun _ => .bind hresolve fun connection =>
    .bind (hconnect connection) fun _ => .pure fun _ hs => hs

-- ==================================================================== requests

/-- Whatever service request a call sends is the one that it has prepared. -/
theorem call_requests (c : Client) (action : String) (method : Method) (headers : Headers)
    (body : Option ByteArray) (s : Scene) :
    ∃ new, ((c.call action method headers body).outcome s).2.outside.log = s.outside.log ++ new ∧
      ∀ r answer, .exchange .service r answer ∈ new →
        ∃ current connection, (c.prepare.outcome s).1 = .ok (current, connection) ∧
          r = c.requestOf action method headers body current.context.token connection := by
  obtain ⟨before, hbefore, hquiet⟩ := (c.quiet_prepare.step s).log
  rcases hprepare : c.prepare.outcome s with ⟨e | ⟨current, connection⟩, s'⟩
  · rw [hprepare] at hbefore
    refine ⟨before, ?_, fun r answer hsent => ?_⟩
    · rw [call_unprepared hprepare]
      exact hbefore
    · exact nomatch Event.not_isService_of_isQuiet (hquiet _ hsent)
  · rw [hprepare] at hbefore
    obtain ⟨answer, after, hafter, hnone⟩ : ∃ answer after,
        ((c.call action method headers body).outcome s).2.outside.log
          = s'.outside.log ++ .exchange .service
            (c.requestOf action method headers body current.context.token connection) answer
              :: after ∧
        ∀ e ∈ after, e.isService = false ∧ e.isHandshake = false :=
      call_prepared hprepare
    refine ⟨before ++ .exchange .service
      (c.requestOf action method headers body current.context.token connection) answer :: after,
      ?_, fun r answer' hsent => ?_⟩
    · rw [hafter, hbefore, List.append_assoc]
    · obtain hsent | hsent := List.mem_append.mp hsent
      · exact nomatch Event.not_isService_of_isQuiet (hquiet _ hsent)
      obtain heq | hsent := List.mem_cons.mp hsent
      · obtain ⟨-, rfl, -⟩ := Event.exchange.inj heq
        exact ⟨current, connection, rfl, rfl⟩
      · exact nomatch (hnone _ hsent).1

end Client

/-- Every service request is prepared for a connection and has the headers of its caller, who
sets any pairs one after the other, laid over the defaults of its client. The service type
that decides about the microversion is the one that the endpoint of the connection has in
the catalog, unless a base URL stands in for the catalog. -/
theorem service_headers_overlay {config : Config} {c : Client}
    (hclient : Client.ofConfig config = .ok c) (method : Method)
    (given : List (String × String)) :
    (∀ token, IsOverlay config method token (Headers.ofList given)
      (c.requestHeaders method token (Headers.ofList given))) ∧
    ∀ (s : Scene) (action : String) (body : Option ByteArray),
      ∃ new, ((c.call action method (Headers.ofList given) body).outcome s).2.outside.log
          = s.outside.log ++ new ∧
        ∀ r answer, .exchange .service r answer ∈ new →
          ∃ current connection, (c.prepare.outcome s).1 = .ok (current, connection) ∧
            r.method = method ∧ r.url = connection.urlFor action ∧ r.body = body ∧
            IsOverlay config method current.context.token (Headers.ofList given) r.headers ∧
            (c.Fits s → config.selector.baseUrl = none →
              ∃ entries e, (c.prepare.outcome s).2.session.catalog = some entries ∧
                e ∈ entries ∧ e.type = config.selector.type.getD config.defaults.type ∧
                Connection.ofUrl e.url = .ok connection) := by
  have hoverlay : ∀ token, IsOverlay config method token (Headers.ofList given)
      (c.requestHeaders method token (Headers.ofList given)) := fun token =>
    Client.isOverlay_requestHeaders hclient method token (Headers.distinct_ofList given)
  refine ⟨hoverlay, fun s action body => ?_⟩
  obtain ⟨new, hlog, hnew⟩ := c.call_requests action method (Headers.ofList given) body s
  refine ⟨new, hlog, fun r answer hsent => ?_⟩
  obtain ⟨current, connection, hprepare, rfl⟩ := hnew r answer hsent
  refine ⟨current, connection, hprepare, rfl, rfl, rfl, hoverlay _, fun hfits hbase => ?_⟩
  obtain ⟨found, -, -, rfl⟩ := Client.ofConfig_eq_ok hclient
  exact (Client.ofType_prepare hbase).ok hfits (Prod.ext hprepare rfl)

/-- A configuration of a client that asks for a microversion of the service that it uses. -/
def Sample.pinned : Config where
  identity := ⟨.keystone .v2Password, "https://id.example.com", ⟨"alice", "secret"⟩, .default⟩
  selector := { Selector.none with type := some "computev21", microversion := some "2.60" }
  defaults := .compute
  skew := 0
  evictsForced := false
  sharesStore := false

/-- Nothing done yet. A handshake is going to be answered, with a catalog in which the service
stands, and then a request. -/
def Sample.offering : Scene where
  session := .initial
  outside :=
    { now := ⟨1893456000, 0⟩, store := none, log := []
      network := ⟨[.ok ⟨200, .empty, (Json.obj [("access", .obj [
        ("token", .obj [("id", .str "T"), ("expires", .str "2999-01-01T00:00:00Z")]),
        ("serviceCatalog", .arr [.obj [("type", .str "computev21"), ("name", .str "nova"),
          ("endpoints", .arr [.obj [("publicURL", .str "https://nova.example.com/v2.1")]])]])])
        ]).compact.toUTF8⟩, .ok ⟨200, .empty, .empty⟩], []⟩ }

/-- The media type that the caller asks for takes the place of the one by default, and the
microversion is that of the service whose endpoint the request goes to. -/
theorem service_headers_overlay_pinned :
    ∃ c, Client.ofConfig Sample.pinned = .ok c ∧
      c.requestHeaders .post "T" (.ofList [("Accept", "image/png")])
        = ⟨[("X-Auth-Token", "T"), ("Content-Type", "application/json"),
            ("OpenStack-API-Version", "compute 2.60"), ("Accept", "image/png")]⟩ ∧
      IsOverlay Sample.pinned .post "T" (.ofList [("Accept", "image/png")])
        (c.requestHeaders .post "T" (.ofList [("Accept", "image/png")])) ∧
      c.Fits Sample.offering ∧ Sample.pinned.selector.baseUrl = none ∧
      ∃ r answer current connection entries e,
        .exchange .service r answer ∈ ((c.call "/servers" .post
          (.ofList [("Accept", "image/png")]) none).outcome Sample.offering).2.outside.log ∧
        r.headers = c.requestHeaders .post "T" (.ofList [("Accept", "image/png")]) ∧
        (c.prepare.outcome Sample.offering).1 = .ok (current, connection) ∧
        r.url = connection.urlFor "/servers" ∧
        IsOverlay Sample.pinned .post current.context.token (.ofList [("Accept", "image/png")])
          r.headers ∧
        (c.prepare.outcome Sample.offering).2.session.catalog = some entries ∧
        e ∈ entries ∧ e.type = "computev21" ∧ Connection.ofUrl e.url = .ok connection := by
  let c : Client := ⟨Sample.pinned.identity, Sample.pinned.selector, some ⟨"compute", "2.60"⟩,
    .compute, 0, false⟩
  have hclient : Client.ofConfig Sample.pinned = .ok c := by rfl
  have hheaders : c.requestHeaders .post "T" (.ofList [("Accept", "image/png")])
      = ⟨[("X-Auth-Token", "T"), ("Content-Type", "application/json"),
          ("OpenStack-API-Version", "compute 2.60"), ("Accept", "image/png")]⟩ := by
    decide +kernel
  have hserves : ((c.call "/servers" .post (.ofList [("Accept", "image/png")]) none).outcome
      Sample.offering).2.outside.log.any (·.serves fun r =>
        r.headers == c.requestHeaders .post "T" (.ofList [("Accept", "image/png")])) = true := by
    decide +kernel
  obtain ⟨r, answer, hsent, hcarried⟩ := Event.mem_of_serves hserves
  obtain ⟨hoverlay, hcalls⟩ := service_headers_overlay hclient .post [("Accept", "image/png")]
  obtain ⟨new, hlog, hnew⟩ := hcalls Sample.offering "/servers" none
  have hfits : c.Fits Sample.offering := Client.coherent_initial
  have hmem := hsent
  rw [hlog] at hmem
  obtain ⟨current, connection, hprepare, -, hurl, -, hcarries, hfound⟩ := hnew r answer hmem
  obtain ⟨entries, e, hentries, he, htype, hof⟩ := hfound hfits rfl
  exact ⟨c, hclient, hheaders, hoverlay "T", hfits, rfl, r, answer, current, connection, entries,
    e, hsent, beq_iff_eq.mp hcarried, hprepare, hurl, hcarries, hentries, he, htype, hof⟩

end CloudSession
