/-
Where the requests of a client go in a fleet. Whatever the client has done
before, and whatever others do in between, each of its requests to the service
goes to the origin of the connection that it opened last, with nothing but a
path or a query behind it, and it opens another connection only for an endpoint
that the last one does not serve (`service_request_origin`).
-/
import CloudSession.Proofs.Fleet.Coherence
import CloudSession.Proofs.Session.Linked

namespace CloudSession

open CloudSession.Action

-- ================================================================ operations

/-- The connection is one that a call of the operation resolves the client's
endpoint to. A wait resolves it again for each of its polls. -/
def Operation.Resolves (operation : Operation) (c : Client) (s : Scene)
    (connection : Connection) : Prop :=
  c.Leads connection ∧ (operation.isWait = false → c.destination? s = some connection)

/-- A call resolves the endpoint to what it leads to from where the call begins. -/
theorem resolves_resolve {c : Client} {s₀ : Scene} {operation : Operation} :
    Triple (fun s => c.Fits s ∧ (operation.isWait = false → s = s₀))
      (do let _ ← c.active; c.resolve)
      (fun connection _ => operation.Resolves c s₀ connection ∧
        Url.IsRooted connection.pathPrefix) fun _ => True := by
  have hleads : Triple c.Fits (do let _ ← c.active; c.resolve)
      (fun connection s => c.Fits s ∧ c.Leads connection) c.Fits :=
    .bind Client.fits_active fun _ => Client.leads_resolve
  refine ((hleads.pre fun _ hs => hs.1).and (.trace _ _)).conseq (fun _ hs => ⟨hs, hs⟩) ?_
    fun _ _ => trivial
  intro connection s' hs
  obtain ⟨⟨-, hleads⟩, s, ⟨-, hbegin⟩, ho⟩ := hs
  refine ⟨⟨hleads, fun honce => ?_⟩, ?_⟩
  · obtain rfl := hbegin honce
    rw [Client.destination?, ho]
    rfl
  · obtain ⟨-, url, -, hof⟩ := hleads
    exact Connection.ofUrl_rooted hof

/-- What is about contexts and where they are cached leaves the connection. -/
theorem linked_negotiation {D : Connection → Prop} {c : Client} {past : List Event}
    {operation : Operation} (h : operation.isNegotiation = true) :
    Triple (Client.Linked D past) (operation.run c) (fun _ => Client.Linked D past)
      (Client.Linked D past) := by
  cases operation with
  | authenticate force =>
      exact (Client.triple_authenticate (fun _ _ _ _ hs => hs.withSession rfl)
        (Client.linked_negotiate force)).returning (fun _ hs => hs) _
  | negotiate force => exact (Client.linked_negotiate force).returning (fun _ hs => hs) _
  | cached =>
      exact (Client.keeps_looking.triple fun _ _ hkeeps hs => hs.grows hkeeps).returning
        (fun _ hs => hs) _
  | clearCached => exact .bind Client.linked_clearCached fun _ => .pure fun _ hs => hs
  | _ => exact absurd h (by simp [Operation.isNegotiation])

/-- Whatever a client is asked to do, it keeps to its last connection. -/
theorem linked_run {c : Client} {past : List Event} (s₀ : Scene) (operation : Operation) :
    Triple (fun s => (c.Fits s ∧ (operation.isWait = false → s = s₀)) ∧
        Client.Linked (operation.Resolves c s₀) past s)
      (operation.run c)
      (fun _ s => c.Fits s ∧ Client.Linked (operation.Resolves c s₀) past s)
      (fun s => c.Fits s ∧ Client.Linked (operation.Resolves c s₀) past s) := by
  refine Operation.triple_run_from (Client.upkeep_fits.and Client.upkeep_linked)
    (fun s hs => ⟨hs.1.1, hs.2⟩) (fun _ hs => hs)
    -- the later polls of a wait begin elsewhere, which `Resolves` allows for
    (fun hwait s hs => ⟨⟨hs.1, fun honce => absurd (hwait.symm.trans honce) (by simp)⟩, hs.2⟩)
    (fun action method body => ?_) fun hnegotiation => ?_
  · exact (((Client.fits_call action method _ body).pre fun _ hs => hs.1.1).and
      (Client.linked_call resolves_resolve action method _ body)).pre fun _ hs => ⟨hs, hs⟩
  · exact ((fits_run operation).and (linked_negotiation hnegotiation)).pre
      fun _ hs => ⟨hs.1.1, hs.2⟩

-- ==================================================================== fleets

variable {ι : Type} [DecidableEq ι] {members : ι → Member}

/-- The connection is one that a call of this turn resolves its endpoint to. -/
def Turn.Resolves (members : ι → Member) (t : Turn ι) : Connection → Prop :=
  t.operation.Resolves (t.client members) t.before

/-- At each turn of a client that began with nothing, all that it did is as it
may be. -/
theorem linked_split {start : Fleet ι} {steps : List (Step ι)} {earlier later : List (Turn ι)}
    {t : Turn ι} (hstart : start.sessions t.who = .initial)
    (hturns : start.turns members steps = earlier ++ t :: later) :
    Client.Linked (t.Resolves members) (Fleet.history members earlier t.who)
      (t.outcome members).2 := by
  have hrun : ∀ (past : List Event) (operation : Operation) (s : Scene), True → s.outside.log = [] →
      (t.client members).Coherent s.session ∧ s.session.connected = lastOpened past →
      (t.client members).Coherent ((operation.run (t.client members)).outcome s).2.session ∧
        ((operation.run (t.client members)).outcome s).2.session.connected
          = lastOpened (past ++ ((operation.run (t.client members)).outcome s).2.outside.log) := by
    intro past operation s _ hlog hs
    obtain ⟨hfits, hlinked⟩ := (linked_run s operation).leaves
      (s := s) ⟨⟨hs.1, fun _ => rfl⟩, Client.linked_of_empty hlog hs.2⟩
    exact ⟨hfits, hlinked.connected⟩
  obtain ⟨⟨hfits, hconnected⟩, hlog⟩ := Fleet.own_split
    (P := fun past session => (t.client members).Coherent session ∧
      session.connected = lastOpened past)
    hrun (hstart ▸ ⟨Client.coherent_initial, rfl⟩) hturns rfl fun _ _ _ => trivial
  exact ((linked_run t.before t.operation).leaves
    ⟨⟨hfits, fun _ => rfl⟩, Client.linked_of_empty hlog hconnected⟩).2

/-- In every run of a client that began with nothing, whatever its actions are,
the URL of a request to its service is the origin of the connection that it
opened last, followed by nothing or by a path or query. That connection serves
the endpoint that the call has resolved. A connection is opened only if the
last one has another scheme, host or port than the resolved endpoint. -/
theorem service_request_origin {start : Fleet ι} {steps : List (Step ι)}
    {earlier later : List (Turn ι)} {t : Turn ι} (hstart : start.sessions t.who = .initial)
    (hturns : start.turns members steps = earlier ++ t :: later) :
    (∀ before r answer after,
      t.events members = before ++ .exchange .service r answer :: after →
      ∃ last endpoint rest,
        lastOpened (Fleet.history members earlier t.who ++ before) = some last ∧
        t.Resolves members endpoint ∧ last.sameConnection endpoint = true ∧
        r.url = last.origin ++ rest ∧ Url.IsBehindOrigin rest) ∧
    ∀ before connection failure after,
      t.events members = before ++ .connect connection failure :: after →
      t.Resolves members connection ∧
        ∀ last, lastOpened (Fleet.history members earlier t.who ++ before) = some last →
          last.sameConnection connection = false := by
  have hlinked := linked_split hstart hturns
  constructor
  · intro before r answer after hsent
    exact hlinked.admitted before _ after hsent
  · intro before connection failure after hopened
    exact hlinked.admitted before _ after hopened

/-- An absolute URL of another host as the action of a second call. -/
theorem service_request_origin_elsewhere :
    ∃ (first t : Turn Unit) (before : List Event) (r : Request) (answer : Answer)
      (after : List Event) (last endpoint : Connection) (rest : String),
      (Sample.fleet [Sample.grant "T" "2999-01-01T00:00:00Z"
          (Sample.catalog "https://a.example.com/v2"), Sample.status 200,
          Sample.status 200]).turns Sample.lone
        [.turn () Sample.call, .turn () (.call "http://b.example.com:81/x?y" .get .empty none)]
        = [first, t] ∧
      t.events Sample.lone = before ++ .exchange .service r answer :: after ∧
      r.url = "https://a.example.com/x?y" ∧
      lastOpened (Fleet.history Sample.lone [first] () ++ before) = some last ∧
      (t.client Sample.lone).Leads endpoint ∧
      (t.client Sample.lone).destination? t.before = some endpoint ∧
      last.sameConnection endpoint = true ∧ r.url = last.origin ++ rest ∧
      Url.IsBehindOrigin rest := by
  let start : Fleet Unit := Sample.fleet [Sample.grant "T" "2999-01-01T00:00:00Z"
    (Sample.catalog "https://a.example.com/v2"), Sample.status 200, Sample.status 200]
  let first := start.turn Sample.lone () Sample.call
  let t := (start.after Sample.lone (.turn () Sample.call)).turn Sample.lone ()
    (.call "http://b.example.com:81/x?y" .get .empty none)
  have hrun : (t.events Sample.lone).any
      (·.serves fun r => r.url == "https://a.example.com/x?y") = true := by decide +kernel
  obtain ⟨before, r, answer, after, hsent, hurl⟩ := Event.exists_serving hrun
  obtain ⟨hrequests, -⟩ := service_request_origin (t := t)
    ((Sample.fleet_initial _).sessions ()) (show start.turns Sample.lone [.turn () Sample.call,
      .turn () (.call "http://b.example.com:81/x?y" .get .empty none)]
        = [first] ++ t :: [] from rfl)
  obtain ⟨last, endpoint, rest, hlast, ⟨hleads, hdestination⟩, hbound⟩ :=
    hrequests before r answer after hsent
  exact ⟨first, t, before, r, answer, after, last, endpoint, rest, rfl, hsent,
    beq_iff_eq.mp hurl, hlast, hleads, hdestination rfl, hbound⟩

end CloudSession
