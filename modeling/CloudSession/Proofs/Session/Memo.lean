/-
The connection that a session remembers. Once a session was got it is the one
that would be found again, with nothing done outside (`recalled_active`): the
catalog that it was found in is still installed and its context still valid. A
call therefore does what it would do if it found its connection afresh
(`call_eq_afresh`), and scenes that differ in nothing but the connection
remembered stay so through calls (`lockstep_call`).
-/
import CloudSession.Proofs.Session.Lockstep

namespace CloudSession

open CloudSession.Action

-- ======================================================= what is remembered

/-- Two scenes that differ in nothing but the connection remembered. -/
def ButForMemo (s t : Scene) : Prop :=
  ∃ r, t = s.withSession fun x => { x with resolved := r }

theorem ButForMemo.refl (s : Scene) : ButForMemo s s := ⟨s.session.resolved, rfl⟩

/-- To remember what is remembered changes nothing. -/
theorem Scene.withSession_resolved {s : Scene} {r : Option Connection}
    (h : s.session.resolved = r) : (s.withSession fun x => { x with resolved := r }) = s := by
  subst h
  rfl

namespace Action

variable {α : Type} {a : Action α}

/-- An action that goes the same way whatever the session is. -/
def Detached (a : Action α) : Prop :=
  ∀ s f, a.outcome (s.withSession f) = ((a.outcome s).1, (a.outcome s).2.withSession f)

theorem Detached.lockstep (h : Detached a) : Lockstep ButForMemo a a := by
  refine .of_outcome fun s t hst => ?_
  obtain ⟨r, rfl⟩ := hst
  exact ⟨_, h s _, r, rfl⟩

theorem detached_send (purpose : Purpose) (request : Request) :
    Detached (send purpose request) :=
  fun _ _ => rfl

theorem detached_openConnection (connection : Connection) :
    Detached (openConnection connection) := by
  intro s f
  rw [outcome_openConnection, outcome_openConnection]
  rfl

theorem detached_storeGet (key : String) : Detached (storeGet key) := by
  intro s f
  rw [outcome_storeGet, outcome_storeGet]
  have hsame : (s.withSession f).outside.store = s.outside.store := rfl
  rw [hsame]
  cases s.outside.store with
  | none => rfl
  | some shared => cases hget : shared.get key <;> simp only [hget] <;> rfl

theorem detached_storeChange (call : StoreCall) (key : String)
    (change : SharedStore → Except StoreFault SharedStore) :
    Detached (storeChange call key change) := by
  intro s f
  rw [outcome_storeChange, outcome_storeChange]
  have hsame : (s.withSession f).outside.store = s.outside.store := rfl
  rw [hsame]
  cases s.outside.store with
  | none => rfl
  | some shared => cases hchange : change shared <;> simp only [hchange] <;> rfl

end Action

namespace Client

variable {c : Client}

theorem mirrors_butForMemo (c : Client) : c.Mirrors ButForMemo where
  session {s t} hst := by
    obtain ⟨r, rfl⟩ := hst
    exact ⟨r, rfl⟩
  time {s t} hst := by
    obtain ⟨r, rfl⟩ := hst
    rfl
  network {s t} hst := by
    obtain ⟨r, rfl⟩ := hst
    rfl
  setSession {f} hf := by
    refine .of_outcome fun s t hst => ?_
    obtain ⟨r, rfl⟩ := hst
    obtain ⟨r', hr'⟩ := hf s.session r
    refine ⟨_, rfl, r', ?_⟩
    show Scene.mk (f { s.session with resolved := r }) s.outside = _
    rw [hr']
    rfl
  send purpose request := (detached_send purpose request).lockstep
  connection connection := (detached_openConnection connection).lockstep
  get := (detached_storeGet _).lockstep
  put _ := (detached_storeChange _ _ _).lockstep
  clear := (detached_storeChange _ _ _).lockstep

-- ============================================================= found again

/-- The connection that is remembered, if there is one, would be found again at
once. -/
def Recalled (c : Client) (s : Scene) : Prop :=
  ∀ connection, s.session.resolved = some connection →
    c.resolveAfresh.outcome s = (.ok connection, s)

theorem Recalled.resolve_eq {s : Scene} (h : c.Recalled s) :
    c.resolve.outcome s = c.resolveAfresh.outcome s := by
  rw [outcome_resolve]
  cases hresolved : s.session.resolved with
  | some connection => exact (h connection hresolved).symm
  | none => rfl

/-- What is found where an endpoint is known. -/
theorem outcome_resolveAfresh {s s' : Scene} {url : String} {connection : Connection}
    (hendpoint : (c.endpoint c.defaults).outcome s = (.ok url, s'))
    (hof : Connection.ofUrl url = .ok connection) :
    c.resolveAfresh.outcome s
      = (.ok connection, s'.withSession fun x => { x with resolved := some connection }) := by
  have hattempt : (attempt (Connection.ofUrl url)).outcome s' = (.ok connection, s') := by
    rw [outcome_attempt, hof]
  rw [resolveAfresh, outcome_bind_ok hendpoint, outcome_bind_ok hattempt]
  rfl

/-- With a forced base URL there is nothing else to find. -/
theorem recalled_of_base {s : Scene} {base : String} (hfits : c.Fits s)
    (hbase : c.selector.baseUrl = some base) : c.Recalled s := by
  intro connection hresolved
  obtain ⟨url, hurl, hof⟩ := hfits.resolved connection hresolved
  have heq : url = base := by
    rcases hurl with h | ⟨h, -⟩
    · exact Option.some.inj (h.symm.trans hbase)
    · exact absurd (hbase.symm.trans h) (by simp)
  subst heq
  have hendpoint : (c.endpoint c.defaults).outcome s = (.ok url, s) := by
    rw [endpoint, hbase]
    rfl
  rw [outcome_resolveAfresh hendpoint hof, Scene.withSession_resolved hresolved]

/-- Nothing is remembered, or the context in use is valid. -/
def Fresh (c : Client) (s : Scene) : Prop :=
  s.session.resolved = none ∨
    ∃ x, s.session.context = some x ∧ x.isValid s.outside.now c.skew = some true

/-- A session is got at once where the context in use is valid. -/
theorem outcome_active_valid {s : Scene} {x : Context} (hforced : c.forcedToken? s.session = none)
    (hx : s.session.context = some x) (hvalid : x.isValid s.outside.now c.skew = some true) :
    c.active.outcome s = (.ok ⟨x, false⟩, s) := by
  have hinstalled : c.installedValid.outcome s = (.ok (some x), s) := by
    rw [installedValid, outcome_bind_ok (outcome_session s)]
    simp only [hx]
    rw [outcome_bind_ok (outcome_isValid hvalid)]
    rfl
  rw [active, outcome_bind_ok (outcome_session s)]
  simp only [hforced]
  rw [outcome_bind_ok hinstalled]
  rfl

/-- The installed catalog is given at once where the context in use is valid. -/
theorem outcome_catalog_valid {s : Scene} {x : Context}
    (hforced : c.forcedToken? s.session = none) (hx : s.session.context = some x)
    (hvalid : x.isValid s.outside.now c.skew = some true) :
    c.catalog.outcome s = (.ok (s.session.catalog.getD []), s) := by
  rw [catalog, outcome_bind_ok (outcome_active_valid hforced hx hvalid), if_neg (by simp),
    outcome_bind_ok (outcome_session s)]
  rfl

/-- What was found in the catalog of a context is found there again as long as
it is valid. -/
theorem recalled_of_fresh {s : Scene} (hfits : c.Fits s) (hfresh : c.Fresh s)
    (hbase : c.selector.baseUrl = none) (htoken : c.selector.token = none) : c.Recalled s := by
  intro connection hresolved
  obtain ⟨url, hurl, hof⟩ := hfits.resolved connection hresolved
  rcases hfresh with hnone | ⟨x, hx, hvalid⟩
  · exact absurd (hnone.symm.trans hresolved) (by simp)
  rcases hurl with h | ⟨-, entries, hentries, hurl⟩
  · exact absurd (h.symm.trans hbase) (by simp)
  have hforced : c.forcedToken? s.session = none := by
    rw [forcedToken?, htoken]
    exact ite_self none
  have hcatalog : c.catalog.outcome s = (.ok entries, s) := by
    rw [outcome_catalog_valid hforced hx hvalid, hentries, Option.getD_some]
  have hendpoint : (c.endpoint c.defaults).outcome s = (.ok url, s) := by
    rw [endpoint, hbase]
    simp only
    rw [outcome_bind_ok hcatalog, outcome_attempt, hurl]
  rw [outcome_resolveAfresh hendpoint hof, Scene.withSession_resolved hresolved]

-- ============================================================ in every call

/-- A session that was got without a forced token is valid, or is a new one. -/
theorem fresh_active (htoken : c.selector.token = none) :
    Triple (fun _ => True) c.active (fun _ => c.Fresh) (fun _ => True) := by
  have hinstalled : Triple (fun _ => True) c.installedValid
      (fun found s => found ≠ none → c.Fresh s) (fun _ => True) := by
    refine .bind (.session_eq (E := fun _ => True)) fun session => ?_
    cases hcontext : session.context with
    | none => exact .pure fun _ _ h => absurd rfl h
    | some context =>
      refine .bind ((triple_isValid context).fail fun _ _ => trivial) fun valid => .pure ?_
      intro s hs hfound
      obtain ⟨⟨-, rfl⟩, hvalid⟩ := hs
      cases valid with
      | true => exact Or.inr ⟨context, hcontext, hvalid⟩
      | false => exact absurd rfl hfound
  have hrenewed : Triple (fun _ => True) (c.authenticate false) (fun _ => c.Fresh)
      (fun _ => True) := by
    refine .bind (Q := fun _ _ => True) (.of_outcome fun s _ => ?_) fun context => ?_
    · split <;> trivial
    refine .bind ((Triple.attempt_same _).post fun _ _ h => h) fun catalog => ?_
    exact .bind (.setSession (Q := fun _ => c.Fresh) fun _ _ => Or.inl rfl) fun _ =>
      .pure fun _ hs => hs
  refine .bind .session_same fun session => ?_
  have hforced : c.forcedToken? session = none := by
    rw [forcedToken?, htoken]
    exact ite_self none
  rw [hforced]
  refine .bind hinstalled fun found => ?_
  cases found with
  | some context => exact .pure fun _ hs => hs (by simp)
  | none => exact .bind (hrenewed.pre fun _ _ => trivial) fun _ => .pure fun _ hs => hs

/-- A forced token comes with a base URL. -/
def Rooted (c : Client) : Prop := c.selector.baseUrl = none → c.selector.token = none

/-- A client whose configuration was checked has none without the other. -/
theorem rooted_of_config {config : Config} (h : ofConfig config = .ok c) : c.Rooted := by
  intro hbase
  obtain ⟨microversion, -, hvalid, rfl⟩ := ofConfig_eq_ok h
  have hbase : config.selector.baseUrl = none := hbase
  unfold Selector.validate at hvalid
  split at hvalid
  · exact absurd hvalid (by simp)
  · next hnot =>
    rw [hbase] at hnot
    simpa using hnot

/-- Once a session was got, what is remembered would be found again. -/
theorem recalled_active (hrooted : c.Rooted) :
    Triple c.Fits c.active (fun _ => c.Recalled) (fun _ => True) := by
  cases hbase : c.selector.baseUrl with
  | some base =>
    exact fits_active.conseq (fun _ hs => hs) (fun _ _ hs => recalled_of_base hs hbase)
      fun _ _ => trivial
  | none =>
    have htoken := hrooted hbase
    exact (fits_active.and (fresh_active htoken)).conseq (fun _ hs => ⟨hs, trivial⟩)
      (fun _ _ hs => recalled_of_fresh hs.1 hs.2 hbase htoken) fun _ _ => trivial

/-- A call does what it would do if nothing were remembered. -/
theorem call_eq_afresh (hrooted : c.Rooted) {s : Scene} (hfits : c.Fits s) (action : String)
    (method : Method) (headers : Headers) (body : Option ByteArray) :
    (c.call action method headers body).outcome s
      = (c.callBy c.resolveAfresh action method headers body).outcome s := by
  show (c.callBy c.resolve action method headers body).outcome s = _
  rw [callBy, callBy]
  rcases ho : c.active.outcome s with ⟨e | current, s'⟩
  · rw [outcome_bind, outcome_bind, ho]
  · have hrecalled := (recalled_active hrooted).ok hfits ho
    rw [outcome_bind_ok ho, outcome_bind_ok ho, outcome_bind, outcome_bind, hrecalled.resolve_eq]

-- ================================================================== lockstep

/-- Scenes in which the session fits together and which differ in nothing but
the connection remembered. -/
def Forgetful (c : Client) (s t : Scene) : Prop := ButForMemo s t ∧ c.Fits s ∧ c.Fits t

theorem fits_afresh (hrooted : c.Rooted) (action : String) (method : Method) (headers : Headers)
    (body : Option ByteArray) :
    Triple c.Fits (c.callBy c.resolveAfresh action method headers body) (fun _ => c.Fits)
      c.Fits where
  ok hs ho := (fits_call action method headers body).ok hs
    ((call_eq_afresh hrooted hs action method headers body).trans ho)
  error hs ho := (fits_call action method headers body).error hs
    ((call_eq_afresh hrooted hs action method headers body).trans ho)

/-- It makes no difference to calls that find their connection afresh which one
is remembered. -/
theorem lockstep_afresh (hrooted : c.Rooted) (action : String) (method : Method)
    (headers : Headers) (body : Option ByteArray) :
    Lockstep c.Forgetful (c.callBy c.resolveAfresh action method headers body)
      (c.callBy c.resolveAfresh action method headers body) :=
  ((mirrors_butForMemo c).callBy (mirrors_butForMemo c).resolveAfresh action method headers
    body).and (fits_afresh hrooted action method headers body)
      (fits_afresh hrooted action method headers body)

/-- Nor does it to calls that use the one they remember, beside one that finds
it afresh. -/
theorem lockstep_call_afresh (hrooted : c.Rooted) (action : String) (method : Method)
    (headers : Headers) (body : Option ByteArray) :
    Lockstep c.Forgetful (c.call action method headers body)
      (c.callBy c.resolveAfresh action method headers body) := by
  refine .of_outcome fun s t hst => ?_
  rw [call_eq_afresh hrooted hst.2.1]
  exact (lockstep_afresh hrooted action method headers body).outcome hst

/-- Nor beside another that uses the one that it remembers. -/
theorem lockstep_call (hrooted : c.Rooted) (action : String) (method : Method)
    (headers : Headers) (body : Option ByteArray) :
    Lockstep c.Forgetful (c.call action method headers body)
      (c.call action method headers body) := by
  refine .of_outcome fun s t hst => ?_
  rw [call_eq_afresh hrooted hst.2.2]
  exact (lockstep_call_afresh hrooted action method headers body).outcome hst

end Client
end CloudSession
