/-
Which token a request to the service carries. It is the forced one while there
is one, and else the token of a context that a handshake yielded (`Vouched`),
valid at the time or granted for this very request (`sound_call`).
-/
import CloudSession.Proofs.Session.Provenance

namespace CloudSession.Client

open CloudSession.Action

-- ================================================================== requests

/-- The request carries the token in its header, unless the caller's own
headers name that header. -/
def Carries (c : Client) (caller : Headers) (r : Request) (token : String) : Prop :=
  caller.contains c.identity.protocol.tokenHeader = false →
    r.headers.get? c.identity.protocol.tokenHeader = some token

/-- The token of a request to the service is the forced one, or else belongs
to a context of the client's own that was granted by a handshake, before or in
this operation, and is valid or the yield of the request's own handshake. -/
def Vouched (c : Client) (past : String → Context → Prop) (own : Prop) (forced : Option String)
    (now : Instant) (caller : Headers) (before : List Event) (r : Request) : Prop :=
  match forced with
  | some token => c.Carries caller r token
  | none => own → ∃ y, (past c.key y ∨ c.Granted before y) ∧
      (y.isValid now c.skew = some true ∨ c.JustGranted before y) ∧
      c.Carries caller r y.token

/-- Every request to the service in the log carries a token as it should. -/
structure Vouching (c : Client) (past : String → Context → Prop) (own : Prop)
    (forced : Option String) (now : Instant) (caller : Headers) (s : Scene) : Prop where
  time : s.outside.now = now
  requests : ∀ before r answer after,
    s.outside.log = before ++ .exchange .service r answer :: after →
      c.Vouched past own forced now caller before r

variable {c : Client} {past : String → Context → Prop} {own : Prop} {forced : Option String}
  {now : Instant} {caller : Headers}

/-- An event of two lists is one of the first or one of the second. -/
theorem append_eq_split {log new before after : List Event} {e : Event}
    (h : log ++ new = before ++ e :: after) :
    (∃ middle, log = before ++ e :: middle) ∨
      ∃ more, before = log ++ more ∧ new = more ++ e :: after := by
  rcases List.append_eq_append_iff.mp h with ⟨more, hbefore, hnew⟩ | ⟨more, hlog, hmore⟩
  · exact Or.inr ⟨more, hbefore, hnew⟩
  · cases more with
    | nil => exact Or.inr ⟨[], by rw [hlog, List.append_nil, List.append_nil], hmore.symm⟩
    | cons d more =>
      obtain ⟨rfl, -⟩ := List.cons.inj hmore
      exact Or.inl ⟨more, hlog⟩

theorem Vouching.grows {s s' : Scene} (hgrows : Grows (!·.isService) s s')
    (h : c.Vouching past own forced now caller s) :
    c.Vouching past own forced now caller s' := by
  refine ⟨hgrows.now.trans h.time, fun before r answer after hlog => ?_⟩
  obtain ⟨new, hnew, hall⟩ := hgrows.log
  rw [hnew] at hlog
  rcases append_eq_split hlog with ⟨middle, hmiddle⟩ | ⟨more, -, hmore⟩
  · exact h.requests before r answer middle hmiddle
  · have := hall (.exchange .service r answer) (by rw [hmore]; simp)
    exact absurd this (by simp [Event.isService])

theorem Vouching.unsent {s s' : Scene} (hgrows : Grows (!·.isRequest) s s')
    (h : c.Vouching past own forced now caller s) :
    c.Vouching past own forced now caller s' :=
  h.grows (hgrows.mono Event.not_isService_of_not_isRequest)

theorem Vouching.quiet {s s' : Scene} (hquiet : Quiet s s')
    (h : c.Vouching past own forced now caller s) :
    c.Vouching past own forced now caller s' :=
  h.grows (hquiet.toGrows.mono fun e he => by simp [Event.not_isService_of_isQuiet he])

/-- Nothing has to be vouched for before anything was sent. -/
theorem vouching_of_empty {s : Scene} (hlog : s.outside.log = []) (hnow : s.outside.now = now) :
    c.Vouching past own forced now caller s :=
  ⟨hnow, fun before r answer after h => absurd (hlog.symm.trans h) (by simp)⟩

/-- A request with the token of a context that is ready is vouched for. -/
theorem Ready.vouched {s : Scene} {a : Active} (h : c.Ready past own s a)
    (hforced : c.forcedToken? s.session = forced) (hnow : s.outside.now = now) (method : Method)
    (url : String) (body : Option ByteArray) :
    c.Vouched past own forced now caller s.outside.log
      ⟨method, url, c.requestHeaders method a.context.token caller, body⟩ := by
  unfold Ready at h
  rw [hforced] at h
  cases forced with
  | some token =>
    obtain ⟨hcontext, -⟩ := h
    intro hcaller
    rw [hcontext]
    exact c.get?_requestHeaders method _ hcaller
  | none =>
    intro hown
    obtain ⟨y, hcopy, hsource, huse⟩ := h.2 hown
    rw [hnow] at huse
    refine ⟨y, hsource, huse, fun hcaller => ?_⟩
    rw [hcopy.token]
    exact c.get?_requestHeaders method _ hcaller

/-- Sending a request that is vouched for. -/
theorem Vouching.send {s : Scene} (h : c.Vouching past own forced now caller s) {r : Request}
    (hr : c.Vouched past own forced now caller s.outside.log r) (network : Network)
    (answer : Answer) :
    c.Vouching past own forced now caller
      ((s.withNetwork network).noting (.exchange .service r answer)) := by
  refine ⟨h.time, fun before r' answer' after hlog => ?_⟩
  have hlog : s.outside.log ++ [.exchange .service r answer]
      = before ++ .exchange .service r' answer' :: after := hlog
  rcases append_eq_split hlog with ⟨middle, hmiddle⟩ | ⟨more, hbefore, hmore⟩
  · exact h.requests before r' answer' middle hmiddle
  · cases more with
    | nil =>
      obtain ⟨-, rfl, -⟩ := Event.exchange.inj (List.cons.inj hmore).1
      rw [hbefore, List.append_nil]
      exact hr
    | cons d more => exact absurd (List.cons.inj hmore).2 (by simp)

-- ===================================================================== calls

/-- The contexts within reach come from handshakes, the requests carry their
tokens, and it is known whether a token is forced. -/
structure Sound (c : Client) (past : String → Context → Prop) (own : Prop)
    (forced : Option String) (now : Instant) (caller : Headers) (s : Scene) : Prop where
  traced : c.Traced past own s
  vouching : c.Vouching past own forced now caller s
  forced : c.forcedToken? s.session = forced

/-- What holds as well after a forced token has been revoked. -/
def Accounted (c : Client) (past : String → Context → Prop) (own : Prop)
    (forced : Option String) (now : Instant) (caller : Headers) (s : Scene) : Prop :=
  c.Traced past own s ∧ c.Vouching past own forced now caller s

theorem Sound.accounted {s : Scene} (h : c.Sound past own forced now caller s) :
    c.Accounted past own forced now caller s :=
  ⟨h.traced, h.vouching⟩

variable {α : Type}

/-- What is quiet and keeps track of the contexts keeps everything sound. -/
theorem sound_of_traced {a : Action α} {Q : α → Scene → Prop} {F : Scene → Prop}
    (h : Triple (c.Traced past own) a (fun x s => c.Traced past own s ∧ Q x s)
      (c.Traced past own))
    (hquiet : Steps Quiet a) (hF : ∀ s s', Quiet s s' → F s → F s') :
    Triple (fun s => c.Sound past own forced now caller s ∧ F s) a
      (fun x s => c.Sound past own forced now caller s ∧ F s ∧ Q x s)
      (c.Accounted past own forced now caller) := by
  have hkept : ∀ s s', Quiet s s' →
      (c.Vouching past own forced now caller s ∧ c.forcedToken? s.session = forced) ∧ F s →
      (c.Vouching past own forced now caller s' ∧ c.forcedToken? s'.session = forced) ∧ F s' :=
    fun s s' hq hs => ⟨⟨hs.1.1.quiet hq, (forcedToken?_quiet hq).trans hs.1.2⟩, hF s s' hq hs.2⟩
  exact (h.frame hquiet hkept).conseq
    (fun s hs => ⟨hs.1.traced, ⟨hs.1.vouching, hs.1.forced⟩, hs.2⟩)
    (fun x s hs => ⟨⟨hs.1.1, hs.2.1.1, hs.2.1.2⟩, hs.2.2, hs.1.2⟩)
    fun s hs => ⟨hs.1, hs.2.1.1⟩

theorem sound_settle (isForced : Bool) (r : Response) :
    Triple (c.Sound past own forced now caller) (c.settle isForced r)
      (fun _ => c.Sound past own forced now caller)
      (c.Accounted past own forced now caller) := by
  unfold settle
  split
  · exact .pure fun s hs => hs
  · split
    · exact .bind (((traced_onUnauthorized isForced).frame (c.grows_onUnauthorized isForced)
        fun _ _ => Vouching.unsent).pre fun s hs => hs.accounted) fun _ => .throw fun s hs => hs
    · exact .throw fun s hs => hs.accounted

/-- A call sends its request with a token that is vouched for. -/
theorem sound_call (action : String) (method : Method) (body : Option ByteArray) :
    Triple (c.Sound past own forced now caller) (c.call action method caller body)
      (fun _ => c.Sound past own forced now caller)
      (c.Accounted past own forced now caller) := by
  refine .bind ((sound_of_traced traced_active c.quiet_active (F := fun _ => True)
    fun _ _ _ h => h).pre fun s hs => ⟨hs, trivial⟩) fun a => ?_
  refine .bind ((sound_of_traced (Q := fun _ _ => True)
    (traced_resolve.post fun _ s hs => ⟨hs, trivial⟩) c.quiet_resolve
    (F := fun s => c.Ready past own s a) fun s s' h hs => hs.quiet h).pre
      fun s hs => ⟨hs.1, hs.2.2⟩) fun connection => ?_
  refine .bind ((sound_of_traced (Q := fun _ _ => True)
    ((traced_connect connection).post fun _ s hs => ⟨hs, trivial⟩) (quiet_connect connection)
    (F := fun s => c.Ready past own s a) fun s s' h hs => hs.quiet h).pre
      fun s hs => ⟨hs.1, hs.2.1⟩) fun _ => ?_
  refine .bind (Q := fun _ => c.Sound past own forced now caller) ?_ fun answer => ?_
  · refine .send fun s answer network hs _ => ⟨?_, ?_, hs.1.forced⟩
    · exact hs.1.traced.grows (Grows.noting _ rfl rfl) rfl rfl rfl
    · exact hs.1.vouching.send
        (hs.2.1.vouched hs.1.forced hs.1.vouching.time method _ body) network answer
  · cases answer with
    | error message => exact .throw fun s hs => hs.accounted
    | ok response => exact sound_settle a.forced response

end CloudSession.Client
