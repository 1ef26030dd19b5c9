/-
Reasoning about actions. `outcome` is what an action gives and the scene that
it leaves. A `Triple` says what holds of both when the action starts in a
scene with some property, and `Steps` that the scene left behind stands in
some relation to the first, whatever the action gives. A property that the
relation keeps can be carried past the action (`Triple.frame`).
-/
import CloudSession.Session.Scene
import Mathlib.Order.Defs.Unbundled

namespace CloudSession

-- ==================================================================== scenes

namespace Scene

/-- The scene with one more event in its log. -/
def noting (s : Scene) (e : Event) : Scene :=
  { s with outside := { s.outside with log := s.outside.log ++ [e] } }

/-- The scene with another session. -/
def withSession (s : Scene) (f : Session → Session) : Scene :=
  { s with session := f s.session }

/-- The scene with another network. -/
def withNetwork (s : Scene) (n : Network) : Scene :=
  { s with outside := { s.outside with network := n } }

/-- The scene with another shared store. -/
def withStore (s : Scene) (shared : SharedStore) : Scene :=
  { s with outside := { s.outside with store := some shared } }

end Scene

namespace Action

variable {α β : Type}

-- ================================================================== outcomes

/-- What an action gives, and the scene that it leaves. -/
def outcome (a : Action α) (s : Scene) : Except SessionError α × Scene := a.run.run s

@[simp] theorem outcome_pure (x : α) (s : Scene) : outcome (pure x) s = (.ok x, s) := rfl

@[simp] theorem outcome_throw (e : SessionError) (s : Scene) :
    outcome (throw e : Action α) s = (.error e, s) := rfl

/-- A sequence goes on where its first part ended, unless that failed. -/
theorem run_bind {σ : Type} (a : ExceptT SessionError (StateM σ) α)
    (f : α → ExceptT SessionError (StateM σ) β) (s : σ) :
    (a >>= f).run.run s = match a.run.run s with
      | (.ok x, s') => (f x).run.run s'
      | (.error e, s') => (.error e, s') := by
  unfold ExceptT.run StateT.run
  simp only [bind, ExceptT.bind, ExceptT.mk, StateT.bind, ExceptT.bindCont]
  rcases a s with ⟨x | x, s'⟩ <;> rfl

/-- A sequence of actions goes on where its first one ended. -/
theorem outcome_bind (a : Action α) (f : α → Action β) (s : Scene) :
    outcome (a >>= f) s = match a.outcome s with
      | (.ok x, s') => (f x).outcome s'
      | (.error e, s') => (.error e, s') := by
  simp only [outcome, run_bind]
  rcases a.run.run s with ⟨x | x, s'⟩ <;> rfl

/-- What an action gives is gone on with. -/
theorem outcome_bind_ok {a : Action α} {f : α → Action β} {s s' : Scene} {x : α}
    (h : a.outcome s = (.ok x, s')) : outcome (a >>= f) s = (f x).outcome s' := by
  rw [outcome_bind, h]

/-- What an action gives is passed on. -/
theorem outcome_returning (a : Action α) (f : α → β) (s : Scene) :
    (outcome (do return f (← a)) s).1 = (a.outcome s).1.map f := by
  rw [outcome_bind]
  rcases a.outcome s with ⟨_ | _, _⟩ <;> rfl

theorem outcome_tryCatch (a : Action α) (f : SessionError → Action α) (s : Scene) :
    outcome (tryCatch a f) s = match a.outcome s with
      | (.ok x, s') => (.ok x, s')
      | (.error e, s') => (f e).outcome s' := by
  unfold outcome ExceptT.run StateT.run
  simp only [tryCatch, tryCatchThe, MonadExceptOf.tryCatch, ExceptT.tryCatch, ExceptT.mk,
    bind, StateT.bind]
  rcases a s with ⟨x | x, s'⟩ <;> rfl

@[simp] theorem outcome_get (s : Scene) : outcome get s = (.ok s, s) := rfl

@[simp] theorem outcome_modify (f : Scene → Scene) (s : Scene) :
    outcome (modify f) s = (.ok (), f s) := rfl

@[simp] theorem outcome_session (s : Scene) : session.outcome s = (.ok s.session, s) := rfl

@[simp] theorem outcome_now (s : Scene) : now.outcome s = (.ok s.outside.now, s) := rfl

@[simp] theorem outcome_setSession (f : Session → Session) (s : Scene) :
    (setSession f).outcome s = (.ok (), s.withSession f) := rfl

@[simp] theorem outcome_note (e : Event) (s : Scene) :
    (note e).outcome s = (.ok (), s.noting e) := rfl

theorem outcome_attempt (r : Except SessionError α) (s : Scene) :
    (attempt r).outcome s = (r, s) := by
  cases r <;> rfl

theorem outcome_ignoringErrors (a : Action Unit) (s : Scene) :
    (ignoringErrors a).outcome s = (.ok (), (a.outcome s).2) := by
  rw [ignoringErrors, outcome_tryCatch]
  rcases a.outcome s with ⟨_ | _, s'⟩ <;> rfl

-- ========================================================= outside operations

/-- The answer to a request is the network's next one. -/
theorem outcome_send (purpose : Purpose) (request : Request) (s : Scene) :
    (send purpose request).outcome s
      = (.ok s.outside.network.send.1,
        (s.withNetwork s.outside.network.send.2).noting
          (.exchange purpose request s.outside.network.send.1)) := rfl

theorem outcome_openConnection (connection : Connection) (s : Scene) :
    (openConnection connection).outcome s
      = (match s.outside.network.connect.1 with
          | some message => .error (.transport message)
          | none => .ok (),
        (s.withNetwork s.outside.network.connect.2).noting
          (.connect connection s.outside.network.connect.1)) := by
  rcases h : s.outside.network.connect with ⟨_ | message, network⟩ <;>
    simp [openConnection, outcome_bind, h, Scene.withNetwork]

theorem outcome_storeGet (key : String) (s : Scene) :
    (storeGet key).outcome s = match s.outside.store with
      | none => (.ok none, s)
      | some shared => match shared.get key with
        | .ok found => (.ok found, s.noting (.store .get key true))
        | .error fault => (.error (.store fault), s.noting (.store .get key false)) := by
  cases hstore : s.outside.store with
  | none => simp [storeGet, outcome_bind, hstore]
  | some shared =>
    cases hget : shared.get key <;> simp [storeGet, outcome_bind, hstore, hget, -bind_pure_comp]

theorem outcome_storeChange (call : StoreCall) (key : String)
    (change : SharedStore → Except StoreFault SharedStore) (s : Scene) :
    (storeChange call key change).outcome s = match s.outside.store with
      | none => (.ok (), s)
      | some shared => match change shared with
        | .ok changed => (.ok (), (s.withStore changed).noting (.store call key true))
        | .error fault => (.error (.store fault), s.noting (.store call key false)) := by
  cases hstore : s.outside.store with
  | none => simp [storeChange, outcome_bind, hstore]
  | some shared =>
    cases hchange : change shared <;>
      simp [storeChange, outcome_bind, hstore, hchange, Scene.withStore]

-- =================================================================== triples

/-- An action that starts in a scene with `P` and gives a value leaves a scene
with `Q`, and one that fails leaves a scene with `E`. -/
structure Triple (P : Scene → Prop) (a : Action α) (Q : α → Scene → Prop) (E : Scene → Prop) :
    Prop where
  ok : ∀ {s s' x}, P s → a.outcome s = (.ok x, s') → Q x s'
  error : ∀ {s s' e}, P s → a.outcome s = (.error e, s') → E s'

/-- The scenes that an action leaves are in a relation to those it starts in. -/
structure Steps (R : Scene → Scene → Prop) (a : Action α) : Prop where
  step : ∀ s, R s (a.outcome s).2

namespace Triple

variable {P P' E E' : Scene → Prop} {Q Q' : α → Scene → Prop} {a : Action α}

/-- What holds of whatever an action leaves, by its outcome. -/
theorem of_outcome (h : ∀ s, P s → match a.outcome s with
    | (.ok x, s') => Q x s'
    | (.error _, s') => E s') : Triple P a Q E where
  ok {s _ _} hs ho := by
    have := h s hs
    rwa [ho] at this
  error {s _ _} hs ho := by
    have := h s hs
    rwa [ho] at this

/-- What holds whether or not an action fails. -/
theorem leaves {I : Scene → Prop} (h : Triple P a (fun _ => I) I) {s : Scene} (hs : P s) :
    I (a.outcome s).2 := by
  rcases ho : a.outcome s with ⟨e | x, s'⟩
  · exact h.error hs ho
  · exact h.ok hs ho

/-- A stronger start and weaker ends. -/
theorem conseq (h : Triple P a Q E) (hP : ∀ s, P' s → P s) (hQ : ∀ x s, Q x s → Q' x s)
    (hE : ∀ s, E s → E' s) : Triple P' a Q' E' where
  ok hs ho := hQ _ _ (h.ok (hP _ hs) ho)
  error hs ho := hE _ (h.error (hP _ hs) ho)

theorem pre (h : Triple P a Q E) (hP : ∀ s, P' s → P s) : Triple P' a Q E :=
  h.conseq hP (fun _ _ h => h) fun _ h => h

theorem post (h : Triple P a Q E) (hQ : ∀ x s, Q x s → Q' x s) : Triple P a Q' E :=
  h.conseq (fun _ h => h) hQ fun _ h => h

theorem fail (h : Triple P a Q E) (hE : ∀ s, E s → E' s) : Triple P a Q E' :=
  h.conseq (fun _ h => h) (fun _ _ h => h) hE

/-- Two things that hold of an action hold together. -/
theorem and (h : Triple P a Q E) (h' : Triple P' a Q' E') :
    Triple (fun s => P s ∧ P' s) a (fun x s => Q x s ∧ Q' x s) (fun s => E s ∧ E' s) where
  ok hs ho := ⟨h.ok hs.1 ho, h'.ok hs.2 ho⟩
  error hs ho := ⟨h.error hs.1 ho, h'.error hs.2 ho⟩

/-- What holds of an action for each value holds if there is one. -/
theorem of_exists {ι : Type} {P : ι → Scene → Prop} (h : ∀ i, Triple (P i) a Q E) :
    Triple (fun s => ∃ i, P i s) a Q E where
  ok := fun ⟨i, hs⟩ ho => (h i).ok hs ho
  error := fun ⟨i, hs⟩ ho => (h i).error hs ho

/-- Anything holds of an action that is never started. -/
theorem vacuous (h : ∀ s, ¬P s) : Triple P a Q E where
  ok hs _ := absurd hs (h _)
  error hs _ := absurd hs (h _)

/-- In a known scene an action has its outcome. -/
theorem outcome (a : Action α) (s : Scene) :
    Triple (· = s) a (fun x s' => a.outcome s = (.ok x, s'))
      (fun s' => ∃ e, a.outcome s = (.error e, s')) where
  ok := by
    intro _ s' x heq ho
    subst heq
    exact ho
  error := by
    intro _ s' e heq ho
    subst heq
    exact ⟨e, ho⟩

/-- An action leaves a scene that it gets to from where it started. -/
theorem trace (P : Scene → Prop) (a : Action α) :
    Triple P a (fun x s' => ∃ s, P s ∧ a.outcome s = (.ok x, s')) (fun _ => True) where
  ok hs ho := ⟨_, hs, ho⟩
  error _ _ := trivial

protected theorem pure {x : α} (h : ∀ s, P s → Q x s) : Triple P (pure x) Q E :=
  of_outcome fun s hs => h s hs

protected theorem throw {e : SessionError} (h : ∀ s, P s → E s) :
    Triple P (throw e : Action α) Q E :=
  of_outcome fun s hs => h s hs

protected theorem bind {f : α → Action β} {Q' : β → Scene → Prop} (h : Triple P a Q E)
    (hf : ∀ x, Triple (Q x) (f x) Q' E) : Triple P (a >>= f) Q' E := by
  refine of_outcome fun s hs => ?_
  rw [outcome_bind]
  rcases ho : a.outcome s with ⟨e | x, s'⟩
  · exact h.error hs ho
  · have hx := h.ok hs ho
    rcases hof : (f x).outcome s' with ⟨e | y, s''⟩
    · simpa only [hof] using (hf x).error hx hof
    · simpa only [hof] using (hf x).ok hx hof

/-- What an action leaves stays when its value is passed on. -/
protected theorem returning {I J : Scene → Prop} (h : Triple P a (fun _ => I) E)
    (hI : ∀ s, I s → J s) (f : α → β) : Triple P (do return f (← a)) (fun _ => J) E :=
  .bind h fun _ => .pure hI

/-- What holds of a sequence holds of its end, where its beginning led there. -/
theorem of_bind {f : α → Action β} {Q' : β → Scene → Prop} (h : Triple P (a >>= f) Q' E)
    {x : α} : Triple (fun s' => ∃ s, P s ∧ a.outcome s = (.ok x, s')) (f x) Q' E where
  ok := by
    intro s' s'' y hs ho
    obtain ⟨s, hs, ha⟩ := hs
    exact h.ok hs (by rw [outcome_bind, ha]; exact ho)
  error := by
    intro s' s'' e hs ho
    obtain ⟨s, hs, ha⟩ := hs
    exact h.error hs (by rw [outcome_bind, ha]; exact ho)

protected theorem attempt {r : Except SessionError α} (hok : ∀ x s, r = .ok x → P s → Q x s)
    (herror : ∀ s, P s → E s) : Triple P (attempt r) Q E := by
  cases r with
  | ok x => exact .pure fun s hs => hok x s rfl hs
  | error e => exact .throw herror

/-- Trying to get a value changes nothing. -/
theorem attempt_same (r : Except SessionError α) : Triple P (Action.attempt r) (fun _ => P) P :=
  .attempt (fun _ _ _ hs => hs) fun _ hs => hs

protected theorem session {Q : Session → Scene → Prop} (h : ∀ s, P s → Q s.session s) :
    Triple P session Q E :=
  of_outcome fun s hs => h s hs

/-- The session that is given is the one in the scene. -/
theorem session_eq : Triple P Action.session (fun session s => P s ∧ session = s.session) E :=
  .session fun _ hs => ⟨hs, rfl⟩

theorem session_same : Triple P Action.session (fun _ => P) E :=
  .session fun _ hs => hs

protected theorem get {Q : Scene → Scene → Prop} (h : ∀ s, P s → Q s s) : Triple P get Q E :=
  of_outcome fun s hs => h s hs

protected theorem now {Q : Instant → Scene → Prop} (h : ∀ s, P s → Q s.outside.now s) :
    Triple P now Q E :=
  of_outcome fun s hs => h s hs

protected theorem setSession {f : Session → Session} {Q : Unit → Scene → Prop}
    (h : ∀ s, P s → Q () (s.withSession f)) : Triple P (setSession f) Q E :=
  of_outcome fun s hs => h s hs

/-- It does not matter whether an action failed whose errors are ignored. -/
protected theorem ignoringErrors {a : Action Unit} {Q : Unit → Scene → Prop}
    (h : Triple P a Q (Q ())) : Triple P (ignoringErrors a) Q E := by
  refine of_outcome fun s hs => ?_
  rw [outcome_ignoringErrors]
  rcases ho : a.outcome s with ⟨e | x, s'⟩
  · exact h.error hs ho
  · exact h.ok hs ho

protected theorem send {purpose : Purpose} {request : Request} {Q : Answer → Scene → Prop}
    (h : ∀ s answer network, P s → s.outside.network.send = (answer, network) →
      Q answer ((s.withNetwork network).noting (.exchange purpose request answer))) :
    Triple P (send purpose request) Q E :=
  of_outcome fun s hs => h s _ _ hs rfl

protected theorem openConnection {connection : Connection} {Q : Unit → Scene → Prop}
    (hok : ∀ s network, P s →
      Q () ((s.withNetwork network).noting (.connect connection none)))
    (herror : ∀ s network message, P s →
      E ((s.withNetwork network).noting (.connect connection (some message)))) :
    Triple P (openConnection connection) Q E := by
  refine of_outcome fun s hs => ?_
  rw [outcome_openConnection]
  rcases hconnect : s.outside.network.connect with ⟨_ | message, network⟩
  · exact hok s network hs
  · exact herror s network message hs

protected theorem storeGet {key : String} {Q : Option Context → Scene → Prop}
    (hnone : ∀ s, P s → s.outside.store = none → Q none s)
    (hok : ∀ s shared found, P s → s.outside.store = some shared →
      shared.get key = .ok found → Q found (s.noting (.store .get key true)))
    (herror : ∀ s shared fault, P s → s.outside.store = some shared →
      shared.get key = .error fault → E (s.noting (.store .get key false))) :
    Triple P (storeGet key) Q E := by
  refine of_outcome fun s hs => ?_
  rw [outcome_storeGet]
  cases hstore : s.outside.store with
  | none => exact hnone s hs hstore
  | some shared =>
    cases hget : shared.get key with
    | ok found => simpa only [hget] using hok s shared found hs hstore hget
    | error fault => simpa only [hget] using herror s shared fault hs hstore hget

protected theorem storeChange {call : StoreCall} {key : String}
    {change : SharedStore → Except StoreFault SharedStore} {Q : Unit → Scene → Prop}
    (hnone : ∀ s, P s → s.outside.store = none → Q () s)
    (hok : ∀ s shared changed, P s → s.outside.store = some shared →
      change shared = .ok changed → Q () ((s.withStore changed).noting (.store call key true)))
    (herror : ∀ s shared fault, P s → s.outside.store = some shared →
      change shared = .error fault → E (s.noting (.store call key false))) :
    Triple P (storeChange call key change) Q E := by
  refine of_outcome fun s hs => ?_
  rw [outcome_storeChange]
  cases hstore : s.outside.store with
  | none => exact hnone s hs hstore
  | some shared =>
    cases hchange : change shared with
    | ok changed => simpa only [hchange] using hok s shared changed hs hstore hchange
    | error fault => simpa only [hchange] using herror s shared fault hs hstore hchange

end Triple

-- ===================================================================== steps

namespace Steps

variable {R : Scene → Scene → Prop} {a : Action α}

theorem mono {R' : Scene → Scene → Prop} (h : Steps R a) (hR : ∀ s s', R s s' → R' s s') :
    Steps R' a :=
  ⟨fun s => hR _ _ (h.step s)⟩

theorem of_outcome {s s' : Scene} {x : Except SessionError α} (h : Steps R a)
    (ho : a.outcome s = (x, s')) : R s s' := by
  have := h.step s
  rwa [ho] at this

/-- A property that the steps of an action keep holds after it. -/
theorem triple (h : Steps R a) {P : Scene → Prop} (hP : ∀ s s', R s s' → P s → P s') :
    Triple P a (fun _ => P) P where
  ok hs ho := hP _ _ (h.of_outcome ho) hs
  error hs ho := hP _ _ (h.of_outcome ho) hs

protected theorem setSession {f : Session → Session} (h : ∀ s, R s (s.withSession f)) :
    Steps R (setSession f) :=
  ⟨h⟩

protected theorem ignoringErrors {a : Action Unit} (h : Steps R a) :
    Steps R (ignoringErrors a) := by
  refine ⟨fun s => ?_⟩
  rw [outcome_ignoringErrors]
  exact h.step s

variable [IsPreorder Scene R]

protected theorem pure (x : α) : Steps R (pure x) := ⟨fun s => refl s⟩

protected theorem throw (e : SessionError) : Steps R (throw e : Action α) := ⟨fun s => refl s⟩

protected theorem attempt (r : Except SessionError α) : Steps R (attempt r) := by
  refine ⟨fun s => ?_⟩
  rw [outcome_attempt]
  exact refl s

protected theorem session : Steps R session := ⟨fun s => refl s⟩

protected theorem get : Steps R (get : Action Scene) := ⟨fun s => refl s⟩

protected theorem now : Steps R now := ⟨fun s => refl s⟩

protected theorem bind {f : α → Action β} (h : Steps R a) (hf : ∀ x, Steps R (f x)) :
    Steps R (a >>= f) := by
  refine ⟨fun s => ?_⟩
  rw [outcome_bind]
  rcases ho : a.outcome s with ⟨e | x, s'⟩
  · exact h.of_outcome ho
  · exact IsTrans.trans _ _ _ (h.of_outcome ho) ((hf x).step s')

end Steps

/-- Something holds of an action, besides a property that its steps keep. -/
theorem Triple.frame {P F E : Scene → Prop} {Q : α → Scene → Prop} {a : Action α}
    (h : Triple P a Q E) {R : Scene → Scene → Prop} (hsteps : Steps R a)
    (hF : ∀ s s', R s s' → F s → F s') :
    Triple (fun s => P s ∧ F s) a (fun x s => Q x s ∧ F s) (fun s => E s ∧ F s) :=
  h.and (hsteps.triple hF)

end Action
end CloudSession
