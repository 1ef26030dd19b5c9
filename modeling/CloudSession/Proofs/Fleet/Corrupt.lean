/-
A client that shares a store in a directory, where the file of its key may hold
anything. If its bytes are text, then what is no context counts as none: the
client performs a handshake and leaves an entry with the new context, and only
then (`corrupt_entry_missed_iff`). Bytes that are no text make every negotiation
fail that is not forced, before a handshake (`corrupt_entry_not_missed`).
-/
import CloudSession.Proofs.Context.RoundTrip
import CloudSession.Proofs.Fleet.Basic
import CloudSession.Proofs.Store.Entry

namespace CloudSession

open CloudSession.Action

namespace Client

variable {c : Client} {bytes : ByteArray} {s : Scene}

-- =================================================================== entries

/-- The shared store is in a directory that can be used, and the file of the
client's key there holds some bytes. -/
def HasFile (c : Client) (bytes : ByteArray) (s : Scene) : Prop :=
  ∃ d : Directory, s.outside.store = some (.ofStore (.directory (some d))) ∧
    d.read? (Directory.entryName c.key) = some bytes

theorem HasFile.get_eq (h : c.HasFile bytes s) :
    ∃ shared, s.outside.store = some shared ∧ shared.get c.key = Context.inFile bytes := by
  obtain ⟨d, hstore, hfile⟩ := h
  refine ⟨_, hstore, ?_⟩
  rw [SharedStore.get_eq_view]
  show (Entry.file (d.read? (Directory.entryName c.key))).get = _
  rw [hfile]
  rfl

/-- Of a text the store gives the context in it, if it is one. -/
theorem HasFile.get_text (h : c.HasFile bytes s) {text : String}
    (htext : Text.Utf8.text? bytes = some text) :
    (storeGet c.key).outcome s = (.ok (Context.read? text), s.noting (.store .get c.key true)) := by
  obtain ⟨shared, hstore, hget⟩ := h.get_eq
  have hfound : shared.get c.key = .ok (Context.read? text) := by
    rw [hget, Context.inFile, htext]
  rw [outcome_storeGet, hstore]
  simp only [hfound]

/-- What is no text cannot be read. -/
theorem HasFile.get_notText (h : c.HasFile bytes s) (htext : Text.Utf8.text? bytes = none) :
    (storeGet c.key).outcome s
      = (.error (.store .notText), s.noting (.store .get c.key false)) := by
  obtain ⟨shared, hstore, hget⟩ := h.get_eq
  have hfound : shared.get c.key = .error .notText := by
    rw [hget, Context.inFile, htext]
  rw [outcome_storeGet, hstore]
  simp only [hfound]

-- =============================================================== negotiation

/-- No context is in the client's memory that is still valid. -/
def NothingValid (c : Client) (s : Scene) : Prop :=
  ∀ x, s.session.memory.get? c.key = some x → x.isValid s.outside.now c.skew = some false

/-- Where the store has no context, and memory none that is valid, nothing is
found. -/
theorem outcome_cachedValid_missed {s' : Scene}
    (hget : (storeGet c.key).outcome s = (.ok none, s')) (hmemory : c.NothingValid s') :
    c.cachedValid.outcome s = (.ok none, s') := by
  have hcached : c.cached.outcome s = (.ok (s'.session.memory.get? c.key), s') := by
    rw [cached, outcome_bind_ok hget]
    rfl
  rw [cachedValid, outcome_bind_ok hcached]
  cases hfound : s'.session.memory.get? c.key with
  | none => rfl
  | some x =>
    simp only
    rw [outcome_bind_ok (outcome_isValid (hmemory x hfound))]
    rfl

/-- Then a context is got as if a new one was forced. -/
theorem outcome_negotiate_missed {s' : Scene}
    (hget : (storeGet c.key).outcome s = (.ok none, s')) (hmemory : c.NothingValid s') :
    (c.negotiate false).outcome s = (c.negotiate true).outcome s' := by
  rw [negotiate, negotiate, if_neg (by simp), if_pos rfl,
    outcome_bind_ok (outcome_cachedValid_missed hget hmemory)]

/-- Where the store cannot be read, nothing more is done. -/
theorem outcome_negotiate_unread {s' : Scene} {e : SessionError}
    (hget : (storeGet c.key).outcome s = (.error e, s')) :
    (c.negotiate false).outcome s = (.error e, s') := by
  rw [negotiate, if_neg (by simp), cachedValid, cached]
  simp only [outcome_bind, hget]

/-- In a directory that can be used, what a handshake yields is left in the file
of the client's key. -/
theorem hasFile_renew :
    Triple (fun s => ∃ d, s.outside.store = some (.ofStore (.directory d))) c.renew
      (fun x s => x.Keepable ∧ c.HasFile x.toJson.pretty.toUTF8 s) (fun _ => True) := by
  have hhandshake : Triple (fun s => ∃ d, s.outside.store = some (.ofStore (.directory d)))
      c.handshake
      (fun x s => x.Keepable ∧ ∃ d, s.outside.store = some (.ofStore (.directory d)))
      (fun _ => True) := by
    refine .bind ((Triple.attempt_same _).fail fun _ _ => trivial) fun request => ?_
    refine .bind (.send (Q := fun _ s => ∃ d, s.outside.store = some (.ofStore (.directory d)))
      fun _ _ _ hs _ => hs) fun answer => ?_
    exact .attempt (fun x _ hx hs => ⟨Handshake.conclude_keepable hx, hs⟩) fun _ _ => trivial
  refine .bind hhandshake fun x => ?_
  refine .bind (.setSession (Q := fun _ s => x.Keepable ∧
    ∃ d, s.outside.store = some (.ofStore (.directory d))) fun _ hs => hs) fun _ => ?_
  refine .bind (Q := fun _ s => x.Keepable ∧ c.HasFile x.toJson.pretty.toUTF8 s)
    (.ignoringErrors (.storeChange ?_ ?_ ?_)) fun _ => .pure fun _ hs => hs
  · intro s hs hnone
    obtain ⟨-, d, hstore⟩ := hs
    exact absurd (hstore.symm.trans hnone) (by simp)
  · intro s shared changed hs hshared hput
    obtain ⟨hkeepable, d, hstore⟩ := hs
    obtain rfl := Option.some.inj (hstore.symm.trans hshared)
    obtain rfl := Except.ok.inj hput
    exact ⟨hkeepable, _, rfl, Directory.read?_putContext_self _ c.key x⟩
  · intro s shared fault hs hshared hput
    obtain ⟨-, d, hstore⟩ := hs
    obtain rfl := Option.some.inj (hstore.symm.trans hshared)
    exact absurd hput (by simp [SharedStore.put, SharedStore.ofStore, SharedStore.guarded,
      StoreFaults.none, Store.put, Except.map])

-- ================================================================= corruption

/-- The file of the client's key is read as far as it can be: the store gives the
context in it or none. If it has none, and memory none that is valid, then a
context is got by a handshake; and if there is one, then the store gives it. -/
structure Misses (c : Client) (bytes : ByteArray) (s : Scene) : Prop where
  given : (storeGet c.key).outcome s
    = (.ok (Context.readBytes? bytes), s.noting (.store .get c.key true))
  renewed : Context.readBytes? bytes = none → c.NothingValid s →
    (c.negotiate false).outcome s
      = (c.negotiate true).outcome (s.noting (.store .get c.key true))
  replaced : Context.readBytes? bytes = none → c.NothingValid s →
    ∀ x s', (c.negotiate false).outcome s = (.ok x, s') → x.RealsReadBack →
      ((storeGet c.key).outcome s').1 = .ok (some x)

end Client

open Client

/-- Whatever bytes the file of a client's key holds, in a directory that can be
used: they are read as a context or as none, and in the latter case replaced by
the context that a handshake yields, exactly if they are text. -/
theorem corrupt_entry_missed_iff {c : Client} {bytes : ByteArray} {s : Scene}
    (hfile : c.HasFile bytes s) :
    c.Misses bytes s ↔ (Text.Utf8.text? bytes).isSome = true := by
  constructor
  · intro h
    cases htext : Text.Utf8.text? bytes with
    | some text => rfl
    | none =>
      have hget := hfile.get_notText htext
      exact absurd (congrArg Prod.fst (hget.symm.trans h.given)) (by simp)
  · intro h
    obtain ⟨text, htext⟩ := Option.isSome_iff_exists.mp h
    have hread : Context.readBytes? bytes = Context.read? text := by
      rw [Context.readBytes?, htext]
      rfl
    have hgiven : (storeGet c.key).outcome s
        = (.ok (Context.readBytes? bytes), s.noting (.store .get c.key true)) := by
      rw [hfile.get_text htext, hread]
    have hrenewed : Context.readBytes? bytes = none → c.NothingValid s →
        (c.negotiate false).outcome s
          = (c.negotiate true).outcome (s.noting (.store .get c.key true)) := by
      intro hnone hmemory
      rw [hnone] at hgiven
      exact outcome_negotiate_missed hgiven hmemory
    refine ⟨hgiven, hrenewed, fun hnone hmemory x s' ho hreals => ?_⟩
    obtain ⟨d, hstore, -⟩ := hfile
    rw [hrenewed hnone hmemory] at ho
    have hstart : ∃ d, (s.noting (.store .get c.key true)).outside.store
        = some (.ofStore (.directory d)) := ⟨some d, hstore⟩
    obtain ⟨hkeepable, hleft⟩ := hasFile_renew.ok hstart ho
    rw [hleft.get_text (Text.Utf8.text?_toUTF8 _)]
    exact congrArg Except.ok (Context.read?_toJson hkeepable hreals)

namespace Sample

/-- What a client finds that has done nothing, when the file of its key holds
some bytes. -/
def found (bytes : ByteArray) : Scene where
  session := .initial
  outside :=
    { now := ⟨1893456000, 0⟩
      network := ⟨[grant "NEW" "2999-01-01T00:00:00Z" (.arr [])], []⟩
      store := some (.ofStore (.directory
        (some ⟨[(Directory.entryName (client none).key, bytes)]⟩)))
      log := [] }

theorem found_hasFile (bytes : ByteArray) : (client none).HasFile bytes (found bytes) :=
  ⟨_, rfl, by simp [Directory.read?]⟩

theorem found_nothingValid (bytes : ByteArray) : (client none).NothingValid (found bytes) :=
  fun _ h => absurd h (by simp [found, Session.initial, MemoryStore.get?, MemoryStore.empty])

end Sample

/-- A document that breaks off is replaced by the context of a handshake. -/
theorem corrupt_entry_missed_truncated :
    (Sample.client none).HasFile "\x7b".toUTF8 (Sample.found "\x7b".toUTF8) ∧
      (Sample.client none).Misses "\x7b".toUTF8 (Sample.found "\x7b".toUTF8) ∧
      (Context.readBytes? "\x7b".toUTF8).isNone = true ∧
      (Sample.client none).NothingValid (Sample.found "\x7b".toUTF8) ∧
      ((((Sample.client none).negotiate false).outcome
        (Sample.found "\x7b".toUTF8)).1.toOption.any (·.token == "NEW")) = true := by
  have htext : (Text.Utf8.text? "\x7b".toUTF8).isSome = true := by
    rw [Text.Utf8.text?_toUTF8]
    rfl
  have hnegotiated : ((((Sample.client none).negotiate false).outcome
      (Sample.found "\x7b".toUTF8)).1.toOption.any (·.token == "NEW")) = true := by
    decide +kernel
  exact ⟨Sample.found_hasFile _,
    (corrupt_entry_missed_iff (Sample.found_hasFile _)).mpr htext, by decide +kernel,
    Sample.found_nothingValid _, hnegotiated⟩

/-- A single byte that is no text makes the negotiation fail. The store is read,
and nothing else is done. -/
theorem corrupt_entry_not_missed :
    (Context.readBytes? ⟨#[0xff]⟩).isNone = true ∧
      (Sample.client none).NothingValid (Sample.found ⟨#[0xff]⟩) ∧
      ¬(Sample.client none).Misses ⟨#[0xff]⟩ (Sample.found ⟨#[0xff]⟩) ∧
      ((Sample.client none).negotiate false).outcome (Sample.found ⟨#[0xff]⟩)
        = (.error (.store .notText),
          (Sample.found ⟨#[0xff]⟩).noting (.store .get (Sample.client none).key false)) := by
  have htext : Text.Utf8.text? ⟨#[0xff]⟩ = none := by decide +kernel
  have hget := (Sample.found_hasFile ⟨#[0xff]⟩).get_notText htext
  refine ⟨by decide +kernel, Sample.found_nothingValid _, fun h => ?_,
    outcome_negotiate_unread hget⟩
  exact absurd (congrArg Prod.fst (hget.symm.trans h.given)) (by simp)

end CloudSession
