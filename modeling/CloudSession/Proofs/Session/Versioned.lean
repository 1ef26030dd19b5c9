/-
What requests say about microversions. Only the header of that name is set to the text of the
microversion that the client's selector names (`DefaultHeader.asks`). So whatever it says in
a request comes from the caller, or it is two words from which that microversion is read
again (`microversion_read_back`).
-/
import CloudSession.Proofs.Microversion
import CloudSession.Proofs.Session.Overlay

namespace CloudSession

variable {config : Config} {c : Client} {method : Method} {m : Microversion}
  {s token value : String}

/-- The header of a service type asks for the microversion that was read. -/
theorem Microversion.asks_of_headerFor? (hparse : Microversion.parse s = .ok m) {type : String}
    (h : m.headerFor? type = some value) : m.Asks value := by
  obtain ⟨-, rfl⟩ := Microversion.headerFor?_eq_some_iff.mp h
  exact Microversion.asks_of_parse hparse

/-- The default of the header is the microversion that the selector names: no other default
goes by its name. -/
theorem DefaultHeader.asks (h : DefaultHeader config method token Microversion.header value)
    (hselector : config.selector.microversion = some s)
    (hparse : Microversion.parse s = .ok m) : m.Asks value := by
  cases h with
  | token hname =>
    have hother := (Client.otherHeaders_ne_tokenHeader config.identity.protocol).2
    have hsame : Headers.sameName Microversion.header config.identity.protocol.tokenHeader = true :=
      Headers.sameName_iff.mpr (Headers.sameName_iff.mp hname).symm
    exact nomatch hother.symm.trans hsame
  | accept hname =>
    have hother : Headers.sameName "Accept" Microversion.header = false := by decide +kernel
    exact nomatch hother.symm.trans hname
  | contentType hname =>
    have hother : Headers.sameName "Content-Type" Microversion.header = false := by decide +kernel
    exact nomatch hother.symm.trans hname
  | @microversion text rest named _ htext hnamed _ =>
    obtain rfl := Option.some.inj (hselector.symm.trans htext)
    obtain rfl := Except.ok.inj (hparse.symm.trans hnamed)
    exact Microversion.asks_of_parse hparse

/-- A text is read as a microversion if and only if it consists of one word or of two. What
is read is what the text names, and its text is two words with one space between them, from
which it is read again. Such is the text that a header has for it, and what a service request
of a client says whose selector has the first text, unless its caller says something else. -/
theorem microversion_read_back (s : String) :
    ((∃ m, Microversion.parse s = .ok m) ↔
      ∃ words, Text.Worded s.toList words ∧ (words.length = 1 ∨ words.length = 2)) ∧
    ∀ m, Microversion.parse s = .ok m →
      m.NamedBy s ∧ m.Asks m.text ∧
      (∀ type value, m.headerFor? type = some value → m.Asks value) ∧
      ∀ (config : Config) (c : Client), Client.ofConfig config = .ok c →
        config.selector.microversion = some s →
        ∀ (action : String) (method : Method) (given : List (String × String))
          (body : Option ByteArray) (scene : Scene),
        ∃ new, ((c.call action method (.ofList given) body).outcome scene).2.outside.log
            = scene.outside.log ++ new ∧
          ∀ r answer value, .exchange .service r answer ∈ new →
            r.headers.get? Microversion.header = some value →
            (Headers.ofList given).get? Microversion.header = some value ∨ m.Asks value := by
  constructor
  · rw [Microversion.exists_parse_iff]
    simp [← Text.words_eq_iff]
  intro m hparse
  refine ⟨Microversion.parse_eq_ok_iff.mp hparse, Microversion.asks_of_parse hparse,
    fun type value => Microversion.asks_of_headerFor? hparse, ?_⟩
  intro config c hclient hselector action method given body scene
  obtain ⟨new, hlog, hnew⟩ := c.call_requests action method (.ofList given) body scene
  refine ⟨new, hlog, fun r answer value hsent hvalue => ?_⟩
  obtain ⟨current, connection, -, rfl⟩ := hnew r answer hsent
  have hoverlay := Client.isOverlay_requestHeaders hclient method current.context.token
    (Headers.distinct_ofList given)
  -- What is found in the request is the caller's or a default.
  rcases (hoverlay.get? _ _).mp hvalue with hcaller | ⟨-, hdefault⟩
  · exact .inl hcaller
  · exact .inr (hdefault.asks hselector hparse)

namespace Sample

/-- A text of two words with an ideographic space, a tab and a line break around them. -/
def spaced : String := "\u3000compute \t2.60\n"

/-- A configuration that needs no handshake and asks for that microversion. -/
def forced : Config :=
  { pinned with
    selector := { Selector.none with
      baseUrl := some "https://api.example.com", token := some "T", microversion := some spaced } }

/-- Nothing done yet, and nobody who answers. -/
def silent : Scene := ⟨.initial, ⟨⟨0, 0⟩, ⟨[], []⟩, none, []⟩⟩

end Sample

/-- A request is sent with the two words that were configured. -/
theorem microversion_read_back_spaced :
    Microversion.parse Sample.spaced = .ok ⟨"compute", "2.60"⟩ ∧
    ∃ c, Client.ofConfig Sample.forced = .ok c ∧
      Sample.forced.selector.microversion = some Sample.spaced ∧
      ∃ r answer, .exchange .service r answer ∈
          ((c.call "/servers" .get (.ofList []) none).outcome Sample.silent).2.outside.log ∧
        r.headers.get? Microversion.header = some "compute 2.60" ∧
        Microversion.Asks ⟨"compute", "2.60"⟩ "compute 2.60" := by
  have hparse : Microversion.parse Sample.spaced = .ok ⟨"compute", "2.60"⟩ := by rfl
  let c : Client := ⟨Sample.forced.identity, Sample.forced.selector,
    some ⟨"compute", "2.60"⟩, .compute, 0, false⟩
  have hclient : Client.ofConfig Sample.forced = .ok c := by rfl
  have hrun : ((c.call "/servers" .get (.ofList []) none).outcome Sample.silent).2.outside.log.any
      (·.serves fun r => r.headers == Headers.set (.ofList [("X-Auth-Token", "T"),
        ("Accept", "application/json")]) Microversion.header "compute 2.60") = true := by
    decide +kernel
  obtain ⟨r, answer, hmem, hheaders⟩ := Event.mem_of_serves hrun
  have hvalue : r.headers.get? Microversion.header = some "compute 2.60" := by
    rw [beq_iff_eq.mp hheaders]
    exact Headers.get?_set_self _ _ _
  obtain ⟨-, -, -, hcalls⟩ := (microversion_read_back Sample.spaced).2 _ hparse
  obtain ⟨new, hlog, hnew⟩ := hcalls _ c hclient rfl "/servers" .get [] none Sample.silent
  rw [hlog] at hmem
  rcases hnew r answer _ hmem hvalue with hcaller | hasks
  · exact nomatch hcaller
  · exact ⟨hparse, c, hclient, rfl, r, answer, hlog ▸ hmem, hvalue, hasks⟩

end CloudSession
