/-
What a log gives away. The text of a record tells of a part of it exactly what
the text of that part tells (`write_record_part`). A mask tells nothing, so
secrets and session tokens stay hidden. A forced token has none: it stands
between quotes among the parts of the selector, where it can be read off
(`text_eq_iff_forced`).
-/
import CloudSession.Log.Secrecy
import CloudSession.Proofs.Log.Quoted

namespace CloudSession

namespace Log.Outline

-- =================================================================== records

/-- Parts that are the same but for one have the same text if that one has. -/
theorem writeParts_part (first : Bool) (before after : List (String × Outline)) (name : String)
    (o o' : Outline) :
    writeParts first (before ++ (name, o) :: after)
        = writeParts first (before ++ (name, o') :: after) ↔ write o = write o' := by
  induction before generalizing first with
  | nil => simp [writeParts]
  | cons part before ih =>
    obtain ⟨other, outline⟩ := part
    simp only [List.cons_append, writeParts]
    rw [List.append_cancel_left_eq, ih]

/-- A record tells of a part exactly what the text of the part tells. -/
theorem write_record_part (record : String) (before after : List (String × Outline))
    (name : String) (o o' : Outline) (isWhole : Bool) :
    write (.record record (before ++ (name, o) :: after) isWhole)
        = write (.record record (before ++ (name, o') :: after) isWhole) ↔
      write o = write o' := by
  refine Iff.trans ?_ (writeParts_part true before after name o o')
  simp only [write, List.append_assoc, List.cons_append, List.append_cancel_left_eq,
    List.cons.injEq, true_and, List.append_cancel_right_eq]

/-- A text that may be missing can be read off. -/
theorem write_ofText?_inj {s t : Option String} :
    write (.ofText? s) = write (.ofText? t) ↔ s = t := by
  refine ⟨fun h => ?_, fun h => by rw [h]⟩
  cases s with
  | none =>
    cases t with
    | none => rfl
    | some t => exact absurd (List.cons.inj h).1 (by decide)
  | some s =>
    cases t with
    | none => exact absurd (List.cons.inj h).1 (by decide)
    | some t =>
      have hquoted : Log.quoted s = Log.quoted t := by
        simpa only [ofText?, write, List.append_assoc, List.cons_append, List.append_cancel_left_eq,
          List.cons.injEq, true_and, List.append_cancel_right_eq] using h
      rw [quoted_injective hquoted]

theorem text_inj {o o' : Outline} : o.text = o'.text ↔ write o = write o' :=
  ⟨fun h => String.ofList_injective h, fun h => congrArg String.ofList h⟩

end Log.Outline

open Log (Outline)

-- ============================================================ configurations

/-- A selector with another forced token. -/
def Selector.withToken (s : Selector) (token : Option String) : Selector :=
  { s with token := token }

/-- A configuration with another secret and another forced token. -/
def Config.withSecrets (c : Config) (secret : String) (token : Option String) : Config :=
  { c with
    identity := { c.identity with credentials := { c.identity.credentials with secret := secret } }
    selector := c.selector.withToken token }

/-- The forced token can be read off the text of a selector. -/
theorem write_withToken (s : Selector) (token : Option String) :
    (s.withToken token).outline.write = s.outline.write ↔ token = s.token :=
  (Outline.write_record_part "EndpointSelector"
    [("base_url", .ofText? s.baseUrl), ("service_type", .ofText? s.type),
      ("service_name", .ofText? s.name), ("region", .ofText? s.region),
      ("microversion", .ofText? s.microversion)] _ "auth_token" _ _ true).trans
    Outline.write_ofText?_inj

/-- The text of a configuration tells nothing of its secret. -/
theorem write_withSecrets (c : Config) (secret : String) (token : Option String) :
    (c.withSecrets secret token).outline.write = c.outline.write ↔
      (c.selector.withToken token).outline.write = c.selector.outline.write :=
  Outline.write_record_part "ClientConfig"
    [("protocol", .word c.identity.protocol.logName), ("auth_url", .quoted c.identity.authUrl),
      ("credentials", c.identity.credentials.outline), ("scope", c.identity.scope.outline)]
    _ "selector" _ _ false

/-- Logs give away neither secrets nor session tokens, and of two configurations
that differ in nothing else they show whether their forced tokens are the same. -/
theorem text_eq_iff_forced (credentials : Credentials) (x : Context) (c : Config)
    (secret token : String) (forced : Option String) :
    ({ credentials with secret := secret } : Credentials).outline.text = credentials.outline.text ∧
    ({ x with token := token } : Context).outline.text = x.outline.text ∧
    ((c.withSecrets secret forced).outline.text = c.outline.text ↔
      forced = c.selector.token) := by
  refine ⟨rfl, rfl, ?_⟩
  rw [Outline.text_inj, write_withSecrets, write_withToken]

/-- A configuration of a client that sends a token it is given. -/
def Sample.forcing (token : String) : Config where
  identity := ⟨.keystone .v2Password, "https://id.example.com", ⟨"alice", "secret"⟩, .default⟩
  selector := { Selector.none with baseUrl := some "https://api.example.com", token := some token }
  defaults := .compute
  skew := 0
  evictsForced := false
  sharesStore := false

/-- Two configurations that are told apart by their forced tokens alone. -/
theorem text_shows_forced :
    Sample.forcing "U" = (Sample.forcing "T").withSecrets "secret" (some "U") ∧
      (Sample.forcing "U").outline.text ≠ (Sample.forcing "T").outline.text := by
  have hsecrets : Sample.forcing "U" = (Sample.forcing "T").withSecrets "secret" (some "U") := rfl
  refine ⟨hsecrets, fun htext => ?_⟩
  rw [hsecrets, Outline.text_inj, write_withSecrets, write_withToken] at htext
  exact absurd (Option.some.inj htext) (by decide)

end CloudSession
