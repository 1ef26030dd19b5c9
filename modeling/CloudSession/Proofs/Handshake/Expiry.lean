/-
The expiry of the context that a handshake yields. A successful answer of
Keystone yields what it grants (`readSuccess_granted`), with the instant that
the text of its expiry tells: services may write that instant in any zone and
with any digits behind its second (`expiry_spelled`).
-/
import CloudSession.Proofs.Handshake.Answers
import CloudSession.Proofs.Time.Expiry

namespace CloudSession

namespace Keystone

/-- The catalog of a context whose answer has none. -/
def noCatalog : Keystone → Json
  | .v1 => .obj []
  | _ => .arr []

/-- What a successful answer grants, if it can be read: later versions have
the token in a header, where it must not be empty. -/
def grant? (k : Keystone) (r : Response) : Option Grant :=
  let document := Json.Doc.read? (Text.Utf8.glyphs r.body)
  match k with
  | .v1 => document.bind readGrant1?
  | .v2Password => document.bind readGrant2?
  | .v2ApiKey => document.bind readGrant2?
  | _ => ((r.headers.get? subjectTokenHeader).filter (!·.isEmpty)).bind fun token =>
      document.bind (readGrant3? token)

variable {k : Keystone} {r : Response} {g : Grant}

theorem readBody_granted {read : Json.Doc → Option Grant} (noCatalog : Json)
    (h : (Json.Doc.read? (Text.Utf8.glyphs r.body)).bind read = some g) :
    readBody read noCatalog r = g.toContext noCatalog := by
  rw [readBody, h]

/-- An answer yields the context of what it grants. -/
theorem readSuccess_granted (h : k.grant? r = some g) :
    k.readSuccess r = g.toContext k.noCatalog := by
  cases k with
  | v1 => exact readBody_granted _ h
  | v2Password => exact readBody_granted _ h
  | v2ApiKey => exact readBody_granted _ h
  | v3Password | v3Token | v3ApplicationCredential =>
    obtain ⟨token, htoken, hread⟩ := Option.bind_eq_some_iff.mp h
    obtain ⟨hheader, hempty⟩ := Option.filter_eq_some_iff.mp htoken
    simp only [Bool.not_eq_true'] at hempty
    simp only [readSuccess, hheader, hempty, Bool.false_eq_true, if_false]
    exact readBody_granted _ hread

end Keystone

namespace Handshake

open Instant

/-- An expiry is read as the instant that it tells, and the context of a
handshake expires at that instant, however its answer wrote it. -/
theorem expiry_spelled {zone : Zone} {places : Nat} {t : Instant} (h : Tells zone places t) :
    readExpiry (String.ofList (spell zone places t)) = .ok t ∧
      ∀ (i : Identity) (k : Keystone) (r : Response) (g : Keystone.Grant),
        i.protocol = .keystone k → r.isSuccess = true → k.grant? r = some g →
        g.expires = some (String.ofList (spell zone places t)) →
        conclude i (.ok r) = .ok ⟨g.token, some t, g.user, g.catalog.getD k.noCatalog⟩ := by
  have hread := readExpiry_spell h
  refine ⟨hread, fun i k r g hprotocol hsuccess hgrant hexpires => ?_⟩
  refine (conclude_keystone_iff hprotocol).mpr ⟨hsuccess, ?_⟩
  rw [Keystone.readSuccess_granted hgrant, Keystone.Grant.toContext, hexpires]
  simp only [hread]

end Handshake

namespace Sample

/-- An hour and a half into the year 2032, and half a second. -/
def turnOfYear : Instant := ⟨1956533414, 500000000⟩

/-- The text of it where the old year is not over. -/
def turnText : String := String.ofList (Instant.spell (.offset (-360)) 1 turnOfYear)

/-- A grant that expires then. -/
def turnGrant : Response :=
  ⟨200, .empty, (Json.obj [("access", .obj [("token", .obj [("id", .str "T"),
    ("expires", .str turnText)])])]).compact.toUTF8⟩

/-- An identity whose handshake it answers. -/
def turnIdentity : Identity :=
  ⟨.keystone .v2Password, "https://id.example.com", ⟨"alice", "secret"⟩, .default⟩

end Sample

open Instant in
/-- The instant lies in the next year, by the calendar of UTC. -/
theorem expiry_spelled_turnOfYear :
    Tells (.offset (-360)) 1 Sample.turnOfYear ∧ Sample.turnGrant.isSuccess = true ∧
      Sample.turnText = "2031-12-31T19:30:14.5-06:00" ∧
      readExpiry Sample.turnText = .ok Sample.turnOfYear ∧
      ∃ g, Keystone.grant? .v2Password Sample.turnGrant = some g ∧
        g.expires = some Sample.turnText ∧
        Handshake.conclude Sample.turnIdentity (.ok Sample.turnGrant)
          = .ok ⟨g.token, some Sample.turnOfYear, g.user, g.catalog.getD (.arr [])⟩ := by
  have htells : Tells (.offset (-360)) 1 Sample.turnOfYear :=
    ⟨by decide, by decide +kernel, by decide, by decide, by decide⟩
  have hgrant : (Keystone.grant? .v2Password Sample.turnGrant).any
      (·.expires == some Sample.turnText) = true := by decide +kernel
  obtain ⟨g, hg, hexpires⟩ := (Option.any_eq_true ..).mp hgrant
  replace hexpires : g.expires = some Sample.turnText := by simpa using hexpires
  obtain ⟨hread, hconclude⟩ := Handshake.expiry_spelled htells
  exact ⟨htells, rfl, by decide +kernel, hread, g, hg, hexpires,
    hconclude Sample.turnIdentity .v2Password _ g rfl rfl hg hexpires⟩

end CloudSession
