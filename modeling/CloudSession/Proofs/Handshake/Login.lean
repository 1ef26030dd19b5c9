/-
The contexts of logins. A login makes up its catalog, which has the one compute
service below the origin that it was sent to (`livesAt_of_conclude`). No store takes
anything from its context (`LivesAt.read?_toJson`) and nothing ever makes the context
invalid (`LivesAt.isValid_eq`). Whoever seeks compute, in any region, finds that
service in the catalog (`LivesAt.endpoint_eq`).
-/
import CloudSession.Client
import CloudSession.Proofs.Catalog.RoundTrip
import CloudSession.Proofs.Context.RoundTrip
import CloudSession.Proofs.Handshake.Answers

namespace CloudSession

namespace Context

/-- A context of a login at an origin, or a copy of one. -/
structure LivesAt (origin : String) (x : Context) : Prop where
  keepable : x.Keepable
  numbers : x.numbers = []
  token : x.token ≠ ""
  expires : x.expires = none
  catalog : x.catalog = Catalog.toJson [VCloud.computeEndpoint origin]

namespace LivesAt

variable {origin : String} {x : Context}

/-- It reads back from its document as it was. -/
theorem read?_toJson (h : x.LivesAt origin) : Context.read? x.toJson.pretty = some x := by
  refine Context.read?_toJson h.keepable fun n hn => ?_
  rw [h.numbers] at hn
  exact nomatch hn

/-- It never expires. -/
theorem isValid_eq (h : x.LivesAt origin) (now : Instant) (skew : Int) :
    x.isValid now skew = some true := by
  have hempty : ¬x.token.isEmpty = true := by simpa using h.token
  simp only [isValid, if_neg hempty, h.expires]

theorem catalog_parse (h : x.LivesAt origin) :
    Catalog.parse .flat x.catalog = .ok [VCloud.computeEndpoint origin] := by
  rw [h.catalog, Catalog.parse, Catalog.read_flat_toJson]
  rfl

end LivesAt
end Context

-- ==================================================================== logins

namespace Handshake

open Json

/-- An object of texts and nulls has no numbers. -/
theorem numbers_object_texts (texts : List (String × Option String)) :
    (object (texts.map fun (name, s) => (name, Json.ofText? s))).numbers = [] := by
  refine numbers_object fun m hm => ?_
  obtain ⟨⟨name, s⟩, -, rfl⟩ := List.mem_map.mp hm
  exact numbers_ofText? s

theorem numbers_catalog (entries : Catalog) : entries.toJson.numbers = [] := by
  refine List.eq_nil_iff_forall_not_mem.mpr fun n hn => ?_
  obtain ⟨v, hv, hn⟩ := mem_itemNumbers.mp hn
  obtain ⟨e, -, rfl⟩ := List.mem_map.mp hv
  have hnone : (Catalog.endpointToJson e).numbers = [] :=
    numbers_object_texts [("service_type", some e.type), ("service_name", some e.name),
      ("region", e.region), ("interface", some e.interface.word), ("url", some e.url)]
  rw [hnone] at hn
  exact nomatch hn

/-- What a login yields lives at the origin that it was sent to. -/
theorem livesAt_of_conclude {i : Identity} {v : VCloud} (hprotocol : i.protocol = .vcloud v)
    {answer : Answer} {x : Context} (h : conclude i answer = .ok x) :
    ∃ origin, loginOrigin i = .ok origin ∧ x.LivesAt origin := by
  cases answer with
  | error message => exact nomatch h
  | ok r =>
    obtain ⟨origin, horigin, hread⟩ := conclude_login_ok hprotocol h
    have htoken := token_login hread
    unfold VCloud.readSuccess at hread
    split at hread
    · exact nomatch hread
    split at hread
    · exact nomatch hread
    split at hread
    · exact nomatch hread
    · next user huser =>
      obtain rfl := Except.ok.inj hread
      obtain ⟨texts, rfl⟩ := user_texts huser
      refine ⟨origin, horigin, conclude_keepable h, ?_, htoken, rfl, rfl⟩
      rw [Context.numbers, numbers_catalog, List.append_nil]
      exact numbers_object_texts texts

end Handshake

-- ================================================================== endpoints

/-- What a client is set to seek is a public compute service, under no name or under
that which logins give it, and it has no token or base URL of its own. -/
structure Client.SeeksCompute (c : Client) : Prop where
  baseUrl : c.selector.baseUrl = none
  token : c.selector.token = none
  interface : c.selector.effectiveInterface = .published
  type : c.serviceType = "compute"
  name : ∀ name, c.selector.name.or c.defaults.name = some name → name = "vcloud"

/-- The one service in the catalog of a login is found in any region. -/
theorem Client.SeeksCompute.endpoint_eq {c : Client} (h : c.SeeksCompute) (origin : String) :
    Catalog.endpoint [VCloud.computeEndpoint origin] c.selector c.defaults
      = .ok (origin ++ "/api") := by
  have hfits : Catalog.fits c.serviceType (c.selector.name.or c.defaults.name)
      (VCloud.computeEndpoint origin) = true := by
    simp only [Catalog.fits, h.type, VCloud.computeEndpoint, beq_self_eq_true, Bool.true_and,
      Option.all_eq_true, beq_iff_eq]
    exact fun name hname => (h.name name hname).symm
  have hcandidates : Catalog.candidates [VCloud.computeEndpoint origin]
      (c.selector.adjust c.defaults) c.selector.effectiveInterface
        = [VCloud.computeEndpoint origin] := by
    rw [h.interface]
    exact List.filter_cons_of_pos (Bool.and_eq_true_iff.mpr ⟨hfits, rfl⟩)
  have hchoose : ∀ region, Catalog.choose? region [VCloud.computeEndpoint origin]
      = some (VCloud.computeEndpoint origin) := by
    intro region
    cases region <;> rfl
  simp only [Catalog.endpoint, h.baseUrl, hcandidates, hchoose]
  rfl

end CloudSession
