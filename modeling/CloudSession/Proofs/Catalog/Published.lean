/-
Whether a URL that is found was published for the interface that is sought. In versions
1 and 2 it always was: the interface of an entry is the member that held its URL. In
version 3 an interface that is no known word is taken for the public one, so an
endpoint which is meant for others may be found as a public one (`IsStray`). A raw
catalog gives such a URL away if and only if no endpoint stands before the stray one
that is found in its place, and none publishes the URL besides (`published_iff_hidden`).
-/
import CloudSession.Proofs.Catalog.Lookup
import CloudSession.Proofs.Catalog.Offers
import CloudSession.Proofs.Catalog.RoundTrip

namespace CloudSession

namespace Catalog

-- =============================================================== publishing

/-- An endpoint object publishes a URL for an interface: under the interface's own
member or, in version 3, beside the interface's word. Without a word it is public. -/
def Publishes (interface : Interface) (url : String) : Format → Json → Prop
  | .v1, endpoint => endpoint.textAt? (urlKey interface) = some url
  | .v2, endpoint => endpoint.textAt? (urlKey interface) = some url
  | .v3, endpoint =>
    endpoint.textAt? "url" = some url ∧
      (endpoint.textAt? "interface" = some interface.word ∨
        interface = .published ∧ endpoint.get? "interface" = none)
  | .flat, _ => False

/-- A raw catalog has an endpoint object of a service type that publishes a URL for an
interface. -/
def Published (format : Format) (raw : Json) (type : String) (interface : Interface)
    (url : String) : Prop :=
  ∃ o ∈ offers format raw, o.type = type ∧ Publishes interface url format o.endpoint

/-- An offer of version 3 names an interface, but none that is known. -/
def Offer.IsStray (format : Format) (o : Offer) : Prop :=
  format = .v3 ∧ ∃ v, o.endpoint.get? "interface" = some v ∧ ∀ i : Interface, v ≠ .str i.word

theorem word_of_ofWord? {s : String} {i : Interface} (h : Interface.ofWord? s = some i) :
    s = i.word := by
  have hword := List.find?_some h
  exact (beq_iff_eq.mp hword).symm

-- =================================================================== entries

section Entries

variable {format : Format} {o : Offer} {e : Endpoint}

/-- The entries of an offer are of the type of its service. -/
theorem type_of_mem_entries (h : e ∈ o.entries format) : e.type = o.type := by
  have hlegacy : e ∈ entriesByInterface o.type o.name o.endpoint → e.type = o.type := by
    intro h
    obtain ⟨interface, -, hurl⟩ := List.mem_filterMap.mp h
    obtain ⟨url, -, rfl⟩ := Option.map_eq_some_iff.mp hurl
    rfl
  cases format with
  | v3 =>
    obtain rfl := List.mem_singleton.mp h
    rfl
  | _ => exact hlegacy h

theorem textAt_of_mem_entriesByInterface {type name : String} {endpoint : Json}
    (h : e ∈ entriesByInterface type name endpoint) :
    endpoint.textAt? (urlKey e.interface) = some e.url := by
  obtain ⟨interface, -, hurl⟩ := List.mem_filterMap.mp h
  obtain ⟨url, htext, rfl⟩ := Option.map_eq_some_iff.mp hurl
  exact htext

/-- Stray endpoints are read as public ones. -/
theorem Offer.IsStray.interface_eq (h : o.IsStray format) : o.entry.interface = .published := by
  obtain ⟨-, v, hget, hno⟩ := h
  have hnone : v.text?.bind Interface.ofWord? = none := by
    cases v with
    | str s =>
      cases hs : Interface.ofWord? s with
      | none => exact hs
      | some i => exact absurd (congrArg Json.str (word_of_ofWord? hs)) (hno i)
    | _ => rfl
  simp only [Offer.entry, Json.textAt?, hget, Option.bind_some, hnone, Option.getD_none]

/-- An endpoint object of version 3 that is not stray publishes its URL for the
interface that it is read with. -/
theorem publishes_entry (hurl : ∃ url, o.endpoint.textAt? "url" = some url)
    (hstray : ¬o.IsStray .v3) : Publishes o.entry.interface o.entry.url .v3 o.endpoint := by
  obtain ⟨url, hurl⟩ := hurl
  have htext : o.endpoint.textAt? "url" = some o.entry.url := by
    simp only [Offer.entry, hurl, Option.getD_some]
  cases hget : o.endpoint.get? "interface" with
  | none =>
    have hpublic : o.entry.interface = .published := by
      simp only [Offer.entry, Json.textAt?, hget, Option.bind_none, Option.getD_none]
    exact ⟨htext, .inr ⟨hpublic, hget⟩⟩
  | some v =>
    obtain ⟨i, rfl⟩ : ∃ i : Interface, v = .str i.word :=
      Classical.byContradiction fun hno =>
        hstray ⟨rfl, v, hget, fun i hi => hno ⟨i, hi⟩⟩
    have hinterface : o.entry.interface = i := by
      simp only [Offer.entry, Json.textAt?, hget, Option.bind_some, Json.text?,
        i.ofWord?_word, Option.getD_some]
    refine ⟨htext, .inl ?_⟩
    rw [hinterface, Json.textAt?, hget]
    rfl

/-- So does an endpoint object of every version. -/
theorem publishes_of_mem_entries {raw : Json} (hformat : format ≠ .flat)
    (hshape : WellShaped format raw) (ho : o ∈ offers format raw) (h : e ∈ o.entries format) :
    Publishes e.interface e.url format o.endpoint ∨ o.IsStray format ∧ e = o.entry := by
  cases format with
  | v1 => exact .inl (textAt_of_mem_entriesByInterface h)
  | v2 => exact .inl (textAt_of_mem_entriesByInterface h)
  | v3 =>
    obtain rfl := List.mem_singleton.mp h
    by_cases hstray : o.IsStray .v3
    · exact .inr ⟨hstray, rfl⟩
    · exact .inl (publishes_entry (hshape.2 o ho) hstray)
  | flat => exact absurd rfl hformat

end Entries

-- =================================================================== lookups

/-- What is found comes from an offer of the type that is sought, and was published
unless that offer is stray. -/
theorem origin_of_endpoint {format : Format} (hformat : format ≠ .flat) {raw : Json} {c : Catalog}
    (hread : read format raw = .ok c) {s : Selector} {w : Wanted} (hbase : s.baseUrl = none)
    {url : String} (h : c.endpoint s w = .ok url) :
    Published format raw (s.type.getD w.type) (s.interface.getD .published) url ∨
      s.interface.getD .published = .published ∧
        ∃ o ∈ offers format raw, o.IsStray format ∧ o.type = s.type.getD w.type ∧
          o.entry.url = url ∧ Earliest (Hides · o.entry) c o.entry := by
  obtain ⟨hshape, rfl⟩ := (read_eq_ok_iff hformat).mp hread
  obtain ⟨e, hfirst, hadmits, rfl⟩ := exists_of_endpoint hbase h
  obtain ⟨o, ho, he⟩ := List.mem_flatMap.mp hfirst.mem
  have htype := (type_of_mem_entries he).symm.trans hadmits.type
  rw [← hadmits.interface]
  obtain hpublishes | ⟨hstray, rfl⟩ := publishes_of_mem_entries hformat hshape ho he
  · exact .inl ⟨o, ho, htype, hpublishes⟩
  · exact .inr ⟨hstray.interface_eq, o, ho, hstray, htype, rfl, hfirst⟩

/-- What is found in a raw catalog of any version was published for the interface that
is sought by an endpoint of the type that is sought, or it is public and comes from a
stray endpoint. All that can be found was published if and only if each stray endpoint
that is first in its place has a URL which is published besides. -/
theorem published_iff_hidden {format : Format} (hformat : format ≠ .flat) {raw : Json}
    {c : Catalog} (hread : read format raw = .ok c) :
    (∀ s w url, s.baseUrl = none → c.endpoint s w = .ok url →
      Published format raw (s.type.getD w.type) (s.interface.getD .published) url ∨
        s.interface.getD .published = .published ∧
          ∃ o ∈ offers format raw,
            o.IsStray format ∧ o.type = s.type.getD w.type ∧ o.entry.url = url) ∧
    ((∀ s w url, s.baseUrl = none → c.endpoint s w = .ok url →
        Published format raw (s.type.getD w.type) (s.interface.getD .published) url) ↔
      ∀ o ∈ offers format raw, o.IsStray format → Earliest (Hides · o.entry) c o.entry →
        Published format raw o.type .published o.entry.url) := by
  refine ⟨fun s w url hbase h => ?_, fun hall o ho hstray hfirst => ?_,
    fun hstrays s w url hbase h => ?_⟩
  · refine (origin_of_endpoint hformat hread hbase h).imp_right fun hstray => ?_
    obtain ⟨hpublic, o, ho, hstray, htype, hurl, -⟩ := hstray
    exact ⟨hpublic, o, ho, hstray, htype, hurl⟩
  · -- a lookup by all the data of the stray endpoint finds its URL
    have hpublished := hall _ _ _ rfl (endpoint_of_unhidden hfirst)
    have hpublic : o.entry.interface = .published := hstray.interface_eq
    rw [show o.entry.selector.interface.getD .published = .published from hpublic] at hpublished
    exact hpublished
  · obtain hpublished | ⟨hpublic, o, ho, hstray, htype, rfl, hfirst⟩ :=
      origin_of_endpoint hformat hread hbase h
    · exact hpublished
    · rw [hpublic, ← htype]
      exact hstrays o ho hstray hfirst

end Catalog

namespace Sample

/-- An endpoint object of version 3 in the north. -/
def northern (interface url : String) : Json :=
  Json.object [("region", .str "north"), ("interface", .str interface), ("url", .str url)]

/-- Compute with some endpoints. -/
def novaAt (endpoints : List Json) : Json :=
  .arr [Json.object
    [("type", .str "compute"), ("name", .str "nova"), ("endpoints", .arr endpoints)]]

/-- An endpoint for some audience that is neither of the three. -/
def restricted : Json := northern "restricted" "https://restricted.example.com"

/-- The same behind a public one. -/
def guarded : Json := novaAt [northern "public" "https://nova.example.com", restricted]

/-- A public endpoint of compute in the north. -/
def publicNova (url : String) : Endpoint := ⟨"compute", "nova", some "north", .published, url⟩

end Sample

open Catalog

/-- A stray endpoint behind a public one is never found. -/
theorem published_iff_hidden_guarded :
    read .v3 Sample.guarded = .ok [Sample.publicNova "https://nova.example.com",
        Sample.publicNova "https://restricted.example.com"] ∧
      ∀ s w url, s.baseUrl = none →
        Catalog.endpoint [Sample.publicNova "https://nova.example.com",
            Sample.publicNova "https://restricted.example.com"] s w = .ok url →
        Published .v3 Sample.guarded (s.type.getD w.type) (s.interface.getD .published) url := by
  have hoffers : offers .v3 Sample.guarded =
      [⟨"compute", "nova", Sample.northern "public" "https://nova.example.com"⟩,
        ⟨"compute", "nova", Sample.restricted⟩] := rfl
  refine ⟨rfl, (published_iff_hidden (by decide) rfl).2.mpr ?_⟩
  intro o ho hstray hfirst
  rw [hoffers, List.mem_cons, List.mem_singleton] at ho
  obtain rfl | rfl := ho
  · obtain ⟨-, v, hget, hno⟩ := hstray
    obtain rfl := Option.some.inj hget
    exact absurd rfl (hno .published)
  · exact absurd hfirst (by decide)

/-- An endpoint for others alone is found as a public one, and no public one is. -/
theorem published_not_found :
    read .v3 (Sample.novaAt [Sample.restricted])
        = .ok [Sample.publicNova "https://restricted.example.com"] ∧
      Catalog.endpoint [Sample.publicNova "https://restricted.example.com"] .none .compute
        = .ok "https://restricted.example.com" ∧
      ¬Published .v3 (Sample.novaAt [Sample.restricted]) "compute" .published
        "https://restricted.example.com" := by
  refine ⟨rfl, rfl, fun hpublished => ?_⟩
  obtain ⟨o, ho, -, -, hpublishes⟩ := hpublished
  obtain rfl : o = ⟨"compute", "nova", Sample.restricted⟩ := List.mem_singleton.mp ho
  obtain hword | ⟨-, hnone⟩ := hpublishes
  · exact absurd hword (by decide)
  · exact nomatch hnone

end CloudSession
