/-
Catalogs in several forms. What services offer can be written for version 2, all URLs of
an endpoint in one object, and for version 3, one object for each URL; both are read as
the same entries, in the order of the services, of their endpoints and of the interfaces
(`read_toJson2`, `read_toJson3`). Any list of entries can be written so, each entry as a
service of its own, and in the flat form, and is read as it was (`forms_agree`).
-/
import CloudSession.Proofs.Ascending
import CloudSession.Proofs.Catalog.Offers
import CloudSession.Proofs.Catalog.RoundTrip

namespace CloudSession

-- ===================================================================== fields

namespace Json

/-- The members of an object that are there. -/
def present (fields : List (String × Option Json)) : List (String × Json) :=
  fields.filterMap fun (key, v) => v.map (key, ·)

/-- The object of those fields that are there. -/
def ofFields (fields : List (String × Option Json)) : Json := object (present fields)

theorem present_keys (fields : List (String × Option Json)) :
    ((present fields).map Prod.fst).Sublist (fields.map Prod.fst) := by
  induction fields with
  | nil => exact .slnil
  | cons field rest ih =>
    obtain ⟨key, v⟩ := field
    cases v with
    | none => exact ih.cons key
    | some v => exact ih.cons_cons key

theorem lookup_present {fields : List (String × Option Json)}
    (h : (fields.map Prod.fst).Nodup) (key : String) :
    (present fields).lookup key = (fields.lookup key).join := by
  induction fields with
  | nil => rfl
  | cons field rest ih =>
    obtain ⟨name, v⟩ := field
    obtain ⟨hfresh, hrest⟩ := List.nodup_cons.mp h
    cases v with
    | some v =>
      show ((name, v) :: present rest).lookup key = _
      rw [List.lookup_cons, List.lookup_cons, ih hrest]
      split <;> rfl
    | none =>
      show (present rest).lookup key = _
      rw [List.lookup_cons, ih hrest]
      split
      · next heq =>
        obtain rfl := beq_iff_eq.mp heq
        have hnone : rest.lookup key = none := by
          refine List.lookup_eq_none_iff.mpr fun other hother => bne_iff_ne.mpr fun heq => ?_
          exact hfresh (List.mem_map.mpr ⟨other, hother, heq.symm⟩)
        rw [hnone]
        rfl
      · rfl

/-- A field is found if it is there. -/
theorem get?_ofFields {fields : List (String × Option Json)} (h : (fields.map Prod.fst).Nodup)
    (key : String) : (ofFields fields).get? key = (fields.lookup key).join :=
  (Ascending.lookup_ofList (h.sublist (present_keys fields)) key).trans (lookup_present h key)

end Json

namespace Catalog

-- =================================================================== services

/-- An endpoint as its service has it: where it is, and its URL for each audience. -/
structure Place where
  region : Option String
  url? : Interface → Option String

/-- A service and its endpoints. -/
structure Service where
  type : String
  name : String
  places : List Place

/-- The URLs of an endpoint in the order of the interfaces. -/
def Place.urls (p : Place) : List (Interface × String) :=
  Interface.all.filterMap fun interface => (p.url? interface).map (interface, ·)

/-- The entries of a service: one for each URL of each endpoint. -/
def Service.entries (s : Service) : Catalog :=
  s.places.flatMap fun p => p.urls.map fun (interface, url) =>
    ⟨s.type, s.name, p.region, interface, url⟩

/-- A service with one endpoint that has one URL. -/
def alone (e : Endpoint) : Service :=
  ⟨e.type, e.name,
    [⟨e.region, fun interface => if interface = e.interface then some e.url else none⟩]⟩

theorem entries_alone (e : Endpoint) : (alone e).entries = [e] := by
  obtain ⟨type, name, region, interface, url⟩ := e
  cases interface <;> rfl

theorem flatMap_entries_alone (c : Catalog) : (c.map alone).flatMap Service.entries = c := by
  simp only [List.flatMap_map, entries_alone, List.flatMap_singleton']

-- ==================================================================== writing

/-- An endpoint as version 2 writes it: its region and each of its URLs. -/
def placeToJson2 (p : Place) : Json :=
  Json.ofFields (("region", p.region.map .str) ::
    Interface.all.map fun interface => (urlKey interface, (p.url? interface).map .str))

/-- One URL of an endpoint as version 3 writes it. -/
def urlToJson3 (region : Option String) (interface : Interface) (url : String) : Json :=
  Json.ofFields [("region", region.map .str), ("interface", some (.str interface.word)),
    ("url", some (.str url))]

def serviceToJson (s : Service) (endpoints : List Json) : Json :=
  Json.object [("type", .str s.type), ("name", .str s.name), ("endpoints", .arr endpoints)]

/-- The form of version 2. -/
def toJson2 (services : List Service) : Json :=
  .arr (services.map fun s => serviceToJson s (s.places.map placeToJson2))

/-- The form of version 3. -/
def toJson3 (services : List Service) : Json :=
  .arr (services.map fun s => serviceToJson s
    (s.places.flatMap fun p => p.urls.map fun (interface, url) =>
      urlToJson3 p.region interface url))

-- ==================================================================== reading

/-- The region and the URLs of an endpoint are found under keys of their own. -/
theorem nodup_keys2 (p : Place) :
    ((("region", p.region.map Json.str) :: Interface.all.map fun interface =>
      (urlKey interface, (p.url? interface).map Json.str)).map Prod.fst).Nodup := by
  show ["region", "publicURL", "internalURL", "adminURL"].Nodup
  decide

theorem textAt?_region2 (p : Place) : (placeToJson2 p).textAt? "region" = p.region := by
  rw [Json.textAt?, placeToJson2, Json.get?_ofFields (nodup_keys2 p)]
  cases p.region <;> rfl

theorem textAt?_urlKey2 (p : Place) (interface : Interface) :
    (placeToJson2 p).textAt? (urlKey interface) = p.url? interface := by
  have hfield : (("region", p.region.map Json.str) :: Interface.all.map fun interface =>
      (urlKey interface, (p.url? interface).map Json.str)).lookup (urlKey interface)
        = some ((p.url? interface).map .str) := by
    cases interface <;> rfl
  rw [Json.textAt?, placeToJson2, Json.get?_ofFields (nodup_keys2 p), hfield]
  cases p.url? interface <;> rfl

theorem textAt?_urlToJson3 (region : Option String) (interface : Interface) (url : String) :
    (urlToJson3 region interface url).textAt? "region" = region ∧
    (urlToJson3 region interface url).textAt? "region_id" = none ∧
    (urlToJson3 region interface url).textAt? "interface" = some interface.word ∧
    (urlToJson3 region interface url).textAt? "url" = some url := by
  have hkeys : ([("region", region.map Json.str), ("interface", some (.str interface.word)),
      ("url", some (.str url))].map Prod.fst).Nodup := by
    show ["region", "interface", "url"].Nodup
    decide
  simp only [Json.textAt?, urlToJson3, Json.get?_ofFields hkeys]
  refine ⟨?_, rfl, rfl, rfl⟩
  cases region <;> rfl

/-- A written service offers its endpoints. -/
theorem serviceOffers_toJson (s : Service) (endpoints : List Json) :
    serviceOffers (serviceToJson s endpoints) = endpoints.map (⟨s.type, s.name, ·⟩) := rfl

theorem offers_toJson2 (services : List Service) :
    offers .v2 (toJson2 services)
      = services.flatMap fun s => s.places.map fun p => ⟨s.type, s.name, placeToJson2 p⟩ := by
  simp only [offers, toJson2, Json.items?, Option.getD_some, List.flatMap_map,
    serviceOffers_toJson, List.map_map]
  rfl

theorem offers_toJson3 (services : List Service) :
    offers .v3 (toJson3 services)
      = services.flatMap fun s => s.places.flatMap fun p => p.urls.map fun (interface, url) =>
          ⟨s.type, s.name, urlToJson3 p.region interface url⟩ := by
  simp only [offers, toJson3, Json.items?, Option.getD_some, List.flatMap_map,
    serviceOffers_toJson, List.map_flatMap, List.map_map]
  rfl

theorem isListed_toJson (services : List Service) (endpoints : Service → List Json) :
    IsListed (.arr (services.map fun s => serviceToJson s (endpoints s))) := by
  refine ⟨_, rfl, List.forall_mem_map.mpr fun s _ => ⟨s.type, rfl⟩⟩

/-- The entries of services are read from the form of version 2. -/
theorem read_toJson2 (services : List Service) :
    read .v2 (toJson2 services) = .ok (services.flatMap Service.entries) := by
  have hentries : ∀ (s : Service) (p : Place),
      Offer.entries .v2 ⟨s.type, s.name, placeToJson2 p⟩
        = p.urls.map fun (interface, url) => ⟨s.type, s.name, p.region, interface, url⟩ := by
    intro s p
    simp only [Offer.entries, entriesByInterface, textAt?_urlKey2, textAt?_region2, Place.urls,
      List.map_filterMap, Option.map_map]
    rfl
  refine (read_eq_ok_iff (by decide)).mpr ⟨isListed_toJson services _, ?_⟩
  simp only [offers_toJson2, List.flatMap_assoc, List.flatMap_map, hentries]
  rfl

/-- The same entries are read from the form of version 3. -/
theorem read_toJson3 (services : List Service) :
    read .v3 (toJson3 services) = .ok (services.flatMap Service.entries) := by
  have hentry : ∀ (s : Service) (region : Option String) (interface : Interface) (url : String),
      (Offer.mk s.type s.name (urlToJson3 region interface url)).entry
        = ⟨s.type, s.name, region, interface, url⟩ := by
    intro s region interface url
    obtain ⟨hregion, hid, hinterface, hurl⟩ := textAt?_urlToJson3 region interface url
    simp only [Offer.entry, hregion, hid, hinterface, hurl, Option.or_none, Option.bind_some,
      interface.ofWord?_word, Option.getD_some]
  refine (read_eq_ok_iff (by decide)).mpr ⟨⟨isListed_toJson services _, ?_⟩, ?_⟩
  · intro o ho
    rw [offers_toJson3] at ho
    obtain ⟨s, -, ho⟩ := List.mem_flatMap.mp ho
    obtain ⟨p, -, ho⟩ := List.mem_flatMap.mp ho
    obtain ⟨⟨interface, url⟩, -, rfl⟩ := List.mem_map.mp ho
    exact ⟨url, (textAt?_urlToJson3 p.region interface url).2.2.2⟩
  · simp only [offers_toJson3, List.flatMap_assoc, List.flatMap_map, Offer.entries, hentry,
      ← List.map_eq_flatMap]
    rfl

/-- Any entries are read back from the flat form and, each as a service of its own, from
those of versions 3 and 2; and the forms of versions 2 and 3 of any services are read as
the same entries. -/
theorem forms_agree (c : Catalog) (services : List Service) :
    (parse .flat c.toJson = .ok c ∧
      parse .v3 (toJson3 (c.map alone)) = .ok c ∧
      parse .v2 (toJson2 (c.map alone)) = .ok c) ∧
    parse .v2 (toJson2 services) = .ok (services.flatMap Service.entries) ∧
    parse .v3 (toJson3 services) = .ok (services.flatMap Service.entries) := by
  simp only [parse, read_flat_toJson, read_toJson2, read_toJson3, flatMap_entries_alone]
  exact ⟨⟨rfl, rfl, rfl⟩, rfl, rfl⟩

example :
    toJson2 [⟨"compute", "nova", [⟨some "north", fun interface =>
      if interface = .internal then none else some (urlKey interface)⟩]⟩]
      = .arr [.obj [
        ("endpoints", .arr [.obj [("adminURL", .str "adminURL"), ("publicURL", .str "publicURL"),
          ("region", .str "north")]]),
        ("name", .str "nova"), ("type", .str "compute")]] := rfl

example :
    toJson3 [alone ⟨"compute", "nova", none, .admin, "https://nova.example.com"⟩]
      = .arr [.obj [
        ("endpoints", .arr [.obj [("interface", .str "admin"),
          ("url", .str "https://nova.example.com")]]),
        ("name", .str "nova"), ("type", .str "compute")]] := rfl

end Catalog
end CloudSession
