/-
What raw catalogs offer. Under all the lists and objects of a raw catalog stand its
endpoint objects, each an offer of a service (`offers`). A raw catalog can be read if
and only if it has the shape of its version, and it is read offer by offer then, in
their order (`read_eq_ok_iff`).
-/
import CloudSession.Catalog.Reading
import CloudSession.Proofs.Success

namespace CloudSession.Catalog

-- ==================================================================== offers

/-- An endpoint object, and the type and name of its service. -/
structure Offer where
  type : String
  name : String
  endpoint : Json

/-- The endpoint objects of a listed service. -/
def serviceOffers (service : Json) : List Offer :=
  match service.textAt? "type" with
  | none => []
  | some type =>
    (((service.get? "endpoints").bind Json.items?).getD []).map
      (⟨type, (service.textAt? "name").getD "", ·⟩)

/-- The endpoint objects of a raw catalog in source order. A flat one has none. -/
def offers : Format → Json → List Offer
  | .v1, raw =>
    (raw.members?.getD []).flatMap fun (name, endpoints) =>
      (endpoints.items?.getD []).map (⟨typeOfName name, name, ·⟩)
  | .v2, raw => (raw.items?.getD []).flatMap serviceOffers
  | .v3, raw => (raw.items?.getD []).flatMap serviceOffers
  | .flat, _ => []

namespace Offer

/-- The entry that an offer of version 3 is read as. -/
def entry (o : Offer) : Endpoint where
  type := o.type
  name := o.name
  region := (o.endpoint.textAt? "region").or (o.endpoint.textAt? "region_id")
  interface := ((o.endpoint.textAt? "interface").bind Interface.ofWord?).getD .published
  url := (o.endpoint.textAt? "url").getD ""

/-- The entries that an offer is read as. -/
def entries : Format → Offer → Catalog
  | .v3, o => [o.entry]
  | _, o => entriesByInterface o.type o.name o.endpoint

end Offer

/-- Endpoint lists of services by their names. -/
def IsByName (raw : Json) : Prop :=
  ∃ services, raw.members? = some services ∧
    ∀ service ∈ services, ∃ endpoints, service.2.items? = some endpoints

/-- A list of services, each of some type. -/
def IsListed (raw : Json) : Prop :=
  ∃ services, raw.items? = some services ∧
    ∀ service ∈ services, ∃ type, service.textAt? "type" = some type

/-- A raw catalog has the shape of its version. -/
def WellShaped : Format → Json → Prop
  | .v1, raw => IsByName raw
  | .v2, raw => IsListed raw
  | .v3, raw =>
    IsListed raw ∧ ∀ o ∈ offers .v3 raw, ∃ url, o.endpoint.textAt? "url" = some url
  | .flat, _ => True

-- =================================================================== reading

/-- Catalogs are joined if and only if each of them can be read. -/
theorem concatMap_eq_ok_iff {α : Type} (read : α → Parsed) (entries : α → Catalog) (xs : List α)
    (hread : ∀ x ∈ xs, ∀ c, read x = .ok c → c = entries x) (c : Catalog) :
    concatMap read xs = .ok c ↔
      (∀ x ∈ xs, read x = .ok (entries x)) ∧ c = xs.flatMap entries := by
  induction xs generalizing c with
  | nil => simp [concatMap, eq_comm]
  | cons x xs ih =>
    have ih := ih fun y hy => hread y (List.mem_cons_of_mem _ hy)
    rw [concatMap, List.forall_mem_cons, List.flatMap_cons]
    cases hx : read x with
    | error fault => exact iff_of_false (by simp) fun h => nomatch h.1.1
    | ok first =>
      obtain rfl := hread x List.mem_cons_self first hx
      constructor
      · intro h
        obtain ⟨rest, hrest, rfl⟩ := map_eq_ok h
        obtain ⟨hxs, rfl⟩ := (ih rest).mp hrest
        exact ⟨⟨rfl, hxs⟩, rfl⟩
      · intro h
        obtain ⟨⟨-, hxs⟩, rfl⟩ := h
        simp only [(ih _).mpr ⟨hxs, rfl⟩, Except.map]

/-- An offer of version 3 can be read if and only if its URL is a text. -/
theorem readEndpoint3_eq_ok_iff {o : Offer} {c : Catalog} :
    readEndpoint3 o.type o.name o.endpoint = .ok c ↔
      (∃ url, o.endpoint.textAt? "url" = some url) ∧ c = [o.entry] := by
  unfold readEndpoint3 Offer.entry
  cases o.endpoint.textAt? "url" with
  | none => simp
  | some url => simp [eq_comm]

section Listed

variable {readEndpoint : String → String → Json → Parsed} {entries : Offer → Catalog}
  (hread : ∀ o c, readEndpoint o.type o.name o.endpoint = .ok c → c = entries o)
include hread

/-- A listed service can be read if and only if it has a type and each of its offers
can be read. -/
theorem readService_eq_ok_iff {service : Json} {c : Catalog} :
    readService readEndpoint service = .ok c ↔
      (∃ type, service.textAt? "type" = some type) ∧
        (∀ o ∈ serviceOffers service, readEndpoint o.type o.name o.endpoint = .ok (entries o)) ∧
        c = (serviceOffers service).flatMap entries := by
  unfold readService serviceOffers
  cases service.textAt? "type" with
  | none => simp
  | some type =>
    cases (service.get? "endpoints").bind Json.items? with
    | none => simp [eq_comm]
    | some endpoints =>
      have hjoined := concatMap_eq_ok_iff _
        (fun endpoint => entries ⟨type, (service.textAt? "name").getD "", endpoint⟩) endpoints
        (fun endpoint _ c hc => hread ⟨_, _, endpoint⟩ c hc) c
      simpa only [Option.getD_some, List.forall_mem_map, List.flatMap_map, Option.some.injEq,
        exists_eq', true_and] using hjoined

/-- A listed catalog can be read if and only if each of its offers can. -/
theorem readListed_eq_ok_iff {raw : Json} {c : Catalog} :
    readListed readEndpoint raw = .ok c ↔
      IsListed raw ∧
      (∀ o ∈ (raw.items?.getD []).flatMap serviceOffers,
        readEndpoint o.type o.name o.endpoint = .ok (entries o)) ∧
      c = ((raw.items?.getD []).flatMap serviceOffers).flatMap entries := by
  unfold readListed IsListed
  cases raw.items? with
  | none => simp
  | some services =>
    have hjoined := concatMap_eq_ok_iff _
      (fun service => (serviceOffers service).flatMap entries) services
      (fun service _ c hc => ((readService_eq_ok_iff hread).mp hc).2.2) c
    simp only [readService_eq_ok_iff hread, and_true] at hjoined
    simp only [Option.getD_some, Option.some.injEq, exists_eq_left', List.mem_flatMap,
      List.flatMap_assoc, hjoined]
    grind

end Listed

theorem readService1_eq_ok_iff {name : String} {endpoints : Json} {c : Catalog} :
    readService1 name endpoints = .ok c ↔
      (∃ items, endpoints.items? = some items) ∧
        c = ((endpoints.items?.getD []).map (Offer.mk (typeOfName name) name ·)).flatMap
          (Offer.entries .v1) := by
  unfold readService1
  cases endpoints.items? with
  | none => simp
  | some items =>
    simp only [Except.ok.injEq, Option.some.injEq, exists_eq', true_and, Option.getD_some,
      List.flatMap_map, eq_comm (a := c)]
    rfl

theorem read1_eq_ok_iff {raw : Json} {c : Catalog} :
    read1 raw = .ok c ↔ IsByName raw ∧ c = (offers .v1 raw).flatMap (Offer.entries .v1) := by
  simp only [read1, offers, IsByName]
  cases raw.members? with
  | none => simp
  | some services =>
    have hjoined := concatMap_eq_ok_iff (fun service => readService1 service.1 service.2) _ services
      (fun service _ c hc => (readService1_eq_ok_iff.mp hc).2) c
    simpa only [readService1_eq_ok_iff, and_true, Option.getD_some, Option.some.injEq,
      exists_eq_left', List.flatMap_assoc] using hjoined

/-- A raw catalog of any version can be read if and only if it has the shape of that
version, and it is read offer by offer. -/
theorem read_eq_ok_iff {format : Format} (hformat : format ≠ .flat) {raw : Json} {c : Catalog} :
    read format raw = .ok c ↔
      WellShaped format raw ∧ c = (offers format raw).flatMap (Offer.entries format) := by
  cases format with
  | v1 => exact read1_eq_ok_iff
  | v2 =>
    refine (readListed_eq_ok_iff fun o c hc => (Except.ok.inj hc).symm).trans ?_
    exact and_congr_right fun _ => and_iff_right fun o _ => rfl
  | v3 =>
    refine (readListed_eq_ok_iff fun o c hc => (readEndpoint3_eq_ok_iff.mp hc).2).trans ?_
    simp only [readEndpoint3_eq_ok_iff, and_true, WellShaped, and_assoc]
    rfl
  | flat => exact absurd rfl hformat

end CloudSession.Catalog
