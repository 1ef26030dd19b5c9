/-
Where the entries of a catalog come from. A URL of a raw catalog stands at a position:
that of its service, that of its endpoint in the service, and its interface (`StandsAt`).
What is read holds the entry of every such position, each once and in the order of the
positions (`enumerates_read`); and what cannot be read has a defect (`read_error_iff`), one
that the error names (`malformed_of_read`). So lists of services that are put together are
read one after the other (`parse_append`).
-/
import CloudSession.Proofs.Ascending
import CloudSession.Proofs.Catalog.Offers
import CloudSession.Proofs.Enumeration

namespace CloudSession

namespace Interface

/-- Where an interface stands among the three. -/
def rank : Interface → Nat
  | .published => 0
  | .internal => 1
  | .admin => 2

/-- The order of the interfaces. -/
def Before (i j : Interface) : Prop := i.rank < j.rank

theorem pairwise_all : all.Pairwise Before := by
  simp [all, Before, rank]

theorem mem_all (i : Interface) : i ∈ all := by
  cases i <;> decide

end Interface

namespace Catalog

-- ================================================================== positions

/-- A position in a raw catalog: of a service, of an endpoint in it, and an interface. -/
abbrev Position := Nat × Nat × Interface

/-- Positions are ordered by service, then by endpoint, then by interface. -/
def Position.Before : Position → Position → Prop :=
  Prod.Lex (· < ·) (Prod.Lex (· < ·) Interface.Before)

/-- A raw catalog has at a position a service of a type and a name with some endpoint
objects. -/
inductive ServiceAt (raw : Json) : Format → Nat → String → String → List Json → Prop
  | byName {services : List (String × Json)} {n : Nat} {name : String} {endpoints : Json}
      {items : List Json} : raw.members? = some services → services[n]? = some (name, endpoints) →
      endpoints.items? = some items → ServiceAt raw .v1 n (typeOfName name) name items
  | listed {format : Format} {services : List Json} {n : Nat} {service : Json} {type : String} :
      format = .v2 ∨ format = .v3 → raw.items? = some services → services[n]? = some service →
      service.textAt? "type" = some type →
      ServiceAt raw format n type ((service.textAt? "name").getD "")
        (((service.get? "endpoints").bind Json.items?).getD [])

/-- The interface of an endpoint object of version 3. -/
def interfaceOf (endpoint : Json) : Interface :=
  ((endpoint.textAt? "interface").bind Interface.ofWord?).getD .published

/-- An endpoint object of a service has an entry for an interface: for one whose member
is a text or, in version 3, for its own. -/
inductive EntryAt (type name : String) (endpoint : Json) : Format → Interface → Endpoint → Prop
  | byInterface {format : Format} {interface : Interface} {url : String} :
      format = .v1 ∨ format = .v2 → endpoint.textAt? (urlKey interface) = some url →
      EntryAt type name endpoint format interface
        ⟨type, name, endpoint.textAt? "region", interface, url⟩
  | alone {url : String} : endpoint.textAt? "url" = some url →
      EntryAt type name endpoint .v3 (interfaceOf endpoint)
        ⟨type, name, (endpoint.textAt? "region").or (endpoint.textAt? "region_id"),
          interfaceOf endpoint, url⟩

/-- A raw catalog has an entry at a position. -/
def StandsAt (raw : Json) (format : Format) (position : Position) (e : Endpoint) : Prop :=
  ∃ type name endpoints endpoint, ServiceAt raw format position.1 type name endpoints ∧
    endpoints[position.2.1]? = some endpoint ∧
    EntryAt type name endpoint format position.2.2 e

-- ==================================================================== reading

/-- The offers of a raw catalog, a list for each service. -/
def offerLists : Format → Json → List (List Offer)
  | .v1, raw =>
    (raw.members?.getD []).map fun (name, endpoints) =>
      (endpoints.items?.getD []).map (⟨typeOfName name, name, ·⟩)
  | .v2, raw => (raw.items?.getD []).map serviceOffers
  | .v3, raw => (raw.items?.getD []).map serviceOffers
  | .flat, _ => []

theorem offers_eq_flatten (format : Format) (raw : Json) :
    offers format raw = (offerLists format raw).flatten := by
  cases format <;> rfl

/-- What is offered at a position is what the service there offers. -/
theorem getElem?_listed {raw : Json} {format : Format} (hformat : format = .v2 ∨ format = .v3)
    (hshape : IsListed raw) (n : Nat) (os : List Offer) :
    ((raw.items?.getD []).map serviceOffers)[n]? = some os ↔
      ∃ type name endpoints, ServiceAt raw format n type name endpoints ∧
        os = endpoints.map (⟨type, name, ·⟩) := by
  obtain ⟨services, hservices, htypes⟩ := hshape
  rw [hservices, Option.getD_some, List.getElem?_map, Option.map_eq_some_iff]
  constructor
  · intro h
    obtain ⟨service, hservice, rfl⟩ := h
    obtain ⟨type, htype⟩ := htypes service (List.mem_of_getElem? hservice)
    refine ⟨_, _, _, .listed hformat hservices hservice htype, ?_⟩
    rw [serviceOffers, htype]
  · intro h
    obtain ⟨type, name, endpoints, hat, rfl⟩ := h
    cases hat with
    | byName => simp at hformat
    | listed _ hservices' hservice htype =>
      obtain rfl := Option.some.inj (hservices.symm.trans hservices')
      refine ⟨_, hservice, ?_⟩
      rw [serviceOffers, htype]

theorem getElem?_offerLists {format : Format} (hformat : format ≠ .flat) {raw : Json}
    (hshape : WellShaped format raw) (n : Nat) (os : List Offer) :
    (offerLists format raw)[n]? = some os ↔
      ∃ type name endpoints, ServiceAt raw format n type name endpoints ∧
        os = endpoints.map (⟨type, name, ·⟩) := by
  cases format with
  | v1 =>
    obtain ⟨services, hservices, hlists⟩ := hshape
    rw [offerLists, hservices, Option.getD_some, List.getElem?_map, Option.map_eq_some_iff]
    constructor
    · intro h
      obtain ⟨⟨name, endpoints⟩, hservice, rfl⟩ := h
      obtain ⟨items, hitems⟩ := hlists _ (List.mem_of_getElem? hservice)
      refine ⟨_, _, _, .byName hservices hservice hitems, ?_⟩
      simp only [hitems, Option.getD_some]
    · intro h
      obtain ⟨type, name, endpoints, hat, rfl⟩ := h
      cases hat with
      | byName hservices' hservice hitems =>
        obtain rfl := Option.some.inj (hservices.symm.trans hservices')
        refine ⟨_, hservice, ?_⟩
        simp only [hitems, Option.getD_some]
      | listed hlisted => simp at hlisted
  | v2 => exact getElem?_listed (.inl rfl) hshape n os
  | v3 => exact getElem?_listed (.inr rfl) hshape.1 n os
  | flat => exact absurd rfl hformat

/-- An endpoint object has one entry for each interface whose member is a text. -/
theorem enumerates_byInterface {format : Format} (hformat : format = .v1 ∨ format = .v2)
    (type name : String) (endpoint : Json) :
    Enumerates Interface.Before (EntryAt type name endpoint format)
      (entriesByInterface type name endpoint) := by
  refine (enumerates_filterMap Interface.pairwise_all fun i _ _ => i.mem_all).congr ?_
  intro interface e
  rw [Option.map_eq_some_iff]
  constructor
  · intro h
    obtain ⟨url, hurl, rfl⟩ := h
    exact .byInterface hformat hurl
  · intro h
    cases h with
    | byInterface _ hurl => exact ⟨_, hurl, rfl⟩
    | alone => simp at hformat

/-- The entries of an offer are those of its endpoint object. -/
theorem enumerates_entries {format : Format} (hformat : format ≠ .flat) {raw : Json}
    (hshape : WellShaped format raw) {o : Offer} (ho : o ∈ offers format raw) :
    Enumerates Interface.Before (EntryAt o.type o.name o.endpoint format)
      (o.entries format) := by
  cases format with
  | v1 => exact enumerates_byInterface (.inl rfl) o.type o.name o.endpoint
  | v2 => exact enumerates_byInterface (.inr rfl) o.type o.name o.endpoint
  | v3 =>
    obtain ⟨url, hurl⟩ := hshape.2 o ho
    have hentry : o.entry = ⟨o.type, o.name,
        (o.endpoint.textAt? "region").or (o.endpoint.textAt? "region_id"),
        interfaceOf o.endpoint, url⟩ := by
      rw [Offer.entry, hurl]
      rfl
    refine (enumerates_singleton (interfaceOf o.endpoint) o.entry).congr fun interface e => ?_
    rw [hentry]
    constructor
    · intro h
      obtain ⟨rfl, rfl⟩ := h
      exact .alone hurl
    · intro h
      cases h with
      | byInterface hlegacy => simp at hlegacy
      | alone hurl' =>
        obtain rfl := Option.some.inj (hurl.symm.trans hurl')
        exact ⟨rfl, rfl⟩
  | flat => exact absurd rfl hformat

/-- What is read holds the entry of every position in the order of the positions. -/
theorem enumerates_read {format : Format} (hformat : format ≠ .flat) {raw : Json} {c : Catalog}
    (hread : read format raw = .ok c) :
    Enumerates Position.Before (StandsAt raw format) c := by
  obtain ⟨hshape, rfl⟩ := (read_eq_ok_iff hformat).mp hread
  have hoffers := offers_eq_flatten format raw
  have hlists : ∀ os ∈ offerLists format raw,
      Enumerates (Prod.Lex (· < ·) Interface.Before)
        (fun (i : Nat × Interface) e => ∃ o, os[i.1]? = some o ∧
          EntryAt o.type o.name o.endpoint format i.2 e)
        (os.flatMap (Offer.entries format)) := by
    intro os hos
    refine Enumerates.flatMap fun o ho => enumerates_entries hformat hshape ?_
    rw [hoffers]
    exact List.mem_flatten.mpr ⟨os, hos, ho⟩
  have hall := Enumerates.flatMap hlists
  rw [hoffers, List.flatten_eq_flatMap, List.flatMap_assoc]
  refine hall.congr fun position e => ?_
  constructor
  · intro h
    obtain ⟨os, hos, o, ho, he⟩ := h
    obtain ⟨type, name, endpoints, hservice, rfl⟩ :=
      (getElem?_offerLists hformat hshape position.1 os).mp hos
    rw [List.getElem?_map, Option.map_eq_some_iff] at ho
    obtain ⟨endpoint, hendpoint, rfl⟩ := ho
    exact ⟨type, name, endpoints, endpoint, hservice, hendpoint, he⟩
  · intro h
    obtain ⟨type, name, endpoints, endpoint, hservice, hendpoint, he⟩ := h
    refine ⟨_, (getElem?_offerLists hformat hshape position.1 _).mpr
      ⟨type, name, endpoints, hservice, rfl⟩, ⟨type, name, endpoint⟩, ?_, he⟩
    rw [List.getElem?_map, hendpoint]
    rfl

/-- The entries of an object with ascending keys are in the order of their services'
names. -/
theorem pairwise_name {members : List (String × Json)} {c : Catalog}
    (hread : read .v1 (.object members) = .ok c) : c.Pairwise fun e e' => e.name ≤ e'.name := by
  have hsorted := Ascending.sorted_ofList members
  have hname : ∀ {position : Position} {e : Endpoint},
      StandsAt (.object members) .v1 position e →
      ∃ endpoints, (Ascending.ofList members)[position.1]? = some (e.name, endpoints) := by
    intro position e hat
    obtain ⟨_, _, _, _, hservice, -, hentry⟩ := hat
    cases hservice with
    | byName hservices hservice =>
      obtain rfl := Option.some.inj hservices
      cases hentry
      exact ⟨_, hservice⟩
    | listed hlisted => simp at hlisted
  refine (enumerates_read (by decide) hread).pairwise fun i j e e' hbefore he he' => ?_
  obtain ⟨_, hi⟩ := hname he
  obtain ⟨_, hj⟩ := hname he'
  cases hbefore with
  | left _ _ hlt =>
    have hkeys := List.pairwise_iff_getElem.mp hsorted
    obtain ⟨hlen, hget⟩ := List.getElem?_eq_some_iff.mp hi
    obtain ⟨hlen', hget'⟩ := List.getElem?_eq_some_iff.mp hj
    have hkey := hkeys _ _ hlen hlen' hlt
    rw [hget, hget'] at hkey
    exact Std.le_of_lt hkey
  | right =>
    have hsame := congrArg Prod.fst (Option.some.inj (hi.symm.trans hj))
    exact Std.le_of_eq hsame

-- ==================================================================== defects

/-- What keeps a raw catalog from being read, and the fault that says so. -/
inductive Malformed (raw : Json) : Format → CatalogFault → Prop
  | notObject : raw.members? = none → Malformed raw .v1 .notObject
  | endpointsNotList {services : List (String × Json)} {service : String × Json} :
      raw.members? = some services → service ∈ services → service.2.items? = none →
      Malformed raw .v1 .endpointsNotList
  | notList {format : Format} : format = .v2 ∨ format = .v3 → raw.items? = none →
      Malformed raw format .notList
  | noType {format : Format} {services : List Json} {service : Json} :
      format = .v2 ∨ format = .v3 → raw.items? = some services → service ∈ services →
      service.textAt? "type" = none → Malformed raw format .noType
  | noUrl {services endpoints : List Json} {service endpoint : Json} :
      raw.items? = some services → service ∈ services →
      (service.get? "endpoints").bind Json.items? = some endpoints → endpoint ∈ endpoints →
      endpoint.textAt? "url" = none → Malformed raw .v3 .noUrl

theorem exists_of_concatMap_error {α : Type} {read : α → Parsed} {xs : List α}
    {fault : CatalogFault} (h : concatMap read xs = .error fault) :
    ∃ x ∈ xs, read x = .error fault := by
  induction xs with
  | nil => exact absurd h (by simp [concatMap])
  | cons x xs ih =>
    rw [concatMap] at h
    cases hx : read x with
    | error found =>
      rw [hx] at h
      exact ⟨x, List.mem_cons_self, hx.trans h⟩
    | ok entries =>
      rw [hx] at h
      cases hxs : concatMap read xs with
      | error found =>
        rw [hxs] at h
        obtain ⟨y, hy, hread⟩ := ih (hxs.trans h)
        exact ⟨y, List.mem_cons_of_mem _ hy, hread⟩
      | ok rest =>
        rw [hxs] at h
        exact absurd h (by simp [Except.map])

/-- A listed catalog that cannot be read is no list, or one of its services has no type
or an endpoint that cannot be read. -/
theorem readListed_error {readEndpoint : String → String → Json → Parsed} {raw : Json}
    {fault : CatalogFault} (h : readListed readEndpoint raw = .error fault) :
    raw.items? = none ∧ fault = .notList ∨
      ∃ services service, raw.items? = some services ∧ service ∈ services ∧
        (service.textAt? "type" = none ∧ fault = .noType ∨
          ∃ type endpoints endpoint,
            (service.get? "endpoints").bind Json.items? = some endpoints ∧
            endpoint ∈ endpoints ∧
            readEndpoint type ((service.textAt? "name").getD "") endpoint = .error fault) := by
  unfold readListed at h
  split at h
  · next hnone => exact .inl ⟨hnone, (Except.error.inj h).symm⟩
  · next services hservices =>
    obtain ⟨service, hmem, hread⟩ := exists_of_concatMap_error h
    refine .inr ⟨services, service, hservices, hmem, ?_⟩
    unfold readService at hread
    split at hread
    · next hnone => exact .inl ⟨hnone, (Except.error.inj hread).symm⟩
    · next type _ =>
      split at hread
      · exact nomatch hread
      · next endpoints hendpoints =>
        obtain ⟨endpoint, hendpoint, hfault⟩ := exists_of_concatMap_error hread
        exact .inr ⟨type, endpoints, endpoint, hendpoints, hendpoint, hfault⟩

/-- The fault of a raw catalog that cannot be read is one that it has. -/
theorem malformed_of_read {format : Format} (hformat : format ≠ .flat) {raw : Json}
    {fault : CatalogFault} (h : read format raw = .error fault) : Malformed raw format fault := by
  cases format with
  | v1 =>
    rw [read, read1] at h
    split at h
    · next hnone => exact Except.error.inj h ▸ .notObject hnone
    · next services hservices =>
      obtain ⟨⟨name, endpoints⟩, hmem, hread⟩ := exists_of_concatMap_error h
      change readService1 name endpoints = _ at hread
      unfold readService1 at hread
      split at hread
      · next hnone => exact Except.error.inj hread ▸ .endpointsNotList hservices hmem hnone
      · exact absurd hread (by simp)
  | v2 =>
    obtain ⟨hnone, rfl⟩ | ⟨services, service, hservices, hmem, hservice⟩ := readListed_error h
    · exact .notList (.inl rfl) hnone
    · obtain ⟨hnone, rfl⟩ | ⟨_, _, _, -, -, hread⟩ := hservice
      · exact .noType (.inl rfl) hservices hmem hnone
      · exact absurd hread (by simp [readEndpoint2])
  | v3 =>
    obtain ⟨hnone, rfl⟩ | ⟨services, service, hservices, hmem, hservice⟩ := readListed_error h
    · exact .notList (.inr rfl) hnone
    · obtain ⟨hnone, rfl⟩ | ⟨_, endpoints, endpoint, hendpoints, hendpoint, hread⟩ := hservice
      · exact .noType (.inr rfl) hservices hmem hnone
      · unfold readEndpoint3 at hread
        split at hread
        · next hnone =>
          exact Except.error.inj hread ▸ .noUrl hservices hmem hendpoints hendpoint hnone
        · exact absurd hread (by simp)
  | flat => exact absurd rfl hformat

/-- A raw catalog with a defect has not the shape of its version. -/
theorem Malformed.not_wellShaped {format : Format} {raw : Json} {fault : CatalogFault}
    (h : Malformed raw format fault) : ¬WellShaped format raw := by
  have hlisted : format = .v2 ∨ format = .v3 → WellShaped format raw → IsListed raw := by
    rintro (rfl | rfl) hshape
    · exact hshape
    · exact hshape.1
  intro hshape
  cases h with
  | notObject hnone =>
    obtain ⟨_, hservices, -⟩ := hshape
    exact nomatch hnone.symm.trans hservices
  | endpointsNotList hservices hmem hnone =>
    obtain ⟨_, hservices', hlists⟩ := hshape
    obtain rfl := Option.some.inj (hservices.symm.trans hservices')
    obtain ⟨_, hitems⟩ := hlists _ hmem
    exact nomatch hnone.symm.trans hitems
  | notList hformat hnone =>
    obtain ⟨_, hservices, -⟩ := hlisted hformat hshape
    exact nomatch hnone.symm.trans hservices
  | noType hformat hservices hmem hnone =>
    obtain ⟨_, hservices', htypes⟩ := hlisted hformat hshape
    obtain rfl := Option.some.inj (hservices.symm.trans hservices')
    obtain ⟨_, htype⟩ := htypes _ hmem
    exact nomatch hnone.symm.trans htype
  | @noUrl _ _ service endpoint hservices hmem hendpoints hendpoint hnone =>
    obtain ⟨⟨_, hservices', htypes⟩, hurls⟩ := hshape
    obtain rfl := Option.some.inj (hservices.symm.trans hservices')
    obtain ⟨type, htype⟩ := htypes _ hmem
    have hoffer : ⟨type, (service.textAt? "name").getD "", endpoint⟩ ∈ offers .v3 raw := by
      refine List.mem_flatMap.mpr ⟨service, by rwa [hservices], ?_⟩
      rw [serviceOffers, htype, hendpoints]
      exact List.mem_map.mpr ⟨endpoint, hendpoint, rfl⟩
    obtain ⟨_, hurl⟩ := hurls _ hoffer
    exact nomatch hnone.symm.trans hurl

/-- A raw catalog cannot be read if and only if it has a defect. -/
theorem read_error_iff {format : Format} (hformat : format ≠ .flat) {raw : Json} :
    (∃ fault, read format raw = .error fault) ↔ ∃ fault, Malformed raw format fault := by
  constructor
  · intro h
    obtain ⟨fault, hread⟩ := h
    exact ⟨fault, malformed_of_read hformat hread⟩
  · intro h
    obtain ⟨fault, hdefect⟩ := h
    cases hread : read format raw with
    | error found => exact ⟨found, rfl⟩
    | ok c => exact absurd ((read_eq_ok_iff hformat).mp hread).1 hdefect.not_wellShaped

-- ============================================================= concatenations

theorem concatMap_append {α : Type} (read : α → Parsed) (xs ys : List α) :
    concatMap read (xs ++ ys) = do
      let front ← concatMap read xs
      let back ← concatMap read ys
      return front ++ back := by
  induction xs with
  | nil => cases h : concatMap read ys <;> simp [concatMap, h, bind, Except.bind, pure, Except.pure]
  | cons x xs ih =>
    rw [List.cons_append, concatMap, concatMap, ih]
    cases read x with
    | error fault => rfl
    | ok entries =>
      cases concatMap read xs with
      | error fault => rfl
      | ok front =>
        cases concatMap read ys with
        | error fault => rfl
        | ok back => simp [Except.map, bind, Except.bind, pure, Except.pure]

/-- Listed catalogs are read one after the other as their concatenation. -/
theorem readListed_append (readEndpoint : String → String → Json → Parsed) (xs ys : List Json) :
    readListed readEndpoint (.arr (xs ++ ys)) = do
      let front ← readListed readEndpoint (.arr xs)
      let back ← readListed readEndpoint (.arr ys)
      return front ++ back :=
  concatMap_append (readService readEndpoint) xs ys

theorem parse_append {format : Format} (hformat : format = .v2 ∨ format = .v3)
    (xs ys : List Json) :
    parse format (.arr (xs ++ ys)) = do
      let front ← parse format (.arr xs)
      let back ← parse format (.arr ys)
      return front ++ back := by
  have hread : read format (.arr (xs ++ ys)) = do
      let front ← read format (.arr xs)
      let back ← read format (.arr ys)
      return front ++ back := by
    rcases hformat with rfl | rfl <;> exact readListed_append _ xs ys
  rw [parse, parse, parse, hread]
  cases read format (.arr xs) with
  | error fault => rfl
  | ok front =>
    cases read format (.arr ys) with
    | error fault => rfl
    | ok back => rfl

theorem parse_eq_ok_iff {format : Format} {raw : Json} {c : Catalog} :
    parse format raw = .ok c ↔ read format raw = .ok c := by
  unfold parse
  cases read format raw <;> simp [Except.mapError]

theorem parse_eq_error_iff {format : Format} {raw : Json} {e : SessionError} :
    parse format raw = .error e ↔
      ∃ fault, read format raw = .error fault ∧ e = .response (.catalog fault) := by
  unfold parse
  cases read format raw <;> simp [Except.mapError, eq_comm]

/-- A raw catalog of versions 1 to 3 cannot be read if and only if it has a defect, and the
error names one that it has. What is read are the entries of all positions, each once and
in the order of the positions; in version 1, whose services stand in an object, that is
the order of their names. A list of services that is put together from two is read as the
entries of the one and then of the other, and cannot be read if and only if one of them
cannot. -/
theorem parse_in_order {format : Format} (hformat : format ≠ .flat) (raw : Json) :
    ((∃ e, parse format raw = .error e) ↔ ∃ fault, Malformed raw format fault) ∧
    (∀ e, parse format raw = .error e →
      ∃ fault, e = .response (.catalog fault) ∧ Malformed raw format fault) ∧
    (∀ c, parse format raw = .ok c → Enumerates Position.Before (StandsAt raw format) c) ∧
    (format = .v1 → ∀ members c, parse format (.object members) = .ok c →
      c.Pairwise fun e e' => e.name ≤ e'.name) ∧
    (format = .v2 ∨ format = .v3 → ∀ xs ys,
      (∀ c, parse format (.arr (xs ++ ys)) = .ok c ↔
        ∃ front back, parse format (.arr xs) = .ok front ∧ parse format (.arr ys) = .ok back ∧
          c = front ++ back) ∧
      ((∃ e, parse format (.arr (xs ++ ys)) = .error e) ↔
        (∃ e, parse format (.arr xs) = .error e) ∨ ∃ e, parse format (.arr ys) = .error e)) := by
  refine ⟨?_, fun e h => ?_, fun c h => ?_, ?_, fun hlisted xs ys => ?_⟩
  · rw [← read_error_iff hformat]
    simp only [parse_eq_error_iff]
    grind
  · obtain ⟨fault, hread, rfl⟩ := parse_eq_error_iff.mp h
    exact ⟨fault, rfl, malformed_of_read hformat hread⟩
  · exact enumerates_read hformat (parse_eq_ok_iff.mp h)
  · rintro rfl members c h
    exact pairwise_name (parse_eq_ok_iff.mp h)
  · rw [parse_append hlisted]
    cases parse format (.arr xs) with
    | error e => simp [bind, Except.bind]
    | ok front =>
      cases parse format (.arr ys) with
      | error e => simp [bind, Except.bind]
      | ok back => simp [bind, Except.bind, pure, Except.pure, eq_comm]

end Catalog

namespace Sample

/-- Compute with a URL for two interfaces and a number for the third, an endpoint that is
no object, and a service without endpoints. -/
def gaps : Json :=
  .arr [
    Json.object [("type", .str "compute"), ("name", .str "nova"), ("endpoints", .arr [
      Json.object [("region", .str "north"), ("publicURL", .str "https://nova.example.com"),
        ("internalURL", Json.ofNat 8774), ("adminURL", .str "https://admin.example.com")],
      .null])],
    Json.object [("type", .str "image"), ("endpoints", .null)]]

end Sample

open Catalog

/-- Two of the positions have an entry, and they are read in their order. -/
theorem parse_in_order_gaps :
    Format.v2 ≠ .flat ∧
      parse .v2 Sample.gaps
        = .ok [⟨"compute", "nova", some "north", .published, "https://nova.example.com"⟩,
            ⟨"compute", "nova", some "north", .admin, "https://admin.example.com"⟩] ∧
      Enumerates Position.Before (StandsAt Sample.gaps .v2)
        [⟨"compute", "nova", some "north", .published, "https://nova.example.com"⟩,
          ⟨"compute", "nova", some "north", .admin, "https://admin.example.com"⟩] :=
  ⟨by decide, rfl, (parse_in_order (by decide) Sample.gaps).2.2.1 _ rfl⟩

end CloudSession
