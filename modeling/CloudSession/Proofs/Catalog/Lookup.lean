/-
Which endpoint a lookup finds. A selector is laid over a request, and the endpoints
that are left over are those it admits (`Selector.Admits`); of these the first one
in the region that is sought goes before the first of all (`endpoint_eq_find`). So
a lookup fails only where nothing is admitted, which no region changes
(`endpoint_first_match`).
-/
import CloudSession.Catalog.Basic
import Mathlib.Tactic.MkIffOfInductiveProp

namespace CloudSession

-- ================================================================== matching

/-- An endpoint is of the type, the interface and, where one is set, the name that
are sought. -/
structure Selector.Admits (s : Selector) (w : Wanted) (e : Endpoint) : Prop where
  type : e.type = s.type.getD w.type
  name : ∀ name, s.name.or w.name = some name → e.name = name
  interface : e.interface = s.interface.getD .published

/-- It is in the region that is sought as well. -/
structure Selector.Prefers (s : Selector) (w : Wanted) (e : Endpoint) : Prop where
  admits : s.Admits w e
  region : ∃ region, s.region.or w.region = some region ∧ e.region = some region

/-- The request for an endpoint by all of its data. -/
def Endpoint.wanted (e : Endpoint) : Wanted := ⟨e.type, some e.name, e.region⟩

/-- The selector of an endpoint's interface. -/
def Endpoint.selector (e : Endpoint) : Selector :=
  { Selector.none with interface := some e.interface }

variable {s : Selector} {w : Wanted} {e : Endpoint}

namespace Selector

theorem admits_iff :
    (Catalog.fits (s.adjust w).type (s.adjust w).name e && e.interface == s.effectiveInterface)
      = true ↔ s.Admits w e := by
  simp only [Catalog.fits, Bool.and_eq_true, beq_iff_eq, Option.all_eq_true]
  constructor
  · intro h
    obtain ⟨⟨htype, hname⟩, hinterface⟩ := h
    exact ⟨htype, hname, hinterface⟩
  · intro h
    exact ⟨⟨h.type, h.name⟩, h.interface⟩

instance : Decidable (s.Admits w e) := decidable_of_iff _ admits_iff

theorem prefers_iff :
    (s.Admits w e ∧ e.region.isSome ∧ e.region = s.region.or w.region) ↔ s.Prefers w e := by
  constructor
  · intro h
    obtain ⟨hadmits, hsome, hregion⟩ := h
    obtain ⟨region, heq⟩ := Option.isSome_iff_exists.mp hsome
    exact ⟨hadmits, region, hregion.symm.trans heq, heq⟩
  · intro h
    obtain ⟨region, hsought, heq⟩ := h.region
    exact ⟨h.admits, by simp [heq], heq.trans hsought.symm⟩

instance : Decidable (s.Prefers w e) := decidable_of_iff _ prefers_iff

end Selector

namespace Catalog

-- ================================================================== earliest

/-- The first endpoint of a catalog that has a property. -/
def Earliest (p : Endpoint → Prop) (c : Catalog) (e : Endpoint) : Prop :=
  p e ∧ ∃ before behind, c = before ++ e :: behind ∧ ∀ x ∈ before, ¬p x

theorem Earliest.mem {p : Endpoint → Prop} {c : Catalog} {e : Endpoint} (h : Earliest p c e) :
    e ∈ c := by
  obtain ⟨-, before, behind, rfl, -⟩ := h
  simp

theorem earliest_iff {p : Endpoint → Prop} [DecidablePred p] {c : Catalog} {e : Endpoint} :
    Earliest p c e ↔ c.find? (fun x => p x) = some e := by
  simp [Earliest, List.find?_eq_some_iff_append]

instance {p : Endpoint → Prop} [DecidablePred p] (c : Catalog) (e : Endpoint) :
    Decidable (Earliest p c e) := decidable_of_iff _ earliest_iff.symm

-- =================================================================== lookups

/-- The first candidate of a region is the first endpoint that is a candidate in
that region. -/
theorem choose?_filter (region : Option String) (p : Endpoint → Bool) (c : Catalog) :
    choose? region (c.filter p)
      = (c.find? fun e => p e && (e.region.isSome && e.region == region)).or (c.find? p) := by
  cases region with
  | none =>
    have hnone : (c.find? fun e => p e && (e.region.isSome && e.region == none)) = none := by
      simp only [List.find?_eq_none, Bool.and_eq_true, beq_iff_eq]
      rintro e - ⟨-, hsome, hregion⟩
      simp [hregion] at hsome
    rw [hnone, Option.none_or, choose?, Option.bind_none, Option.none_or, List.head?_filter]
  | some r =>
    have hregion : ∀ e : Endpoint,
        (e.region.isSome && e.region == some r) = (e.region == some r) := by
      intro e
      cases e.region <;> rfl
    simp only [choose?, Option.bind_some, List.find?_filter, List.head?_filter, hregion,
      Bool.decide_and, Bool.decide_eq_true]

/-- The candidates are the endpoints admitted. -/
theorem candidates_eq (c : Catalog) (s : Selector) (w : Wanted) :
    c.candidates (s.adjust w) s.effectiveInterface = c.filter fun e => s.Admits w e := by
  refine List.filter_congr fun e _ => ?_
  exact Bool.eq_iff_iff.mpr (Selector.admits_iff.trans decide_eq_true_iff.symm)

/-- Without a forced base URL the first endpoint in the region is found, else the
first of those admitted. -/
theorem endpoint_eq_find (c : Catalog) (w : Wanted) (hbase : s.baseUrl = none) :
    c.endpoint s w =
      match (c.find? fun e => s.Prefers w e).or (c.find? fun e => s.Admits w e) with
      | some e => .ok e.url
      | none => .error (.endpointNotFound (s.type.getD w.type) (s.name.or w.name)
          (s.region.or w.region)) := by
  have hprefers : (fun e => decide (s.Admits w e)
      && (e.region.isSome && e.region == (s.adjust w).region))
        = fun e => decide (s.Prefers w e) := by
    funext e
    rw [Bool.eq_iff_iff, decide_eq_true_iff, ← Selector.prefers_iff]
    simp only [Bool.and_eq_true, decide_eq_true_eq, beq_iff_eq]
    rfl
  simp only [endpoint, hbase, candidates_eq, choose?_filter, hprefers]
  rfl

/-- What is found without a forced base URL is the first endpoint in the region that is
sought, or where there is none the first of those admitted. -/
theorem endpoint_eq_ok_iff {c : Catalog} (hbase : s.baseUrl = none) {url : String} :
    c.endpoint s w = .ok url ↔
      ∃ e, e.url = url ∧ (Earliest (s.Prefers w) c e ∨
        (∀ x ∈ c, ¬s.Prefers w x) ∧ Earliest (s.Admits w) c e) := by
  have hnone : (c.find? fun x => s.Prefers w x) = none ↔ ∀ x ∈ c, ¬s.Prefers w x := by
    simp [List.find?_eq_none]
  simp only [earliest_iff, ← hnone, endpoint_eq_find c w hbase]
  cases c.find? fun x => s.Prefers w x with
  | some e => simp
  | none =>
    cases c.find? fun x => s.Admits w x with
    | some e => simp
    | none => simp

/-- Nothing is found only where nothing is admitted. -/
theorem endpoint_eq_error_iff {c : Catalog} (hbase : s.baseUrl = none) {fault : SessionError} :
    c.endpoint s w = .error fault ↔
      (fault = .endpointNotFound (s.type.getD w.type) (s.name.or w.name) (s.region.or w.region) ∧
        ∀ e ∈ c, ¬s.Admits w e) := by
  have hnone : (c.find? fun x => s.Admits w x) = none ↔ ∀ x ∈ c, ¬s.Admits w x := by
    simp [List.find?_eq_none]
  rw [endpoint_eq_find c w hbase]
  cases hprefers : c.find? fun x => s.Prefers w x with
  | some e =>
    have hfirst := earliest_iff.mpr hprefers
    exact iff_of_false (by simp) fun h => h.2 e hfirst.mem hfirst.1.admits
  | none =>
    rw [← hnone, Option.none_or]
    cases c.find? fun x => s.Admits w x with
    | some e => simp
    | none => simp [eq_comm]

/-- What is admitted has nothing to do with regions. -/
theorem admits_of_region (region region' : Option String) :
    ({ s with region := region } : Selector).Admits { w with region := region' } e
      ↔ s.Admits w e :=
  ⟨fun h => ⟨h.type, h.name, h.interface⟩, fun h => ⟨h.type, h.name, h.interface⟩⟩

/-- Something is found if and only if a base URL is forced or an endpoint admitted. -/
theorem exists_endpoint_iff (c : Catalog) (s : Selector) (w : Wanted) :
    (∃ url, c.endpoint s w = .ok url) ↔ s.baseUrl.isSome ∨ ∃ e ∈ c, s.Admits w e := by
  cases hbase : s.baseUrl with
  | some url => exact iff_of_true ⟨url, by simp only [endpoint, hbase]⟩ (.inl rfl)
  | none =>
    simp only [Option.isSome_none, Bool.false_eq_true, false_or]
    cases hfound : c.endpoint s w with
    | error fault =>
      obtain ⟨-, hnone⟩ := (endpoint_eq_error_iff hbase).mp hfound
      refine iff_of_false (by simp) fun hsome => ?_
      obtain ⟨e, hmem, hadmits⟩ := hsome
      exact hnone e hmem hadmits
    | ok url =>
      refine iff_of_true ⟨url, rfl⟩ ?_
      obtain ⟨e, -, hfirst | ⟨-, hfirst⟩⟩ := (endpoint_eq_ok_iff hbase).mp hfound
      · exact ⟨e, hfirst.mem, hfirst.1.admits⟩
      · exact ⟨e, hfirst.mem, hfirst.1⟩

/-- A forced base URL is found as it is. Without one a lookup fails, with the values
that it comes to, if and only if no endpoint is of the type, the interface and the
name that are sought; else the first such endpoint of the region that is sought is
found, or the first of all where there is none in that region. In whatever region one
seeks, a lookup that succeeds in another one does not fail. -/
theorem endpoint_first_match (c : Catalog) (s : Selector) (w : Wanted) :
    (∀ url, s.baseUrl = some url → c.endpoint s w = .ok url) ∧
    (s.baseUrl = none →
      (∀ fault, c.endpoint s w = .error fault ↔
        (fault = .endpointNotFound (s.type.getD w.type) (s.name.or w.name)
            (s.region.or w.region) ∧
          ∀ e ∈ c, ¬s.Admits w e)) ∧
      ∀ url, c.endpoint s w = .ok url ↔
        ∃ e, e.url = url ∧ (Earliest (s.Prefers w) c e ∨
          (∀ x ∈ c, ¬s.Prefers w x) ∧ Earliest (s.Admits w) c e)) ∧
    ∀ region region',
      (∃ url, c.endpoint { s with region := region } { w with region := region' } = .ok url) ↔
        ∃ url, c.endpoint s w = .ok url := by
  refine ⟨fun url hbase => by simp only [endpoint, hbase], fun hbase => ?_, ?_⟩
  · exact ⟨fun _ => endpoint_eq_error_iff hbase, fun _ => endpoint_eq_ok_iff hbase⟩
  · intro region region'
    simp only [exists_endpoint_iff, admits_of_region]

-- ================================================================ all lookups

/-- Whatever of an endpoint is asked for, another one answers to it too. -/
@[mk_iff]
structure Hides (x e : Endpoint) : Prop where
  type : x.type = e.type
  name : x.name = e.name
  interface : x.interface = e.interface
  region : e.region = none ∨ x.region = e.region

instance (x e : Endpoint) : Decidable (Hides x e) := decidable_of_iff _ (hides_iff x e).symm

theorem Hides.refl (e : Endpoint) : Hides e e := ⟨rfl, rfl, rfl, .inr rfl⟩

theorem Hides.admits {x : Endpoint} (hides : Hides x e) (h : s.Admits w e) : s.Admits w x :=
  ⟨hides.type.trans h.type, fun name hname => hides.name.trans (h.name name hname),
    hides.interface.trans h.interface⟩

theorem Hides.prefers {x : Endpoint} (hides : Hides x e) (h : s.Prefers w e) : s.Prefers w x := by
  obtain ⟨region, hsought, heq⟩ := h.region
  have hregion : x.region = e.region := hides.region.resolve_left (by simp [heq])
  exact ⟨hides.admits h.admits, region, hsought, hregion.trans heq⟩

/-- What is found stands behind none that hides it. -/
theorem exists_of_endpoint {c : Catalog} (hbase : s.baseUrl = none) {url : String}
    (h : c.endpoint s w = .ok url) :
    ∃ e, Earliest (Hides · e) c e ∧ s.Admits w e ∧ e.url = url := by
  obtain ⟨e, rfl, hfirst | ⟨hnone, hfirst⟩⟩ := (endpoint_eq_ok_iff hbase).mp h
  · obtain ⟨hprefers, before, behind, rfl, hbefore⟩ := hfirst
    have hunhidden : ∀ x ∈ before, ¬Hides x e :=
      fun x hx hides => hbefore x hx (hides.prefers hprefers)
    exact ⟨e, ⟨.refl e, before, behind, rfl, hunhidden⟩, hprefers.admits, rfl⟩
  · obtain ⟨hadmits, before, behind, rfl, hbefore⟩ := hfirst
    have hunhidden : ∀ x ∈ before, ¬Hides x e :=
      fun x hx hides => hbefore x hx (hides.admits hadmits)
    exact ⟨e, ⟨.refl e, before, behind, rfl, hunhidden⟩, hadmits, rfl⟩

/-- Where nothing hides an endpoint, it is found by all that it can be asked for. -/
theorem endpoint_of_unhidden {c : Catalog} (h : Earliest (Hides · e) c e) :
    c.endpoint e.selector e.wanted = .ok e.url := by
  obtain ⟨-, before, behind, rfl, hbefore⟩ := h
  have hself : e.selector.Admits e.wanted e :=
    ⟨rfl, fun name hname => Option.some.inj hname, rfl⟩
  have hides : ∀ x, e.selector.Admits e.wanted x → (e.region = none ∨ x.region = e.region) →
      Hides x e := fun x hx hregion => ⟨hx.type, hx.name e.name rfl, hx.interface, hregion⟩
  refine (endpoint_eq_ok_iff rfl).mpr ⟨e, rfl, ?_⟩
  cases hregion : e.region with
  | none =>
    right
    constructor
    · intro x _ hx
      obtain ⟨region, hsought, -⟩ := hx.region
      exact nomatch hregion.symm.trans hsought
    · exact ⟨hself, before, behind, rfl, fun x hx hadmits =>
        hbefore x hx (hides x hadmits (.inl hregion))⟩
  | some region =>
    left
    refine ⟨⟨hself, region, hregion, hregion⟩, before, behind, rfl, fun x hx hprefers => ?_⟩
    obtain ⟨sought, hsought, heq⟩ := hprefers.region
    exact hbefore x hx (hides x hprefers.admits (.inr (heq.trans hsought.symm)))

end Catalog

namespace Sample

/-- Compute in two regions, in the second of them for administrators as well. -/
def twoRegions : Catalog :=
  [⟨"compute", "nova", some "north", .published, "https://nova.north.example.com"⟩,
    ⟨"compute", "nova", some "south", .admin, "https://admin.south.example.com"⟩,
    ⟨"compute", "nova", some "south", .published, "https://nova.south.example.com"⟩]

/-- Compute, wherever a region is named. -/
def computeIn (region : String) : Wanted := ⟨"compute", none, some region⟩

end Sample

/-- In a region of its own the second public endpoint goes before the first one. -/
theorem endpoint_first_match_south :
    Selector.none.baseUrl = none ∧
      ∃ e, e.url = "https://nova.south.example.com" ∧
        (Catalog.Earliest (Selector.none.Prefers (Sample.computeIn "south"))
            Sample.twoRegions e ∨
          (∀ x ∈ Sample.twoRegions, ¬Selector.none.Prefers (Sample.computeIn "south") x) ∧
            Catalog.Earliest (Selector.none.Admits (Sample.computeIn "south"))
              Sample.twoRegions e) := by
  have hfirst := Catalog.endpoint_first_match Sample.twoRegions Selector.none
    (Sample.computeIn "south")
  exact ⟨rfl, ((hfirst.2.1 rfl).2 _).mp rfl⟩

end CloudSession
