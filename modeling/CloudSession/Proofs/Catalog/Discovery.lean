/-
What a catalog says that it has. Its types, names and regions are the values that its
endpoints show, each once and in the order in which they first come up (`Lists`): one more
endpoint adds the value that it shows or nothing (`Lists.add`, `Lists.skip`), so this holds
of whole catalogs (`lists_distinct`), and of no other list (`Lists.eq`). The public URLs of
a service are those of the endpoints that a lookup without a selector admits
(`publicUrls_eq`), so such a lookup finds one of them wherever there is one
(`discovery_agrees`).
-/
import CloudSession.Proofs.Catalog.Lookup
import Mathlib.Data.List.Induction

namespace CloudSession

namespace Catalog

-- ============================================================= what comes first

variable {shows : Endpoint → String → Prop} {c : Catalog} {e : Endpoint} {x y : String}
  {xs ys : List String}

/-- A value comes up before another one: some part that the catalog begins with shows it
and does not show the other one. -/
def ComesUpBefore (shows : Endpoint → String → Prop) (c : Catalog) (x y : String) : Prop :=
  ∃ front, front <+: c ∧ (∃ e ∈ front, shows e x) ∧ ∀ e ∈ front, ¬shows e y

theorem ComesUpBefore.asymm (h : ComesUpBefore shows c x y) : ¬ComesUpBefore shows c y x := by
  intro h'
  obtain ⟨front, hfront, ⟨e, he, hx⟩, hy⟩ := h
  obtain ⟨front', hfront', ⟨e', he', hy'⟩, hx'⟩ := h'
  -- Of two parts that a catalog begins with one begins with the other.
  obtain hle | hle := List.prefix_or_prefix_of_prefix hfront hfront'
  · exact hx' e (hle.subset he) hx
  · exact hy e' (hle.subset he') hy'

theorem ComesUpBefore.append (h : ComesUpBefore shows c x y) (rest : Catalog) :
    ComesUpBefore shows (c ++ rest) x y := by
  obtain ⟨front, hfront, hshows⟩ := h
  exact ⟨front, hfront.trans (List.prefix_append c rest), hshows⟩

/-- A list holds what the endpoints of a catalog show, each value once and in the order in
which they first come up. -/
structure Lists (shows : Endpoint → String → Prop) (c : Catalog) (xs : List String) : Prop where
  mem : ∀ x, x ∈ xs ↔ ∃ e ∈ c, shows e x
  nodup : xs.Nodup
  sorted : xs.Pairwise (ComesUpBefore shows c)

/-- There is only one such list. -/
theorem Lists.eq (hxs : Lists shows c xs) (hys : Lists shows c ys) : xs = ys := by
  have hperm : xs.Perm ys := by
    rw [List.perm_ext_iff_of_nodup hxs.nodup hys.nodup]
    exact fun x => (hxs.mem x).trans (hys.mem x).symm
  exact hperm.eq_of_pairwise (fun x y _ _ hxy hyx => absurd hyx hxy.asymm) hxs.sorted hys.sorted

/-- An endpoint that shows only what came up before it changes nothing. -/
theorem Lists.skip (h : Lists shows c xs) (hseen : ∀ x, shows e x → x ∈ xs) :
    Lists shows (c ++ [e]) xs where
  mem x := by
    simp only [List.mem_append, List.mem_singleton, or_and_right, exists_or, exists_eq_left,
      ← h.mem]
    exact ⟨.inl, fun hx => hx.elim id (hseen x)⟩
  nodup := h.nodup
  sorted := h.sorted.imp fun hbefore => hbefore.append [e]

/-- The value that an endpoint shows as the first one comes last. -/
theorem Lists.add (h : Lists shows c xs) (hnew : x ∉ xs) (hshows : ∀ y, shows e y ↔ y = x) :
    Lists shows (c ++ [e]) (xs ++ [x]) where
  mem y := by
    simp only [List.mem_append, List.mem_singleton, or_and_right, exists_or, exists_eq_left,
      h.mem, hshows]
  nodup := List.nodup_append.mpr ⟨h.nodup, List.pairwise_singleton _ x, fun y hy z hz => by
    rw [List.mem_singleton.mp hz]
    exact fun heq => hnew (heq ▸ hy)⟩
  sorted := by
    refine List.pairwise_append.mpr ⟨h.sorted.imp fun hbefore => hbefore.append [e],
      List.pairwise_singleton _ x, fun y hy z hz => ?_⟩
    -- All that was listed came up in what stands before the endpoint.
    obtain rfl := List.mem_singleton.mp hz
    exact ⟨c, List.prefix_append c [e], (h.mem y).mp hy,
      fun e' he' hx => hnew ((h.mem _).mpr ⟨e', he', hx⟩)⟩

-- ============================================================== distinct values

theorem distinct_concat (xs : List String) (x : String) :
    distinct (xs ++ [x]) = if x ∈ distinct xs then distinct xs else distinct xs ++ [x] := by
  rw [distinct, List.foldl_append]
  rfl

/-- The distinct values that endpoints show are listed in the order of their first
occurrence. -/
theorem lists_distinct (f : Endpoint → Option String) (c : Catalog) :
    Lists (fun e x => f e = some x) c (distinct (c.filterMap f)) := by
  induction c using List.reverseRecOn with
  | nil => exact ⟨by simp [distinct], .nil, .nil⟩
  | append_singleton c e ih =>
    rw [List.filterMap_append]
    cases hshown : f e with
    | none =>
      rw [List.filterMap_cons_none hshown, List.filterMap_nil, List.append_nil]
      exact ih.skip fun x hx => nomatch hshown.symm.trans hx
    | some x =>
      rw [List.filterMap_cons_some hshown, List.filterMap_nil, distinct_concat]
      split
      · next hmem =>
        refine ih.skip fun y hy => ?_
        obtain rfl := Option.some.inj (hshown.symm.trans hy)
        exact hmem
      · next hnew =>
        exact ih.add hnew fun y => by rw [hshown, Option.some.injEq, eq_comm]

/-- The values that the endpoints of a type show, or all endpoints. -/
theorem lists_ofType (type : Option String) (f : Endpoint → Option String) (c : Catalog) :
    Lists (fun e x => (∀ t ∈ type, e.type = t) ∧ f e = some x) c
      (distinct ((c.ofType type).filterMap f)) := by
  have hfilter : (c.ofType type).filterMap f
      = c.filterMap fun e => if type.all (e.type == ·) then f e else none :=
    List.filterMap_filter
  have hshows : (fun (e : Endpoint) x => (∀ t ∈ type, e.type = t) ∧ f e = some x)
      = fun e x => (if type.all (e.type == ·) then f e else none) = some x := by
    funext e x
    simp [Option.all_eq_true, Option.ite_none_right_eq_some]
  rw [hfilter, hshows]
  exact lists_distinct _ c

theorem lists_types (c : Catalog) : Lists (fun e x => e.type = x) c c.types := by
  have hall := lists_distinct (fun e => some e.type) c
  simpa only [types, List.filterMap_eq_map', Option.some.injEq] using hall

theorem lists_names (c : Catalog) (type : Option String) :
    Lists (fun e x => (∀ t ∈ type, e.type = t) ∧ e.name = x) c (c.names type) := by
  have hnames := lists_ofType type (fun e => some e.name) c
  simp only [List.filterMap_eq_map', Option.some.injEq] at hnames
  exact hnames

theorem lists_regions (c : Catalog) (type : Option String) :
    Lists (fun e x => (∀ t ∈ type, e.type = t) ∧ e.region = some x) c (c.regions type) :=
  lists_ofType type (·.region) c

theorem eq_iff_lists (h : Lists shows c xs) : ys = xs ↔ Lists shows c ys :=
  ⟨fun heq => heq ▸ h, fun h' => h'.eq h⟩

-- ================================================================== public URLs

/-- The public URLs of a service are those of the endpoints that a lookup admits. -/
theorem publicUrls_eq (c : Catalog) (w : Wanted) :
    c.publicUrls w.type w.name
      = (c.filter fun e => Selector.none.Admits w e).map (·.url) :=
  congrArg (List.map Endpoint.url) (candidates_eq c .none w)

theorem mem_publicUrls {w : Wanted} {url : String} :
    url ∈ c.publicUrls w.type w.name ↔ ∃ e ∈ c, Selector.none.Admits w e ∧ e.url = url := by
  simp [publicUrls_eq, and_assoc]

theorem publicUrls_ne_nil_iff {w : Wanted} :
    c.publicUrls w.type w.name ≠ [] ↔ ∃ e ∈ c, Selector.none.Admits w e := by
  simp [publicUrls_eq]

/-- The first public URL is that of the first endpoint admitted. -/
theorem head?_publicUrls {w : Wanted} {url : String} :
    (c.publicUrls w.type w.name).head? = some url ↔
      ∃ e, Earliest (Selector.none.Admits w) c e ∧ e.url = url := by
  rw [publicUrls_eq, List.head?_map, List.head?_filter, Option.map_eq_some_iff]
  simp only [earliest_iff]

theorem mem_publicUrls_of_endpoint {w : Wanted} {url : String}
    (h : c.endpoint .none w = .ok url) : url ∈ c.publicUrls w.type w.name := by
  obtain ⟨e, hfirst, hadmits, hurl⟩ := exists_of_endpoint rfl h
  exact mem_publicUrls.mpr ⟨e, hfirst.mem, hadmits, hurl⟩

/-- The first public URL is found where none is in the region that is sought, if one is
sought at all. -/
theorem endpoint_of_absent {w : Wanted}
    (h : w.region = none ∨ ∀ e ∈ c, Selector.none.Admits w e → e.region ≠ w.region)
    {url : String} :
    c.endpoint .none w = .ok url ↔ (c.publicUrls w.type w.name).head? = some url := by
  have hnone : ∀ e ∈ c, ¬Selector.none.Prefers w e := by
    rintro e he ⟨hadmits, region, hsought, heq⟩
    have hsought : w.region = some region := hsought
    rcases h with hunsought | habsent
    · exact nomatch hunsought.symm.trans hsought
    · exact habsent e he hadmits (heq.trans hsought.symm)
  rw [endpoint_eq_ok_iff rfl, head?_publicUrls]
  constructor
  · rintro ⟨e, rfl, hfirst | ⟨-, hfirst⟩⟩
    · exact absurd hfirst.1 (hnone e hfirst.mem)
    · exact ⟨e, hfirst, rfl⟩
  · rintro ⟨e, hfirst, rfl⟩
    exact ⟨e, rfl, .inr ⟨hnone, hfirst⟩⟩

end Catalog

/-- The types, the names and the regions that a catalog has are, without repetition and in
the order of their first occurrence, exactly those of its endpoints, or of its endpoints of
one type. In whatever region one seeks a service, a lookup without a selector finds a URL if
and only if the service has a public one; what it finds is one of these, and where no region
is sought or none of these is in it, the first. -/
theorem discovery_agrees (c : Catalog) :
    (∀ xs, xs = c.types ↔ Catalog.Lists (fun e x => e.type = x) c xs) ∧
    (∀ type,
      (∀ xs, xs = c.names type ↔
        Catalog.Lists (fun e x => (∀ t ∈ type, e.type = t) ∧ e.name = x) c xs) ∧
      ∀ xs, xs = c.regions type ↔
        Catalog.Lists (fun e x => (∀ t ∈ type, e.type = t) ∧ e.region = some x) c xs) ∧
    ∀ w : Wanted,
      ((∃ url, c.endpoint .none w = .ok url) ↔ c.publicUrls w.type w.name ≠ []) ∧
      (∀ url, c.endpoint .none w = .ok url → url ∈ c.publicUrls w.type w.name) ∧
      (w.region = none ∨ (∀ e ∈ c, Selector.none.Admits w e → e.region ≠ w.region) →
        ∀ url, c.endpoint .none w = .ok url ↔ (c.publicUrls w.type w.name).head? = some url) := by
  refine ⟨fun xs => Catalog.eq_iff_lists (Catalog.lists_types c),
    fun type => ⟨fun xs => Catalog.eq_iff_lists (Catalog.lists_names c type),
      fun xs => Catalog.eq_iff_lists (Catalog.lists_regions c type)⟩,
    fun w => ⟨?_, fun url => Catalog.mem_publicUrls_of_endpoint,
      fun habsent url => Catalog.endpoint_of_absent habsent⟩⟩
  rw [Catalog.exists_endpoint_iff, Catalog.publicUrls_ne_nil_iff]
  exact or_iff_right Bool.false_ne_true

/-- In a region where the service is not, the first of its public URLs is found. -/
theorem discovery_agrees_west :
    (∀ e ∈ Sample.twoRegions, Selector.none.Admits (Sample.computeIn "west") e →
      e.region ≠ (Sample.computeIn "west").region) ∧
    Sample.twoRegions.publicUrls "compute" none
      = ["https://nova.north.example.com", "https://nova.south.example.com"] ∧
    Catalog.endpoint Sample.twoRegions .none (Sample.computeIn "west")
      = .ok "https://nova.north.example.com" := by
  have habsent : ∀ e ∈ Sample.twoRegions, Selector.none.Admits (Sample.computeIn "west") e →
      e.region ≠ (Sample.computeIn "west").region := by decide +kernel
  have hurls : Sample.twoRegions.publicUrls "compute" none
      = ["https://nova.north.example.com", "https://nova.south.example.com"] := by decide +kernel
  have hfound := ((discovery_agrees Sample.twoRegions).2.2 (Sample.computeIn "west")).2.2
    (.inr habsent) "https://nova.north.example.com"
  exact ⟨habsent, hurls, hfound.mpr (congrArg List.head? hurls)⟩

end CloudSession
