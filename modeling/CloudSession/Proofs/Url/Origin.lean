/-
What stands behind the origin of a URL. The path of a URL with a host is empty
or begins with a slash (`parse_rooted`), and so does the path in front of a
connection's actions (`ofUrl_rooted`). Whatever the action, the URL for it is
the origin of the connection and a text that is empty or begins with a slash
or a question mark (`urlFor_behindOrigin`), so that host and port stay as they
are.
-/
import CloudSession.Connection

namespace CloudSession

-- =================================================================== paths

namespace Url

/-- A path that is empty or begins with a slash. -/
def IsRooted (path : String) : Prop := path = "" ∨ ∃ rest, path = "/" ++ rest

/-- A text that ends an origin when it is put behind it. -/
def IsBehindOrigin (text : String) : Prop :=
  text = "" ∨ (∃ rest, text = "/" ++ rest) ∨ ∃ rest, text = "?" ++ rest

theorem IsRooted.behindOrigin {path : String} (h : IsRooted path) : IsBehindOrigin path :=
  h.imp_right Or.inl

theorem IsRooted.append {path : String} (h : IsRooted path) {tail : String}
    (htail : IsBehindOrigin tail) : IsBehindOrigin (path ++ tail) := by
  obtain rfl | ⟨rest, rfl⟩ := h
  · rwa [String.empty_append]
  · exact Or.inr (Or.inl ⟨rest ++ tail, String.append_assoc⟩)

theorem isRooted_ofList {cs : List Char} (h : ∀ c, cs.head? = some c → c = '/') :
    IsRooted (String.ofList cs) := by
  cases cs with
  | nil => exact Or.inl rfl
  | cons c rest =>
    obtain rfl := h c rfl
    refine Or.inr ⟨String.ofList rest, String.toList_injective ?_⟩
    simp

theorem IsRooted.head {path : String} (h : IsRooted path) {c : Char}
    (hc : path.toList.head? = some c) : c = '/' := by
  obtain rfl | ⟨rest, rfl⟩ := h
  · exact absurd hc (by simp)
  · simpa using hc.symm

theorem pathText_head (segs : List (List Char)) {c : Char}
    (h : (pathText segs).head? = some c) : c = '/' := by
  cases segs with
  | nil => exact absurd h (by simp [pathText])
  | cons seg segs => simpa [pathText] using h.symm

theorem hierarchicalPath_head (kind : SchemeKind) (cs : List Char) {c : Char}
    (h : (hierarchicalPath kind cs).head? = some c) : c = '/' := by
  unfold hierarchicalPath at h
  split at h
  · split at h
    · simpa using h.symm
    · exact absurd h (by simp)
  · split at h
    · exact pathText_head _ h
    · exact pathText_head _ h

theorem filePath_rooted (cs : List Char) : IsRooted (filePath cs) :=
  isRooted_ofList fun _ h => (Option.some.inj h).symm

theorem parseHierarchical_rooted {kind : SchemeKind} {scheme : String} {cs : List Char} {u : Url}
    (h : parseHierarchical kind scheme cs = .ok u) : IsRooted u.path := by
  unfold parseHierarchical at h
  simp only [bind, Except.bind] at h
  split at h
  · exact absurd h (by simp)
  · obtain rfl := Except.ok.inj h
    exact isRooted_ofList fun _ hc => hierarchicalPath_head _ _ hc

theorem parseFile_rooted {cs : List Char} {u : Url} (h : parseFile cs = .ok u) :
    IsRooted u.path := by
  unfold parseFile at h
  simp only [bind, Except.bind] at h
  have hpath : ∀ (host : Option String) (cs : List Char) (query : Option String),
      (pure ⟨"file", host, none, filePath cs, query⟩ : Except Fault Url) = .ok u →
        IsRooted u.path := by
    intro host cs query hu
    obtain rfl := Except.ok.inj hu
    exact filePath_rooted cs
  split at h
  · split at h
    · exact hpath _ _ _ h
    split at h
    · exact hpath _ _ _ h
    split at h
    · exact hpath _ _ _ h
    split at h
    · exact absurd h (by simp)
    · exact hpath _ _ _ h
  · exact hpath _ _ _ h

/-- A URL with a host has no path or one that begins with a slash. -/
theorem parse_rooted {s : String} {u : Url} (h : parse s = .ok u) (hhost : u.host ≠ none) :
    IsRooted u.path := by
  unfold parse at h
  split at h
  · exact absurd h (by simp)
  · split at h
    · exact parseFile_rooted h
    · exact parseHierarchical_rooted h
    · split at h
      · exact parseHierarchical_rooted h
      · obtain rfl := Except.ok.inj h
        exact absurd rfl hhost

end Url

-- ============================================================= connections

theorem Text.trimEndSlashes_rooted {path : String} (h : Url.IsRooted path) :
    Url.IsRooted (Text.trimEndSlashes path) := by
  refine Url.isRooted_ofList fun c hc => h.head (c := c) ?_
  have hprefix : Text.dropEndWhile (· == '/') path.toList <+: path.toList := by
    have hsuffix := List.dropWhile_suffix (· == '/') (l := path.toList.reverse)
    simpa [Text.dropEndWhile] using List.reverse_prefix.mpr hsuffix
  obtain ⟨tail, htail⟩ := hprefix
  rw [← htail]
  cases hkept : Text.dropEndWhile (· == '/') path.toList with
  | nil => exact absurd hc (by simp [hkept])
  | cons d rest => simpa [hkept] using hc

namespace Connection

/-- The path in front of the actions of a connection is rooted. -/
theorem ofUrl_rooted {baseUrl : String} {connection : Connection}
    (h : ofUrl baseUrl = .ok connection) : Url.IsRooted connection.pathPrefix := by
  unfold ofUrl at h
  split at h
  · exact absurd h (by simp)
  · next url hurl =>
    split at h
    · exact absurd h (by simp)
    · next host hhost =>
      split at h
      · exact absurd h (by simp)
      · obtain rfl := Except.ok.inj h
        exact Text.trimEndSlashes_rooted (Url.parse_rooted hurl (by simp [hhost]))

/-- What is kept of an absolute URL is a path or a query. -/
theorem absoluteTarget?_behindOrigin {action target : String}
    (h : absoluteTarget? action = some target) : Url.IsBehindOrigin target := by
  unfold absoluteTarget? at h
  split at h
  · exact absurd h (by simp)
  · next url hurl =>
    split at h
    · exact absurd h (by simp)
    · next hhost =>
      have hrooted := Url.parse_rooted hurl fun hnone => hhost (by simp [hnone])
      split at h
      · obtain rfl := Option.some.inj h
        exact hrooted.behindOrigin
      · next query _ =>
        obtain rfl := Option.some.inj h
        rw [String.append_assoc]
        exact hrooted.append (Or.inr (Or.inr ⟨query, rfl⟩))

theorem target_behindOrigin {connection : Connection} (h : Url.IsRooted connection.pathPrefix)
    (action : String) : Url.IsBehindOrigin (connection.target action) := by
  unfold target
  split
  · next target htarget => exact absoluteTarget?_behindOrigin htarget
  · split
    · exact h.behindOrigin
    · split
      · next hslash =>
        refine h.append (Or.inr (Or.inl ?_))
        obtain ⟨rest, hrest⟩ := List.isPrefixOf_iff_prefix.mp hslash
        refine ⟨String.ofList rest, String.toList_injective ?_⟩
        rw [← hrest]
        simp
      · rw [String.append_assoc]
        exact h.append (Or.inr (Or.inl ⟨action, rfl⟩))

/-- Connections that can stand for each other have one origin. -/
theorem origin_eq_of_sameConnection {a b : Connection} (h : a.sameConnection b = true) :
    a.origin = b.origin := by
  simp only [sameConnection, Bool.and_eq_true, beq_iff_eq] at h
  obtain ⟨⟨hscheme, hhost⟩, hport⟩ := h
  simp only [origin, hscheme, hhost, hport]

/-- Whatever the action, its URL has the connection's origin. -/
theorem urlFor_behindOrigin {connection : Connection} (h : Url.IsRooted connection.pathPrefix)
    (action : String) :
    ∃ rest, connection.urlFor action = connection.origin ++ rest ∧ Url.IsBehindOrigin rest :=
  ⟨connection.target action, rfl, target_behindOrigin h action⟩

end Connection
end CloudSession
