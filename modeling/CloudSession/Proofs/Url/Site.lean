/-
Which server a URL names. A slash behind a URL can change its path, but not its
scheme, host and port (`siteOf_slash`): the authority ends at the first slash
anyway (`authorityOf_slash`), and that it ends the URL matters only where there
is no host (`siteAt_last`). So auth URLs that differ in the slashes behind them
lead to one origin, unless it is these slashes that keep a blank from being
trimmed away (`origin_of_trimEndSlashes`).
-/
import CloudSession.Connection
import Mathlib.Data.List.TakeWhile

namespace CloudSession

namespace Url

-- ===================================================================== sites

/-- The scheme, host and port of a URL that has all of them. -/
def site? (u : Url) : Option (String × String × Nat) :=
  u.host.bind fun host => u.effectivePort?.map fun port => (u.scheme, host, port)

/-- The site of what is parsed, if it is a URL with a site. -/
def siteOf (result : Except Fault Url) : Option (String × String × Nat) :=
  result.toOption.bind site?

/-- The site that an authority names. -/
def siteAt (kind : SchemeKind) (scheme : String) (last : Bool) (authority : List Char) :
    Option (String × String × Nat) :=
  (parseAuthority kind scheme last authority).toOption.bind fun a =>
    a.host.bind fun host => (a.port.or (defaultPort scheme)).map fun port => (scheme, host, port)

/-- Whether a character can stand in an authority, and does not end it. -/
def inAuthority (kind : SchemeKind) (c : Char) : Bool :=
  c != '#' && c != '?' && c != '/' && !(kind.isSpecial && c == '\\')

/-- The authority that a text begins with. -/
def authorityOf (kind : SchemeKind) (cs : List Char) : List Char :=
  cs.takeWhile (inAuthority kind)

-- ================================================================ authorities

/-- What stands before the first separator, or all if there is none. -/
theorem fst_splitFirst (sep : Char) (cs : List Char) :
    ((Text.splitFirst sep cs).map Prod.fst).getD cs = cs.takeWhile (· != sep) := by
  induction cs with
  | nil => rfl
  | cons c cs ih =>
    rw [Text.splitFirst, List.takeWhile_cons, ← ih]
    by_cases hsep : c = sep
    · simp [hsep]
    · cases Text.splitFirst sep cs <;> simp [hsep]

theorem splitQuery_fst (cs : List Char) :
    (splitQuery cs).1 = (cs.takeWhile (· != '#')).takeWhile (· != '?') := by
  rw [← fst_splitFirst, splitQuery]
  cases Text.splitFirst '?' (cs.takeWhile (· != '#')) <;> rfl

/-- The authority ends where the path, the query or the fragment begins. -/
theorem authorityOf_eq (kind : SchemeKind) (cs : List Char) :
    (splitQuery cs).1.takeWhile (fun c => !(c == '/' || (kind.isSpecial && c == '\\')))
      = authorityOf kind cs := by
  rw [splitQuery_fst, List.takeWhile_takeWhile, List.takeWhile_takeWhile, authorityOf]
  congr 1
  funext c
  rw [Bool.eq_iff_iff]
  simp only [inAuthority, decide_eq_true_eq, Bool.and_eq_true, Bool.not_eq_true', bne_iff_ne,
    Bool.or_eq_false_iff, beq_eq_false_iff_ne]
  constructor
  · rintro ⟨⟨⟨hslash, hback⟩, hquery⟩, hfragment⟩
    exact ⟨⟨⟨hfragment, hquery⟩, hslash⟩, hback⟩
  · rintro ⟨⟨⟨hfragment, hquery⟩, hslash⟩, hback⟩
    exact ⟨⟨⟨hslash, hback⟩, hquery⟩, hfragment⟩

/-- Nothing but its authority decides which site a URL names. -/
theorem siteOf_parseHierarchical (kind : SchemeKind) (scheme : String) (cs : List Char) :
    siteOf (parseHierarchical kind scheme cs)
      = siteAt kind scheme ((authorityOf kind cs).length == cs.length) (authorityOf kind cs) := by
  simp only [parseHierarchical, authorityOf_eq, siteAt]
  cases parseAuthority kind scheme ((authorityOf kind cs).length == cs.length)
    (authorityOf kind cs) <;> rfl

/-- Whether the authority ends the URL matters only where there is no host. -/
theorem siteAt_last {kind : SchemeKind} (hkind : kind ≠ .file) (scheme : String) (last : Bool)
    (authority : List Char) :
    siteAt kind scheme last authority = siteAt kind scheme true authority := by
  cases last with
  | true => rfl
  | false =>
    rcases huser : dropUser authority with ⟨hostPort, user⟩
    cases hbare : user == some [] && hostPort.isEmpty with
    | false => simp only [siteAt, parseAuthority, huser, hbare, Bool.false_and]
    | true =>
      obtain ⟨huserNone, hempty⟩ := Bool.and_eq_true_iff.mp hbare
      obtain rfl := beq_iff_eq.mp huserNone
      obtain rfl := List.isEmpty_iff.mp hempty
      cases kind with
      | file => exact absurd rfl hkind
      | web =>
        simp only [siteAt, parseAuthority, huser]
        rfl
      | other =>
        simp only [siteAt, parseAuthority, huser]
        rfl

theorem authorityOf_slash (kind : SchemeKind) (cs : List Char) :
    authorityOf kind (cs ++ ['/']) = authorityOf kind cs := by
  induction cs with
  | nil => simp [authorityOf, inAuthority]
  | cons c cs ih =>
    simp only [authorityOf, List.cons_append, List.takeWhile_cons] at ih ⊢
    rw [ih]

theorem siteOf_parseHierarchical_slash {kind : SchemeKind} (hkind : kind ≠ .file)
    (scheme : String) (cs : List Char) :
    siteOf (parseHierarchical kind scheme (cs ++ ['/']))
      = siteOf (parseHierarchical kind scheme cs) := by
  rw [siteOf_parseHierarchical, siteOf_parseHierarchical, authorityOf_slash, siteAt_last hkind,
    siteAt_last hkind scheme ((authorityOf kind cs).length == cs.length)]

-- ===================================================================== parses

/-- Reads an absolute URL from the characters that the parser looks at. -/
def parseChars (cs : List Char) : Except Fault Url :=
  match splitScheme cs with
  | none => .error .relative
  | some (schemeChars, rest) =>
    let scheme := String.ofList schemeChars
    match SchemeKind.ofScheme schemeChars with
    | .file => parseFile rest
    | .web =>
      parseHierarchical .web scheme (rest.dropWhile fun c => c == '/' || c == '\\')
    | .other =>
      match rest with
      | '/' :: '/' :: rest => parseHierarchical .other scheme rest
      | _ => .ok (parseRootless scheme rest)

theorem parse_eq (s : String) : parse s = parseChars (significant s) := rfl

/-- A file has a place, but no site. -/
theorem siteOf_parseFile (cs : List Char) : siteOf (parseFile cs) = none := by
  have hnone : ∀ (host : Option String) (path : String) (query : Option String),
      siteOf (pure ⟨"file", host, none, path, query⟩) = none := by
    intro host path query
    cases host <;> rfl
  unfold parseFile
  simp only [bind, Except.bind]
  split
  · split
    · exact hnone _ _ _
    split
    · exact hnone _ _ _
    split
    · exact hnone _ _ _
    split
    · rfl
    · exact hnone _ _ _
  · exact hnone _ _ _

/-- A slash behind what is no scheme does not make one of it, and behind one
it belongs to the rest. -/
theorem splitScheme_slash (cs : List Char) :
    splitScheme (cs ++ ['/'])
      = (splitScheme cs).map fun (scheme, rest) => (scheme, rest ++ ['/']) := by
  have htake : (cs ++ ['/']).takeWhile isSchemeChar = cs.takeWhile isSchemeChar := by
    induction cs with
    | nil => rfl
    | cons c cs ih => simp only [List.cons_append, List.takeWhile_cons, ih]
  have hdrop : (cs ++ ['/']).dropWhile isSchemeChar = cs.dropWhile isSchemeChar ++ ['/'] := by
    clear htake
    induction cs with
    | nil => rfl
    | cons c cs ih =>
      simp only [List.cons_append, List.dropWhile_cons, ih]
      split <;> rfl
  unfold splitScheme
  rw [htake, hdrop]
  rcases cs.takeWhile isSchemeChar with _ | ⟨c, scheme⟩
  · rfl
  · rcases cs.dropWhile isSchemeChar with _ | ⟨d, rest⟩
    · rfl
    · by_cases hd : d = ':'
      · subst hd
        simp only [List.cons_append]
        split <;> rfl
      · simp [hd]

/-- A path without an authority is on no site. -/
theorem siteOf_parseRootless (scheme : String) (cs : List Char) :
    siteOf (.ok (parseRootless scheme cs)) = none := rfl

/-- A slash behind a URL leaves its site as it is. -/
theorem siteOf_slash (cs : List Char) :
    siteOf (parseChars (cs ++ ['/'])) = siteOf (parseChars cs) := by
  simp only [parseChars, splitScheme_slash]
  rcases splitScheme cs with _ | ⟨scheme, rest⟩
  · rfl
  simp only [Option.map_some]
  cases SchemeKind.ofScheme scheme with
  | file => simp only [siteOf_parseFile]
  | web =>
    simp only [List.dropWhile_append]
    split
    · next hempty =>
      rw [List.isEmpty_iff.mp hempty]
      rfl
    · exact siteOf_parseHierarchical_slash (by decide) _ _
  | other =>
    -- One slash more can make an authority begin, but an empty one.
    rcases rest with _ | ⟨c, _ | ⟨d, rest⟩⟩
    · rfl
    · by_cases hc : c = '/'
      · subst hc
        rfl
      · simp [hc, siteOf_parseRootless]
    · by_cases hc : c = '/'
      · subst hc
        by_cases hd : d = '/'
        · subst hd
          exact siteOf_parseHierarchical_slash (by decide) _ _
        · simp [hd, siteOf_parseRootless]
      · simp [hc, siteOf_parseRootless]

theorem siteOf_slashes (cs : List Char) (n : Nat) :
    siteOf (parseChars (cs ++ List.replicate n '/')) = siteOf (parseChars cs) := by
  induction n with
  | zero => rw [List.replicate_zero, List.append_nil]
  | succ n ih => rw [List.replicate_succ', ← List.append_assoc, siteOf_slash, ih]

-- ================================================================== trimming

/-- A character that the parser drops at either end of a text. -/
def isEdge (c : Char) : Bool := c.toNat ≤ 0x20

/-- The characters that the parser looks at in a text that was trimmed. -/
def clean (cs : List Char) : List Char :=
  (Text.strip isEdge (Text.strip Text.isBlank cs)).filter (!isIgnored ·)

theorem significant_trim (s : String) : significant (Text.trim s) = clean s.toList := by
  rw [significant, Text.trim, String.toList_ofList]
  rfl

/-- The characters of a text that are left when only its beginning is cleaned. -/
def cleanStart (cs : List Char) : List Char :=
  ((cs.dropWhile Text.isBlank).dropWhile isEdge).filter (!isIgnored ·)

/-- A text at whose end something is to be cleaned away. -/
def EndsLoosely (cs : List Char) : Prop :=
  ∃ c, cs.getLast? = some c ∧ (Text.isBlank c = true ∨ isEdge c = true)

section Ends

variable {p : Char → Bool} {cs : List Char}

theorem dropEndWhile_eq_self (h : ∀ c, cs.getLast? = some c → p c = false) :
    Text.dropEndWhile p cs = cs := by
  cases hreverse : cs.reverse with
  | nil => rw [List.reverse_eq_nil_iff.mp hreverse]; rfl
  | cons c rest =>
    have hc : p c = false := h c (by rw [← List.head?_reverse, hreverse]; rfl)
    rw [Text.dropEndWhile, hreverse, List.dropWhile_cons, hc, ← hreverse]
    exact List.reverse_reverse cs

theorem getLast?_dropWhile {c : Char} (h : (cs.dropWhile p).getLast? = some c) :
    cs.getLast? = some c := by
  rw [← List.takeWhile_append_dropWhile (p := p) (l := cs), List.getLast?_append, h]
  rfl

theorem dropWhile_slashes (hp : p '/' = false) (cs : List Char) (n : Nat) :
    (cs ++ List.replicate (n + 1) '/').dropWhile p
      = cs.dropWhile p ++ List.replicate (n + 1) '/' := by
  rw [List.dropWhile_append]
  split
  · next hempty =>
    rw [List.isEmpty_iff.mp hempty]
    simp [List.replicate_succ, hp]
  · rfl

theorem strip_slashes (hp : p '/' = false) (cs : List Char) (n : Nat) :
    Text.strip p (cs ++ List.replicate (n + 1) '/')
      = cs.dropWhile p ++ List.replicate (n + 1) '/' := by
  rw [Text.strip, dropWhile_slashes hp, dropEndWhile_eq_self]
  intro c hc
  obtain rfl : '/' = c := by simpa [List.getLast?_append, List.getLast?_replicate] using hc
  exact hp

end Ends

/-- Slashes keep what stands before them from being cleaned away. -/
theorem clean_slashes (cs : List Char) (n : Nat) :
    clean (cs ++ List.replicate (n + 1) '/') = cleanStart cs ++ List.replicate (n + 1) '/' := by
  have hkept : (List.replicate (n + 1) '/').filter (!isIgnored ·) = List.replicate (n + 1) '/' :=
    List.filter_eq_self.mpr fun c hc => by rw [List.eq_of_mem_replicate hc]; rfl
  rw [clean, strip_slashes (by decide), strip_slashes (by decide), List.filter_append, hkept,
    cleanStart]

/-- Where there is nothing loose at the end, only the beginning is cleaned. -/
theorem clean_eq_cleanStart {cs : List Char} (h : ¬EndsLoosely cs) : clean cs = cleanStart cs := by
  have hblank : Text.dropEndWhile Text.isBlank (cs.dropWhile Text.isBlank)
      = cs.dropWhile Text.isBlank := by
    refine dropEndWhile_eq_self fun c hc => Bool.eq_false_iff.mpr fun hblank => h ?_
    exact ⟨c, getLast?_dropWhile hc, .inl hblank⟩
  have hedge : Text.dropEndWhile isEdge ((cs.dropWhile Text.isBlank).dropWhile isEdge)
      = (cs.dropWhile Text.isBlank).dropWhile isEdge := by
    refine dropEndWhile_eq_self fun c hc => Bool.eq_false_iff.mpr fun hedge => h ?_
    exact ⟨c, getLast?_dropWhile (getLast?_dropWhile hc), .inr hedge⟩
  rw [clean, Text.strip, Text.strip, hblank, hedge, cleanStart]

/-- A text is what is left of it without its slashes, and these. -/
theorem exists_slashes (s : String) :
    ∃ n, s.toList = (Text.trimEndSlashes s).toList ++ List.replicate n '/' ∧
      (n = 0 ↔ Text.trimEndSlashes s = s) := by
  have hslashes : s.toList.reverse.takeWhile (· == '/')
      = List.replicate (s.toList.reverse.takeWhile (· == '/')).length '/' :=
    List.eq_replicate_iff.mpr ⟨rfl, fun c hc => by simpa using List.mem_takeWhile_imp hc⟩
  have hsplit : s.toList = (Text.trimEndSlashes s).toList
      ++ List.replicate (s.toList.reverse.takeWhile (· == '/')).length '/' :=
    calc s.toList
      _ = (s.toList.reverse.takeWhile (· == '/') ++ s.toList.reverse.dropWhile (· == '/')).reverse
          := by rw [List.takeWhile_append_dropWhile, List.reverse_reverse]
      _ = (s.toList.reverse.dropWhile (· == '/')).reverse
            ++ (s.toList.reverse.takeWhile (· == '/')).reverse := List.reverse_append
      _ = (Text.trimEndSlashes s).toList
            ++ (s.toList.reverse.takeWhile (· == '/')).reverse := by
        rw [Text.trimEndSlashes, String.toList_ofList, Text.dropEndWhile]
      _ = _ := by rw [← List.reverse_replicate, ← hslashes]
  refine ⟨_, hsplit, fun hnone => ?_, fun heq => ?_⟩
  · rw [hnone, List.replicate_zero, List.append_nil] at hsplit
    exact String.toList_injective hsplit.symm
  · have hlength := congrArg List.length hsplit
    rw [heq, List.length_append, List.length_replicate] at hlength
    omega

/-- Texts that differ in the slashes behind them name one site, unless only one
of them has slashes, and these keep something from being trimmed away. -/
theorem siteOf_trimEndSlashes {u v : String}
    (h : Text.trimEndSlashes u = Text.trimEndSlashes v)
    (hloose : EndsLoosely (Text.trimEndSlashes u).toList →
      (Text.trimEndSlashes u = u ↔ Text.trimEndSlashes v = v)) :
    siteOf (parse (Text.trim u)) = siteOf (parse (Text.trim v)) := by
  have hslashed : ∀ (cs : List Char) (n : Nat),
      siteOf (parseChars (clean (cs ++ List.replicate (n + 1) '/')))
        = siteOf (parseChars (cleanStart cs)) := by
    intro cs n
    rw [clean_slashes, siteOf_slashes]
  obtain ⟨m, hu, hm⟩ := exists_slashes u
  obtain ⟨n, hv, hn⟩ := exists_slashes v
  rw [← h] at hv
  rw [← hm, ← hn] at hloose
  have hbare : (m = 0 ↔ n = 0) ∨
      clean (Text.trimEndSlashes u).toList = cleanStart (Text.trimEndSlashes u).toList := by
    by_cases hends : EndsLoosely (Text.trimEndSlashes u).toList
    · exact .inl (hloose hends)
    · exact .inr (clean_eq_cleanStart hends)
  simp only [parse_eq, significant_trim, hu, hv]
  rcases m with _ | m <;> rcases n with _ | n
  · rfl
  · have hclean := hbare.resolve_left (by simp)
    rw [hslashed, List.replicate_zero, List.append_nil, hclean]
  · have hclean := hbare.resolve_left (by simp)
    rw [hslashed, List.replicate_zero, List.append_nil, hclean]
  · rw [hslashed, hslashed]

end Url

-- ==================================================================== origins

namespace Connection

/-- The origin of a connection is that of the site that its URL names. -/
theorem origin_ofUrl (baseUrl : String) :
    ((ofUrl baseUrl).map origin).toOption
      = (Url.siteOf (Url.parse (Text.trim baseUrl))).map fun (scheme, host, port) =>
          origin ⟨scheme, host, port, ""⟩ := by
  unfold ofUrl Url.siteOf Url.site?
  cases Url.parse (Text.trim baseUrl) with
  | error fault => rfl
  | ok url =>
    cases hhost : url.host with
    | none => simp [hhost, Except.map, Except.toOption]
    | some host =>
      cases hport : url.effectivePort? <;> simp [hhost, hport, Except.map, Except.toOption, origin]

/-- URLs that differ in the slashes behind them lead to one origin or to none,
unless only one of them has slashes, and these keep something from being
trimmed away. -/
theorem origin_of_trimEndSlashes {u v : String}
    (h : Text.trimEndSlashes u = Text.trimEndSlashes v)
    (hloose : Url.EndsLoosely (Text.trimEndSlashes u).toList →
      (Text.trimEndSlashes u = u ↔ Text.trimEndSlashes v = v)) :
    ((ofUrl u).map origin).toOption = ((ofUrl v).map origin).toOption := by
  rw [origin_ofUrl, origin_ofUrl, Url.siteOf_trimEndSlashes h hloose]

end Connection
end CloudSession
