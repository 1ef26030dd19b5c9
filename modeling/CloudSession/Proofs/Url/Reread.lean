/-
Reading the origin of a connection again. The scheme and the host of a connection
are written, and its port fits in sixteen bits (`ofUrl_sound`). Put together to an
authority they are read as themselves (`parseAuthority_written`), whatever path or
query stands behind, but a port that was left out is the one that the scheme
implies for the parser (`ofUrl_origin`). Origins leave out the default ports of http
and https, and where they know of none they leave out port 0. So a connection is
read again from its origin, unless its port is 0 and its scheme is neither of the
two (`origin_reread_iff`).
-/
import CloudSession.Proofs.Success
import CloudSession.Proofs.Text.Digits
import CloudSession.Proofs.Url.Host
import CloudSession.Proofs.Url.Origin
import CloudSession.Proofs.Url.Site

namespace CloudSession

namespace Url

-- =============================================================== authorities

/-- A scheme of the web whose default port connections leave out. -/
def IsHttp (scheme : String) : Prop := scheme = "http" ∨ scheme = "https"

/-- The port behind a host, unless the scheme implies it. -/
def portText (scheme : String) (port : Nat) : List Char :=
  if port == Connection.impliedPort scheme then [] else ':' :: Nat.toDigits 10 port

theorem parsePort_le {cs : List Char} {port : Nat} (h : parsePort cs = .ok (some port)) :
    port ≤ 65535 := by
  unfold parsePort at h
  dsimp only at h
  split_ifs at h with hempty hdigits hle
  · exact nomatch h
  · obtain rfl := Option.some.inj (Except.ok.inj h)
    exact hle

theorem parsePort_toDigits {port : Nat} (h : port ≤ 65535) :
    parsePort (Nat.toDigits 10 port) = .ok (some port) := by
  have hempty : ¬(Nat.toDigits 10 port).isEmpty = true := by simp [Nat.toDigits_ne_nil]
  have hdigits : (Nat.toDigits 10 port).all Char.isDigit = true :=
    List.all_eq_true.mpr (Text.allDigits_toDigits port)
  have hvalue : (Nat.toDigits 10 port).foldl (fun n c => 10 * n + (c.toNat - 48)) 0 = port :=
    Nat.ofDigitChars_ten_toDigits
  rw [parsePort, if_neg hempty, if_pos hdigits]
  simp only [hvalue, if_pos h]

theorem dropUser_of_notMem {authority : List Char} (h : '@' ∉ authority) :
    dropUser authority = (authority, none) := by
  have hall : authority.reverse.takeWhile (· != '@') = authority.reverse :=
    List.takeWhile_eq_self_iff.mpr fun c hc => by
      simpa using fun heq : c = '@' => h (heq ▸ List.mem_reverse.mp hc)
  simp [dropUser, hall]

/-- What is read of an authority. -/
theorem exists_of_parseAuthority {kind : SchemeKind} {scheme : String} {last : Bool}
    {authority : List Char} {a : Authority}
    (h : parseAuthority kind scheme last authority = .ok a) :
    ∃ cs host digits port, readHost kind cs = .ok host ∧ parsePort digits = .ok port ∧
      a.host = (if host.isEmpty then none else some (String.ofList host)) ∧
      a.port = if port == defaultPort scheme then none else port := by
  unfold parseAuthority at h
  dsimp only at h
  split at h
  · exact nomatch h
  split at h
  · exact nomatch h
  -- What follows the host is the same for both ways to read it.
  cases hspecial : kind.isSpecial
  all_goals
    simp only [hspecial, if_true, Bool.false_eq_true, if_false] at h
    obtain ⟨host, hhost, h⟩ := bind_eq_ok h
    split at h
    · exact nomatch h
    obtain ⟨port, hport, h⟩ := bind_eq_ok h
    split at h
    · exact nomatch h
    obtain rfl := Except.ok.inj h
    exact ⟨_, host, _, port, by rw [readHost, hspecial]; exact hhost, hport, rfl, rfl⟩

theorem defaultPort_le {scheme : String} {port : Nat} (h : defaultPort scheme = some port) :
    port ≤ 65535 := by
  unfold defaultPort at h
  split_ifs at h
  all_goals
    obtain rfl := Option.some.inj h
    decide

/-- A site has the scheme in front of its authority. -/
theorem siteAt_scheme {kind : SchemeKind} {scheme s host : String} {port : Nat} {last : Bool}
    {authority : List Char} (h : siteAt kind scheme last authority = some (s, host, port)) :
    s = scheme := by
  obtain ⟨a, -, h⟩ := Option.bind_eq_some_iff.mp h
  obtain ⟨host', -, h⟩ := Option.bind_eq_some_iff.mp h
  obtain ⟨port', -, heq⟩ := Option.map_eq_some_iff.mp h
  exact (congrArg Prod.fst heq).symm

/-- The site of an authority has a written host and a port. -/
theorem siteAt_sound {kind : SchemeKind} {scheme s host : String} {port : Nat} {last : Bool}
    {authority : List Char} (h : siteAt kind scheme last authority = some (s, host, port)) :
    IsWritten kind host.toList ∧ port ≤ 65535 := by
  unfold siteAt at h
  cases hparse : parseAuthority kind scheme last authority with
  | error fault =>
    rw [hparse] at h
    exact nomatch h
  | ok a =>
    obtain ⟨cs, name, digits, read, hname, hdigits, haHost, haPort⟩ :=
      exists_of_parseAuthority hparse
    simp only [hparse, Except.toOption, Option.bind_some] at h
    obtain ⟨host', hhost', h⟩ := Option.bind_eq_some_iff.mp h
    obtain ⟨port', hport', heq⟩ := Option.map_eq_some_iff.mp h
    obtain ⟨rfl, rfl, rfl⟩ : scheme = s ∧ host' = host ∧ port' = port := by simpa using heq
    constructor
    · rw [haHost] at hhost'
      split_ifs at hhost' with hempty
      obtain rfl := Option.some.inj hhost'
      rw [String.toList_ofList]
      exact IsWritten.of_readHost hname (by simpa using hempty)
    · rw [haPort] at hport'
      split_ifs at hport' with hdefault
      · exact defaultPort_le hport'
      · cases read with
        | none => exact defaultPort_le hport'
        | some read =>
          obtain rfl := Option.some.inj hport'
          exact parsePort_le hdigits

-- =================================================================== schemes

theorem isAscii_of_isSchemeChar {c : Char} (h : isSchemeChar c = true) : isAscii c = true := by
  refine decide_eq_true ?_
  delta isSchemeChar Char.isAlphanum Char.isAlpha Char.isUpper Char.isLower Char.isDigit at h
  simp only [Bool.or_eq_true, Bool.and_eq_true, decide_eq_true_eq, beq_iff_eq,
    UInt32.le_iff_toNat_le] at h
  rcases h with ((h | rfl) | rfl) | rfl
  · have hlast : 'Z'.val.toNat = 90 ∧ 'z'.val.toNat = 122 ∧ '9'.val.toNat = 57 := ⟨rfl, rfl, rfl⟩
    show c.val.toNat < 128
    omega
  all_goals decide

/-- A scheme as the parser writes it. -/
structure IsScheme (scheme : List Char) : Prop where
  head : ∃ c cs, scheme = c :: cs ∧ c.isAlpha = true
  chars : ∀ c ∈ scheme, isSchemeChar c = true ∧ c.toLower = c

theorem IsScheme.of_splitScheme {cs scheme rest : List Char}
    (h : splitScheme cs = some (scheme, rest)) : IsScheme scheme := by
  have hlower : ∀ {c : Char}, isSchemeChar c = true →
      isSchemeChar c.toLower = true ∧ (c.isAlpha = true → c.toLower.isAlpha = true) := by
    intro c hc
    have hall := forall_isAscii (p := fun c => !isSchemeChar c ||
      (isSchemeChar c.toLower && (!c.isAlpha || c.toLower.isAlpha))) (by decide +kernel)
      (isAscii_of_isSchemeChar hc)
    simpa [hc, ← Bool.not_eq_true, ← imp_iff_not_or] using hall
  have hchars : ∀ c ∈ cs.takeWhile isSchemeChar, isSchemeChar c = true :=
    fun c hc => List.mem_takeWhile_imp hc
  unfold splitScheme at h
  split at h
  · next c scheme rest' htake _ =>
    split_ifs at h with halpha
    obtain ⟨rfl, -⟩ := Prod.mk.inj (Option.some.inj h)
    rw [htake] at hchars
    refine ⟨⟨_, _, List.map_cons .., (hlower (hchars c List.mem_cons_self)).2 halpha⟩,
      fun d hd => ?_⟩
    obtain ⟨e, he, rfl⟩ := List.mem_map.mp hd
    exact ⟨(hlower (hchars e he)).1, toLower_toLower e⟩
  · exact nomatch h

/-- It is split off as itself. -/
theorem IsScheme.splitScheme {scheme : List Char} (h : IsScheme scheme) (rest : List Char) :
    splitScheme (scheme ++ ':' :: rest) = some (scheme, rest) := by
  have hchars : ∀ c ∈ scheme, isSchemeChar c = true := fun c hc => (h.chars c hc).1
  have hcolon : isSchemeChar ':' = false := by decide
  have htake : (scheme ++ ':' :: rest).takeWhile isSchemeChar = scheme := by
    rw [List.takeWhile_append_of_pos hchars, List.takeWhile_cons, hcolon]
    exact List.append_nil scheme
  have hdrop : (scheme ++ ':' :: rest).dropWhile isSchemeChar = ':' :: rest := by
    rw [List.dropWhile_append_of_pos hchars, List.dropWhile_cons, hcolon]
    rfl
  have hlower : scheme.map Char.toLower = scheme := by
    rw [List.map_congr_left (g := id) fun c hc => (h.chars c hc).2, List.map_id]
  obtain ⟨c, cs, rfl, halpha⟩ := h.head
  unfold Url.splitScheme
  rw [htake, hdrop]
  simp only [halpha, if_true, hlower]

theorem IsScheme.isPlain {scheme : List Char} (h : IsScheme scheme) {c : Char} (hc : c ∈ scheme) :
    isPlain c = true := by
  have hchar := (h.chars c hc).1
  have hall := forall_isAscii (p := fun c => !isSchemeChar c || Url.isPlain c) (by decide +kernel)
    (isAscii_of_isSchemeChar hchar)
  simpa [hchar] using hall

/-- The site of a URL has a written scheme and host, and a port. No file has one. -/
theorem siteOf_sound {cs : List Char} {scheme host : String} {port : Nat}
    (h : siteOf (parseChars cs) = some (scheme, host, port)) :
    IsScheme scheme.toList ∧ SchemeKind.ofScheme scheme.toList ≠ .file ∧
      IsWritten (SchemeKind.ofScheme scheme.toList) host.toList ∧ port ≤ 65535 := by
  unfold parseChars at h
  split at h
  · exact nomatch h
  · next schemeChars rest hsplit =>
    have hscheme := IsScheme.of_splitScheme hsplit
    have hat : ∀ {kind : SchemeKind} {last : Bool} {authority : List Char},
        SchemeKind.ofScheme schemeChars = kind → kind ≠ .file →
        siteAt kind (String.ofList schemeChars) last authority = some (scheme, host, port) →
        IsScheme scheme.toList ∧ SchemeKind.ofScheme scheme.toList ≠ .file ∧
          IsWritten (SchemeKind.ofScheme scheme.toList) host.toList ∧ port ≤ 65535 := by
      intro kind last authority hkind hfile h
      obtain ⟨hhost, hport⟩ := siteAt_sound h
      obtain rfl := siteAt_scheme h
      rw [String.toList_ofList, hkind]
      exact ⟨hscheme, hfile, hhost, hport⟩
    dsimp only at h
    split at h
    · rw [siteOf_parseFile] at h
      exact nomatch h
    · next hkind =>
      rw [siteOf_parseHierarchical] at h
      exact hat hkind (by decide) h
    · next hkind =>
      split at h
      · rw [siteOf_parseHierarchical] at h
        exact hat hkind (by decide) h
      · exact nomatch h

-- ================================================================= rereading

/-- The port behind a host is read as itself, unless it is left out. -/
theorem parsePort_portText {scheme : String} {port : Nat} (h : port ≤ 65535) :
    parsePort ((portText scheme port).drop 1)
      = .ok (if port == Connection.impliedPort scheme then none else some port) := by
  unfold portText
  split_ifs
  · rfl
  · exact parsePort_toDigits h

theorem hostSpan_portText (scheme : String) (port : Nat) :
    hostSpan false (portText scheme port) = ([], portText scheme port) := by
  unfold portText
  split_ifs <;> rfl

/-- What stands in the text of a port. -/
theorem mem_portText {scheme : String} {port : Nat} {c : Char} (h : c ∈ portText scheme port) :
    c = ':' ∨ c.isDigit = true := by
  unfold portText at h
  split_ifs at h
  · exact nomatch h
  · exact (List.mem_cons.mp h).imp_right (Text.allDigits_toDigits port c)

theorem isPlain_of_mem_portText {scheme : String} {port : Nat} {c : Char}
    (h : c ∈ portText scheme port) : isPlain c = true := by
  rcases mem_portText h with rfl | hdigit
  · decide
  · exact isPlain_of_not_isDenied (isDenied_of_isDigit hdigit) (isAscii_of_isDigit hdigit)

/-- A text that an authority does not go on with. -/
def EndsAuthority (rest : List Char) : Prop :=
  ∀ c, rest.head? = some c → ∀ kind, inAuthority kind c = false

theorem inAuthority_of_isPlain {c : Char} (h : isPlain c = true) (kind : SchemeKind) :
    inAuthority kind c = true := by
  simp only [isPlain, inAuthority, List.mem_cons, List.not_mem_nil, or_false, Bool.and_eq_true,
    Bool.not_eq_true', decide_eq_false_iff_not, not_or, bne_iff_ne] at h ⊢
  simp [h]

/-- An authority of plain characters ends where what stands behind it does not
go on with it. -/
theorem authorityOf_append {kind : SchemeKind} {cs rest : List Char}
    (h : ∀ c ∈ cs, isPlain c = true) (hrest : EndsAuthority rest) :
    authorityOf kind (cs ++ rest) = cs := by
  have hnil : rest.takeWhile (inAuthority kind) = [] := by
    cases rest with
    | nil => rfl
    | cons c cs => rw [List.takeWhile_cons, hrest c rfl]; rfl
  rw [authorityOf, List.takeWhile_append_of_pos fun c hc => inAuthority_of_isPlain (h c hc) kind,
    hnil, List.append_nil]

/-- A query does not begin among plain characters. -/
theorem splitQuery_append {cs : List Char} (h : ∀ c ∈ cs, isPlain c = true) (rest : List Char) :
    splitQuery (cs ++ rest) = (cs ++ (splitQuery rest).1, (splitQuery rest).2) := by
  have hmark : ∀ c ∈ cs, c ≠ '#' ∧ c ≠ '?' := fun c hc =>
    ⟨fun heq => absurd (heq ▸ h c hc) (by decide), fun heq => absurd (heq ▸ h c hc) (by decide)⟩
  have htake : (cs ++ rest).takeWhile (· != '#') = cs ++ rest.takeWhile (· != '#') :=
    List.takeWhile_append_of_pos fun c hc => bne_iff_ne.mpr (hmark c hc).1
  have hfirst : ∀ rest, Text.splitFirst '?' (cs ++ rest)
      = (Text.splitFirst '?' rest).map fun parts => (cs ++ parts.1, parts.2) := by
    intro rest
    clear htake h
    induction cs with
    | nil => simp
    | cons c cs ih =>
      obtain ⟨hc, hcs⟩ := List.forall_mem_cons.mp hmark
      simp [Text.splitFirst, hc.2, ih hcs, Function.comp_def]
  simp only [splitQuery, htake, hfirst]
  cases Text.splitFirst '?' (rest.takeWhile (· != '#')) <;> rfl

/-- The port that the parser keeps of one behind a host: none that is left out or
the default of the scheme. -/
def keptPort? (scheme : String) (port : Nat) : Option Nat :=
  let written := if port == Connection.impliedPort scheme then none else some port
  if written == defaultPort scheme then none else written

section Reread

variable {kind : SchemeKind} {host : List Char} (hhost : IsWritten kind host) {scheme : String}
  {port : Nat} (hport : port ≤ 65535)
include hhost

theorem isPlain_of_mem_authority {c : Char} (h : c ∈ host ++ portText scheme port) :
    isPlain c = true := by
  rcases List.mem_append.mp h with h | h
  · exact hhost.plain c h
  · exact isPlain_of_mem_portText h

include hport

/-- A written host and the port behind it are read as themselves. -/
theorem parseAuthority_written (last : Bool) :
    parseAuthority kind scheme last (host ++ portText scheme port) =
      .ok ⟨some (String.ofList host), keptPort? scheme port, []⟩ := by
  have huser : dropUser (host ++ portText scheme port) = (host ++ portText scheme port, none) :=
    dropUser_of_notMem fun hc => absurd (isPlain_of_mem_authority hhost hc) (by decide)
  have hspan : hostSpan false (host ++ portText scheme port) = (host, portText scheme port) := by
    rw [hhost.whole, hostSpan_portText, List.append_nil]
  have hslash : ∀ c ∈ (portText scheme port).drop 1, (c != '\\') = true := fun c hc => by
    rcases mem_portText (List.mem_of_mem_drop hc) with rfl | hdigit
    · decide
    · exact bne_iff_ne.mpr fun heq => absurd (heq ▸ hdigit) (by decide)
  have htake := List.takeWhile_eq_self_iff.mpr hslash
  have hdrop := List.dropWhile_eq_nil_iff.mpr hslash
  have hempty : host.isEmpty = false := by simpa using hhost.nonempty
  have hread := hhost.reread
  unfold parseAuthority
  simp only [huser, hspan]
  rw [if_neg (by simp), if_neg (by simp [hempty])]
  -- What follows the host is the same for both ways to read it.
  cases hspecial : kind.isSpecial
  all_goals
    rw [readHost, hspecial] at hread
    simp only [if_true, Bool.false_eq_true, if_false] at hread ⊢
    simp only [hread, bind, Except.bind]
    rw [if_neg (by simp [hempty]), htake, parsePort_portText hport]
    simp only [hempty, Bool.false_and, Bool.false_eq_true, if_false, hdrop]
    rfl

/-- So they are at the beginning of what stands behind the slashes of a URL. -/
theorem parseHierarchical_written {rest : List Char} (hrest : EndsAuthority rest) :
    parseHierarchical kind scheme (host ++ portText scheme port ++ rest) =
      .ok {
        scheme := scheme
        host := some (String.ofList host)
        port := keptPort? scheme port
        path := String.ofList (hierarchicalPath kind (splitQuery rest).1)
        query := (splitQuery rest).2.map fun q => String.ofList (queryText kind q) } := by
  have hplain : ∀ c ∈ host ++ portText scheme port, isPlain c = true :=
    fun c hc => isPlain_of_mem_authority hhost hc
  have hauthority : authorityOf kind (host ++ portText scheme port ++ rest)
      = host ++ portText scheme port := authorityOf_append hplain hrest
  simp only [parseHierarchical, authorityOf_eq, hauthority]
  simp only [parseAuthority_written hhost hport, splitQuery_append hplain, bind,
    Except.bind, List.nil_append, List.drop_left]
  rfl

omit hport in
/-- They stand behind the slashes behind a scheme. -/
theorem parseChars_written (hscheme : IsScheme scheme.toList)
    (hkind : SchemeKind.ofScheme scheme.toList = kind) (hfile : kind ≠ .file)
    (rest : List Char) :
    parseChars (scheme.toList ++ [':', '/', '/'] ++ (host ++ portText scheme port) ++ rest) =
      parseHierarchical kind scheme (host ++ portText scheme port ++ rest) := by
  have hslashes : (['/', '/'] ++ (host ++ portText scheme port ++ rest)).dropWhile
      (fun c => c == '/' || c == '\\') = host ++ portText scheme port ++ rest := by
    obtain ⟨c, cs, rfl⟩ := List.exists_cons_of_ne_nil hhost.nonempty
    have hauthority := inAuthority_of_isPlain (hhost.plain c List.mem_cons_self) .web
    have hc : (c == '/' || c == '\\') = false := by
      simp only [inAuthority, Bool.and_eq_true, bne_iff_ne, Bool.not_eq_true'] at hauthority
      simpa [SchemeKind.isSpecial] using hauthority.imp (·.2) id
    simp [hc]
  have hsplit := hscheme.splitScheme (['/', '/'] ++ (host ++ portText scheme port ++ rest))
  simp only [List.append_assoc, List.cons_append, List.nil_append] at hsplit hslashes ⊢
  simp only [parseChars, hsplit, hkind, String.ofList_toList]
  cases kind with
  | file => exact absurd rfl hfile
  | web => simp only [hslashes]
  | other => rfl

end Reread

-- ================================================================== cleaning

/-- What is left of a text when its end is cleaned. -/
def cleanEnd (cs : List Char) : List Char :=
  (Text.dropEndWhile isEdge (Text.dropEndWhile Text.isBlank cs)).filter (!isIgnored ·)

/-- A character that is never cleaned away. -/
def IsFirm (c : Char) : Prop := Text.isBlank c = false ∧ isEdge c = false ∧ isIgnored c = false

theorem isFirm_of_isPlain {c : Char} (h : isPlain c = true) : IsFirm c := by
  have hascii : isAscii c = true := by
    simp only [isPlain, Bool.and_eq_true, decide_eq_true_eq] at h
    exact decide_eq_true (by omega)
  have hall := forall_isAscii
    (p := fun c => !isPlain c || (!Text.isBlank c && !isEdge c && !isIgnored c))
    (by decide +kernel) hascii
  simpa [h, IsFirm, and_assoc] using hall

theorem dropEndWhile_append {p : Char → Bool} {cs : List Char} (h : ∀ c ∈ cs, p c = false)
    (rest : List Char) : Text.dropEndWhile p (cs ++ rest) = cs ++ Text.dropEndWhile p rest := by
  have hkept : Text.dropEndWhile p cs = cs :=
    dropEndWhile_eq_self fun c hc => h c (List.mem_of_getLast? hc)
  unfold Text.dropEndWhile at hkept ⊢
  rw [List.reverse_append, List.dropWhile_append]
  split_ifs with hempty
  · rw [hkept, List.isEmpty_iff.mp hempty, List.reverse_nil, List.append_nil]
  · rw [List.reverse_append, List.reverse_reverse]

/-- The parser looks at a slash that a text begins with. -/
theorem exists_significant_slash {s : String} {cs : List Char} (h : s.toList = '/' :: cs) :
    ∃ rest, significant s = '/' :: rest := by
  have hstrip : significant s
      = (Text.dropEndWhile isEdge (s.toList.dropWhile isEdge)).filter (!isIgnored ·) := rfl
  have hslash := dropEndWhile_append (List.forall_mem_singleton.mpr (rfl : isEdge '/' = false)) cs
  rw [hstrip, h, List.dropWhile_cons_of_neg (by decide), ← List.singleton_append, hslash]
  exact ⟨_, List.filter_cons_of_pos (by decide)⟩

/-- Firm characters stay, whatever is cleaned away behind them. -/
theorem cleanEnd_append {cs : List Char} (h : ∀ c ∈ cs, IsFirm c) (rest : List Char) :
    cleanEnd (cs ++ rest) = cs ++ cleanEnd rest := by
  have hkept : cs.filter (!isIgnored ·) = cs :=
    List.filter_eq_self.mpr fun c hc => by rw [(h c hc).2.2]; rfl
  rw [cleanEnd, dropEndWhile_append fun c hc => (h c hc).1,
    dropEndWhile_append fun c hc => (h c hc).2.1, List.filter_append, hkept, cleanEnd]

/-- A text that begins with a firm character is cleaned only at its end. -/
theorem clean_eq_cleanEnd {c : Char} (h : IsFirm c) (cs : List Char) :
    clean (c :: cs) = cleanEnd (c :: cs) := by
  obtain ⟨hblank, hedge, -⟩ := h
  have hcons : Text.dropEndWhile Text.isBlank (c :: cs) = c :: Text.dropEndWhile Text.isBlank cs :=
    dropEndWhile_append (by simpa using hblank : ∀ d ∈ [c], Text.isBlank d = false) cs
  simp [clean, cleanEnd, Text.strip, hcons, hblank, hedge]

end Url

-- =================================================================== origins

namespace Connection

open Url

/-- The characters of an origin. -/
theorem origin_toList (c : Connection) :
    c.origin.toList
      = c.scheme.toList ++ [':', '/', '/'] ++ (c.host.toList ++ portText c.scheme c.port) := by
  unfold origin portText
  split_ifs <;> simp

/-- A connection whose scheme, host and port are those of a URL. -/
structure IsSound (c : Connection) : Prop where
  scheme : IsScheme c.scheme.toList
  kind : SchemeKind.ofScheme c.scheme.toList ≠ .file
  host : IsWritten (SchemeKind.ofScheme c.scheme.toList) c.host.toList
  port : c.port ≤ 65535

/-- The connection of a URL is sound. -/
theorem ofUrl_sound {u : String} {c : Connection} (h : ofUrl u = .ok c) : c.IsSound := by
  have hsite : siteOf (parse (Text.trim u)) = some (c.scheme, c.host, c.port) := by
    unfold ofUrl at h
    split at h
    · exact nomatch h
    · next url hurl =>
      split at h
      · exact nomatch h
      · next host hhost =>
        split at h
        · exact nomatch h
        · next port hport =>
          obtain rfl := Except.ok.inj h
          simp [siteOf, hurl, Except.toOption, site?, hhost, hport]
  rw [parse_eq] at hsite
  obtain ⟨hscheme, hkind, hhost, hport⟩ := siteOf_sound hsite
  exact ⟨hscheme, hkind, hhost, hport⟩

theorem IsSound.isFirm {c : Connection} (h : c.IsSound) : ∀ d ∈ c.origin.toList, IsFirm d := by
  intro d hd
  rw [origin_toList, List.append_assoc] at hd
  rcases List.mem_append.mp hd with hd | hd
  · exact isFirm_of_isPlain (h.scheme.isPlain hd)
  · rcases List.mem_append.mp hd with hd | hd
    · have hfirm : d = ':' ∨ d = '/' := by simpa using hd
      rcases hfirm with rfl | rfl <;> exact ⟨rfl, rfl, rfl⟩
    · exact isFirm_of_isPlain (isPlain_of_mem_authority h.host hd)

/-- A tail of an origin still ends it when it was cleaned. -/
theorem endsAuthority_cleanEnd {tail : String} (h : IsBehindOrigin tail) :
    EndsAuthority (cleanEnd tail.toList) := by
  have hcons : ∀ {d : Char} (rest : String), IsFirm d → (∀ kind, inAuthority kind d = false) →
      EndsAuthority (cleanEnd (d :: rest.toList)) := by
    intro d rest hfirm hends c hc
    have hclean := cleanEnd_append (by simpa using hfirm : ∀ e ∈ [d], IsFirm e) rest.toList
    simp only [List.singleton_append] at hclean
    rw [hclean] at hc
    rwa [← Option.some.inj hc]
  obtain rfl | ⟨rest, rfl⟩ | ⟨rest, rfl⟩ := h
  · exact fun c hc => nomatch hc
  · rw [String.toList_append]
    exact hcons rest ⟨rfl, rfl, rfl⟩ fun _ => rfl
  · rw [String.toList_append]
    exact hcons rest ⟨rfl, rfl, rfl⟩ fun _ => rfl

/-- The port of the URLs that begin with the origin of a connection. -/
def rereadPort? (c : Connection) : Option Nat :=
  if c.port == impliedPort c.scheme then defaultPort c.scheme else some c.port

theorem keptPort?_or_defaultPort (c : Connection) :
    (keptPort? c.scheme c.port).or (defaultPort c.scheme) = c.rereadPort? := by
  unfold keptPort? rereadPort?
  dsimp only
  split_ifs with himplied hdefault hdefault
  · rw [Option.none_or]
  · rw [Option.none_or]
  · rw [Option.none_or, ← beq_iff_eq.mp hdefault]
  · rfl

theorem defaultPort_ne_zero (scheme : String) : defaultPort scheme ≠ some 0 := by
  unfold defaultPort
  split_ifs <;> decide

/-- The port of a connection is that of the URLs with its origin, unless it was left
out where the scheme implies another port or none. -/
theorem rereadPort?_eq_some_iff {c : Connection} :
    c.rereadPort? = some c.port ↔ c.port ≠ 0 ∨ IsHttp c.scheme := by
  unfold rereadPort?
  by_cases hhttp : IsHttp c.scheme
  · have hdefault : defaultPort c.scheme = some (impliedPort c.scheme) := by
      rcases hhttp with heq | heq <;> rw [heq] <;> rfl
    simp only [hhttp, or_true, iff_true]
    split_ifs with himplied
    · rw [hdefault, beq_iff_eq.mp himplied]
    · rfl
  · have hzero : impliedPort c.scheme = 0 := by
      simp only [IsHttp, not_or] at hhttp
      simp [impliedPort, hhttp]
    rw [hzero]
    split_ifs with himplied
    · have hport : c.port = 0 := beq_iff_eq.mp himplied
      simp [hport, hhttp, defaultPort_ne_zero]
    · simpa [hhttp] using himplied

/-- The connection of a URL that begins with an origin has the scheme and the host of
the origin, and its port if that is not left out. -/
theorem ofUrl_origin {c : Connection} (h : c.IsSound) {tail : String}
    (htail : IsBehindOrigin tail) :
    ofUrl (c.origin ++ tail) = match c.rereadPort? with
      | none => .error (.configuration (.urlWithoutPort (c.origin ++ tail)))
      | some port => .ok { c with
        port := port
        pathPrefix := Text.trimEndSlashes (String.ofList (hierarchicalPath
          (SchemeKind.ofScheme c.scheme.toList) (splitQuery (cleanEnd tail.toList)).1)) } := by
  have hclean : clean (c.origin ++ tail).toList = c.origin.toList ++ cleanEnd tail.toList := by
    have hne : c.origin.toList ≠ [] := by simp [origin_toList]
    rw [String.toList_append, ← cleanEnd_append h.isFirm]
    obtain ⟨d, ds, horigin⟩ := List.exists_cons_of_ne_nil hne
    rw [horigin, List.cons_append]
    exact clean_eq_cleanEnd (h.isFirm d (by simp [horigin])) _
  have hparse : parse (Text.trim (c.origin ++ tail))
      = parseHierarchical (SchemeKind.ofScheme c.scheme.toList) c.scheme
          (c.host.toList ++ portText c.scheme c.port ++ cleanEnd tail.toList) := by
    rw [parse_eq, significant_trim, hclean, origin_toList,
      parseChars_written h.host h.scheme rfl h.kind]
  rw [ofUrl, hparse, parseHierarchical_written h.host h.port (endsAuthority_cleanEnd htail)]
  have hport := keptPort?_or_defaultPort c
  cases hreread : c.rereadPort? <;>
    simp only [hreread, effectivePort?, hport, String.ofList_toList]

/-- An action with a slash in front is no URL of its own, so it stands behind the path
of the connection. -/
theorem target_of_slash (c : Connection) {action : String}
    (h : Text.startsWith action "/" = true) : c.target action = c.pathPrefix ++ action := by
  have hrelative : absoluteTarget? action = none := by
    obtain ⟨rest, hrest⟩ := List.isPrefixOf_iff_prefix.mp h
    obtain ⟨cs, hcs⟩ := exists_significant_slash hrest.symm
    have hparse : parse action = .error .relative := by
      rw [parse_eq, hcs]
      rfl
    rw [absoluteTarget?, hparse]
  have hempty : ¬action.isEmpty = true := by
    intro hnil
    rw [String.isEmpty_iff.mp hnil] at h
    exact absurd h (by decide)
  rw [target, hrelative]
  simp only [if_neg hempty, if_pos h]

/-- The interface of the one service below an origin is on the origin's site. -/
theorem ofUrl_origin_api {c : Connection} (h : c.IsSound) (hhttp : IsHttp c.scheme) :
    ofUrl (c.origin ++ "/api") = .ok { c with pathPrefix := "/api" } := by
  have hport : c.rereadPort? = some c.port := rereadPort?_eq_some_iff.mpr (.inr hhttp)
  have hkind : SchemeKind.ofScheme c.scheme.toList = .web := by
    rcases hhttp with heq | heq <;> rw [heq] <;> rfl
  have hpath : Text.trimEndSlashes
      (String.ofList (hierarchicalPath .web (splitQuery (cleanEnd "/api".toList)).1)) = "/api" := by
    decide +kernel
  have hrooted : IsBehindOrigin "/api" := .inr (.inl ⟨"api", rfl⟩)
  rw [ofUrl_origin h hrooted, hport, hkind]
  simp only [hpath]

end Connection
end CloudSession
