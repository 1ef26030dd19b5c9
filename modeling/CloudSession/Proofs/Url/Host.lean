/-
Hosts as the parser writes them. A host is in a form that is read as itself. Of a
web scheme it is the name of a domain, in ASCII and in lower case, and what its
labels stand for was looked at (`asciiName?_reread`), or an address, which is
written from its number. Of any other scheme it is a text in which nothing is left
to encode (`opaque_of_mem`). And none of the host's characters separates anything
in a URL or is dropped from one, so that it is found again where it is written
(`IsWritten.of_readHost`).
-/
import CloudSession.Proofs.Text.Utf8
import CloudSession.Proofs.Url.Address
import CloudSession.Url.Basic

namespace CloudSession.Url

-- ================================================================ characters

/-- A character that an authority can hold behind its `@`: visible ASCII that
separates nothing. -/
def isPlain (c : Char) : Bool :=
  0x20 < c.toNat && c.toNat < 0x7F && !(c ∈ ['#', '/', '?', '@', '\\'])

/-- What holds of 128 characters holds of all in ASCII. -/
theorem forall_isAscii {p : Char → Bool} (h : ∀ n : Fin 128, p (Char.ofNat n) = true) {c : Char}
    (hc : isAscii c = true) : p c = true := by
  have hp := h ⟨c.toNat, of_decide_eq_true hc⟩
  rwa [Char.ofNat_toNat] at hp

theorem isAscii_of_isDigit {c : Char} (h : c.isDigit = true) : isAscii c = true := by
  simp only [Char.isDigit, Bool.and_eq_true, decide_eq_true_eq] at h
  have hle : c.toNat ≤ 57 := h.2
  exact decide_eq_true (by omega)

/-- A character that a domain name can hold is plain. -/
theorem isPlain_of_not_isDenied {c : Char} (hdenied : isDenied c = false)
    (hascii : isAscii c = true) : isPlain c = true := by
  have hall := forall_isAscii (p := fun c => isDenied c || isPlain c) (by decide +kernel) hascii
  simpa only [hdenied, Bool.false_or] using hall

/-- So is one that a host of a scheme without rules of its own can hold. -/
theorem isPlain_of_opaque {c : Char} (hforbidden : isForbiddenInOpaque c = false)
    (hset : inControlSet c = false) : isPlain c = true := by
  have hascii : isAscii c = true := by
    simp only [inControlSet, Bool.or_eq_false_iff, decide_eq_false_iff_not] at hset
    exact decide_eq_true (by omega)
  have hall := forall_isAscii (p := fun c => isForbiddenInOpaque c || inControlSet c || isPlain c)
    (by decide +kernel) hascii
  simpa only [hforbidden, hset, Bool.false_or] using hall

theorem isDenied_of_isDigit {c : Char} (h : c.isDigit = true) : isDenied c = false := by
  have hall := forall_isAscii (p := fun c => !c.isDigit || !isDenied c) (by decide +kernel)
    (isAscii_of_isDigit h)
  simpa only [h, Bool.not_true, Bool.false_or, Bool.not_eq_true'] using hall

theorem toLower_of_isDigit {c : Char} (h : c.isDigit = true) : c.toLower = c := by
  have hall := forall_isAscii (p := fun c => !c.isDigit || c.toLower == c) (by decide +kernel)
    (isAscii_of_isDigit h)
  simpa only [h, Bool.not_true, Bool.false_or, beq_iff_eq] using hall

theorem toLower_toLower (c : Char) : c.toLower.toLower = c.toLower := by
  by_cases hascii : isAscii c = true
  · exact beq_iff_eq.mp
      (forall_isAscii (p := fun c => c.toLower.toLower == c.toLower) (by decide +kernel) hascii)
  · have hkept : c.toLower = c := by
      refine dif_neg fun hupper => hascii (decide_eq_true ?_)
      have hle : c.toNat ≤ 90 := hupper.2
      omega
    rw [hkept, hkept]

-- ==================================================================== names

/-- A text without a percent sign is decoded to its own bytes. -/
theorem percentDecode_of_notMem {cs : List Char} (h : '%' ∉ cs) :
    percentDecode cs = cs.flatMap String.utf8EncodeChar := by
  induction cs with
  | nil => rfl
  | cons c cs ih =>
    rw [List.mem_cons, not_or] at h
    obtain ⟨hc, hcs⟩ := h
    rw [percentDecode.eq_3 c cs (fun _ _ _ hpercent _ => hc hpercent.symm), ih hcs,
      List.flatMap_cons]

/-- A readable name in ASCII has only characters that names may hold, and is
read as itself. -/
theorem asciiName?_reread {name host : List Char} (h : asciiName? name = some host) :
    (∀ c ∈ host, isDenied c = false ∧ isAscii c = true) ∧ asciiName? host = some host := by
  have hlower : (name.map Char.toLower).map Char.toLower = name.map Char.toLower := by
    rw [List.map_map]
    exact List.map_congr_left fun c _ => toLower_toLower c
  obtain rfl : name.map Char.toLower = host := by
    unfold asciiName? at h
    dsimp only at h
    split_ifs at h
    split at h
    · exact nomatch h
    · split_ifs at h
      exact Option.some.inj h
  refine ⟨fun c hc => ?_, by rw [← h, asciiName?, asciiName?, hlower]⟩
  unfold asciiName? at h
  dsimp only at h
  split_ifs at h with hany
  have hnone := List.any_eq_false.mp (Bool.eq_false_iff.mpr hany) c hc
  simpa using hnone

/-- So is one that was brought into ASCII. -/
theorem domain?_reread {bytes : List UInt8} {host : List Char} (h : domain? bytes = some host) :
    (∀ c ∈ host, isDenied c = false ∧ isAscii c = true) ∧ asciiName? host = some host := by
  unfold domain? at h
  split at h
  · exact nomatch h
  · split_ifs at h
    · exact asciiName?_reread h
    · obtain ⟨name, -, hname⟩ := Option.bind_eq_some_iff.mp h
      exact asciiName?_reread hname

/-- A readable name in ASCII is a domain as it is written. -/
theorem domain?_percentDecode {name : List Char}
    (hname : ∀ c ∈ name, isDenied c = false ∧ isAscii c = true)
    (hread : asciiName? name = some name) : domain? (percentDecode name) = some name := by
  have hpercent : '%' ∉ name := fun hc => absurd (hname '%' hc).1 (by decide)
  have hascii : name.all isAscii = true := List.all_eq_true.mpr fun c hc => (hname c hc).2
  rw [domain?, percentDecode_of_notMem hpercent, Text.Utf8.decode_flatMap,
    Text.Utf8.mapM_id_map_some]
  simp only [hascii, if_true, hread]

theorem turns_of_isAscii {label : List Char} (h : ∀ c ∈ label, isAscii c = true) :
    turns label = false := by
  refine List.any_eq_false.mpr fun c hc => ?_
  have hlt : c.toNat < 0x80 := of_decide_eq_true (h c hc)
  unfold Text.Direction.ofChar
  simp only [hlt, if_true]
  split_ifs <;> decide

theorem labelText?_of_allDigits {label : List Char} (h : Text.AllDigits label) :
    labelText? label = some label := by
  refine if_neg fun hmark => ?_
  have hletter : 'x' ∈ label := (List.isPrefixOf_iff_prefix.mp hmark).subset (by decide)
  exact absurd (h 'x' hletter) (by decide)

/-- What stands in a written address. -/
theorem mem_writeAddress4 {n : Nat} {c : Char} (h : c ∈ writeAddress4 n) :
    c = '.' ∨ c.isDigit = true := by
  refine Text.forall_mem_join (p := fun c => c = '.' ∨ c.isDigit = true)
    (fun c hc => .inl (List.mem_singleton.mp hc)) (fun piece hpiece c hc => ?_) c h
  obtain ⟨b, -, rfl⟩ := List.mem_map.mp hpiece
  exact .inr (Text.allDigits_toDigits b c hc)

theorem writeAddress4_ne_nil (n : Nat) : writeAddress4 n ≠ [] := by
  simp [writeAddress4, Text.join]

/-- A written address is a readable name. -/
theorem asciiName?_writeAddress4 (n : Nat) :
    (∀ c ∈ writeAddress4 n, isDenied c = false ∧ isAscii c = true) ∧
      asciiName? (writeAddress4 n) = some (writeAddress4 n) := by
  have hclean : ∀ c ∈ writeAddress4 n, isDenied c = false ∧ isAscii c = true := by
    intro c hc
    rcases mem_writeAddress4 hc with rfl | hdigit
    · decide
    · exact ⟨isDenied_of_isDigit hdigit, isAscii_of_isDigit hdigit⟩
  have hlower : (writeAddress4 n).map Char.toLower = writeAddress4 n := by
    rw [List.map_congr_left (g := id) fun c hc => ?_, List.map_id]
    rcases mem_writeAddress4 hc with rfl | hdigit
    · decide
    · exact toLower_of_isDigit hdigit
  have hany : ¬((writeAddress4 n).any fun c => isDenied c || !isAscii c) = true := by
    rw [Bool.not_eq_true, List.any_eq_false]
    intro c hc
    simp [hclean c hc]
  have hlabel : ∀ b, labelText? (Nat.toDigits 10 b) = some (Nat.toDigits 10 b) :=
    fun b => labelText?_of_allDigits (Text.allDigits_toDigits b)
  have hlabels : ((bytes4 n).map (Nat.toDigits 10)).mapM labelText?
      = some ((bytes4 n).map (Nat.toDigits 10)) := by
    simp only [bytes4, List.map_cons, List.map_nil, List.mapM_cons, List.mapM_nil, hlabel]
    rfl
  have hturns : ((bytes4 n).map (Nat.toDigits 10)).any turns = false := by
    rw [List.any_eq_false]
    intro label hlabel
    obtain ⟨b, -, rfl⟩ := List.mem_map.mp hlabel
    rw [turns_of_isAscii fun c hc => isAscii_of_isDigit (Text.allDigits_toDigits b c hc)]
    exact Bool.false_ne_true
  refine ⟨hclean, ?_⟩
  rw [asciiName?, hlower]
  simp only [if_neg hany, splitAll_writeAddress4, hlabels, hturns, Bool.false_and,
    Bool.false_eq_true, if_false]

-- ============================================================= encoded texts

/-- What stands in an encoded text: what was kept of it, and codes. -/
theorem mem_percentEncode {set : Char → Bool} {cs : List Char} {c : Char}
    (h : c ∈ percentEncode set cs) :
    (c ∈ cs ∧ set c = false) ∨ c = '%' ∨ ∃ n : Fin 16, c = Text.Hex.upperDigit n := by
  obtain ⟨d, hd, hc⟩ := List.mem_flatMap.mp h
  split_ifs at hc with hset
  · obtain ⟨b, -, hb⟩ := List.mem_flatMap.mp hc
    have hlt := b.toNat_lt
    simp only [List.mem_cons, List.not_mem_nil, or_false] at hb
    rcases hb with hpercent | hhigh | hlow
    · exact .inr (.inl hpercent)
    · exact .inr (.inr ⟨⟨b.toNat / 16, by omega⟩, hhigh⟩)
    · exact .inr (.inr ⟨⟨b.toNat % 16, Nat.mod_lt _ (by decide)⟩, hlow⟩)
  · obtain rfl := List.mem_singleton.mp hc
    exact .inl ⟨hd, Bool.not_eq_true _ ▸ hset⟩

theorem percentEncode_eq_self {set : Char → Bool} {cs : List Char}
    (h : ∀ c ∈ cs, set c = false) : percentEncode set cs = cs := by
  induction cs with
  | nil => rfl
  | cons c cs ih =>
    obtain ⟨hc, hcs⟩ := List.forall_mem_cons.mp h
    rw [percentEncode, List.flatMap_cons, hc, ← percentEncode, ih hcs]
    rfl

/-- A host that is kept as written holds nothing that is forbidden in it or is still
to be encoded. -/
theorem opaque_of_mem {cs : List Char} (h : cs.any isForbiddenInOpaque = false) {c : Char}
    (hc : c ∈ percentEncode inControlSet cs) :
    isForbiddenInOpaque c = false ∧ inControlSet c = false := by
  have hdigits : ∀ n : Fin 16, isForbiddenInOpaque (Text.Hex.upperDigit n) = false ∧
      inControlSet (Text.Hex.upperDigit n) = false := by decide
  rcases mem_percentEncode hc with ⟨hmem, hset⟩ | rfl | ⟨n, rfl⟩
  · exact ⟨by simpa using List.any_eq_false.mp h c hmem, hset⟩
  · exact ⟨by decide, by decide⟩
  · exact hdigits n

-- ===================================================================== spans

/-- A host without colons and brackets is not cut. -/
theorem hostSpan_append {host : List Char} (h : ∀ c ∈ host, c ∉ [':', '[', ']'])
    (rest : List Char) :
    hostSpan false (host ++ rest) = (host ++ (hostSpan false rest).1, (hostSpan false rest).2) := by
  induction host with
  | nil => simp
  | cons c cs ih =>
    obtain ⟨hc, hcs⟩ := List.forall_mem_cons.mp h
    simp only [List.mem_cons, List.not_mem_nil, or_false, not_or] at hc
    simp [hostSpan, hc, ih hcs]

/-- Nor is one in brackets. -/
theorem hostSpan_bracketed {inner : List Char} (h : ']' ∉ inner) (rest : List Char) :
    hostSpan false ('[' :: inner ++ [']'] ++ rest)
      = ('[' :: inner ++ [']'] ++ (hostSpan false rest).1, (hostSpan false rest).2) := by
  have hinside : hostSpan true (inner ++ ']' :: rest)
      = (inner ++ ']' :: (hostSpan false rest).1, (hostSpan false rest).2) := by
    induction inner with
    | nil => simp [hostSpan]
    | cons c cs ih =>
      rw [List.mem_cons, not_or] at h
      obtain ⟨hc, hcs⟩ := h
      simp [hostSpan, Ne.symm hc, ih hcs]
  simp [hostSpan, hinside]

-- ===================================================================== hosts

/-- The host that schemes of a kind read. -/
def readHost (kind : SchemeKind) (cs : List Char) : Except Fault (List Char) :=
  if kind.isSpecial then webHost cs else opaqueHost cs

/-- A host in the form in which the parser writes it. -/
structure IsWritten (kind : SchemeKind) (host : List Char) : Prop where
  nonempty : host ≠ []
  /-- It is read as itself. -/
  reread : readHost kind host = .ok host
  plain : ∀ c ∈ host, isPlain c = true
  /-- It is not cut, whatever stands behind it. -/
  whole : ∀ rest,
    hostSpan false (host ++ rest) = (host ++ (hostSpan false rest).1, (hostSpan false rest).2)

theorem bracketed?_eq_none {cs : List Char} (h : '[' ∉ cs) : bracketed? cs = none := by
  unfold bracketed?
  split
  · next rest => exact absurd List.mem_cons_self h
  · rfl

section Written

variable {kind : SchemeKind}

/-- The name of a domain is written. -/
theorem isWritten_name (hkind : kind.isSpecial = true) {name : List Char} (hne : name ≠ [])
    (hname : ∀ c ∈ name, isDenied c = false ∧ isAscii c = true)
    (hread : asciiName? name = some name)
    (haddress : endsInNumber name = true → ∃ n < 2 ^ 32, name = writeAddress4 n) :
    IsWritten kind name where
  nonempty := hne
  reread := by
    have hbracket : bracketed? name = none :=
      bracketed?_eq_none fun hmem => absurd (hname '[' hmem).1 (by decide)
    rw [readHost, if_pos hkind, webHost, hbracket]
    simp only [domain?_percentDecode hname hread]
    obtain ⟨c, cs, rfl⟩ := List.exists_cons_of_ne_nil hne
    split_ifs with hnumber
    · obtain ⟨n, hn, heq⟩ := haddress hnumber
      simp only [heq, parseAddress4?_write hn]
    · rfl
  plain c hc := isPlain_of_not_isDenied (hname c hc).1 (hname c hc).2
  whole := hostSpan_append fun c hc hmem => by
    have hdenied : [':', '[', ']'].all isDenied = true := by decide
    exact absurd (List.all_eq_true.mp hdenied c hmem) (by simp [hname c hc])

/-- A text that is kept as a host is written. -/
theorem isWritten_opaque (hkind : kind.isSpecial = false) {cs : List Char}
    (h : cs.any isForbiddenInOpaque = false) (hne : percentEncode inControlSet cs ≠ []) :
    IsWritten kind (percentEncode inControlSet cs) where
  nonempty := hne
  reread := by
    have hbracket : bracketed? (percentEncode inControlSet cs) = none :=
      bracketed?_eq_none fun hmem => absurd (opaque_of_mem h hmem).1 (by decide)
    have hallowed : ¬(percentEncode inControlSet cs).any isForbiddenInOpaque = true := by
      rw [Bool.not_eq_true, List.any_eq_false]
      exact fun c hc => by simp [opaque_of_mem h hc]
    rw [readHost, if_neg (by simp [hkind]), opaqueHost, hbracket]
    simp only [if_neg hallowed, percentEncode_eq_self fun c hc => (opaque_of_mem h hc).2]
  plain c hc := isPlain_of_opaque (opaque_of_mem h hc).1 (opaque_of_mem h hc).2
  whole := hostSpan_append fun c hc hmem => by
    have hforbidden : [':', '[', ']'].all isForbiddenInOpaque = true := by decide
    exact absurd (List.all_eq_true.mp hforbidden c hmem) (by simp [opaque_of_mem h hc])

/-- An address in brackets is written, whatever the scheme. -/
theorem isWritten_of_bracketed? {cs host : List Char} (h : bracketed? cs = some (.ok host)) :
    IsWritten kind host := by
  unfold bracketed? at h
  split at h
  · replace h := Option.some.inj h
    split at h
    · split at h
      · next gs hgs =>
        obtain rfl := Except.ok.inj h
        obtain ⟨hlength, hrange⟩ := parseAddress6?_areGroups hgs
        have hbracketed : bracketed? ('[' :: writeAddress6 gs ++ [']'])
            = some (.ok ('[' :: writeAddress6 gs ++ [']'])) := by
          simp [bracketed?, parseAddress6?_write hlength hrange]
        refine ⟨List.cons_ne_nil _ _, ?_, fun c hc => ?_, hostSpan_bracketed fun hc => ?_⟩
        · rw [readHost, webHost, opaqueHost, hbracketed]
          exact ite_self _
        · rcases List.mem_append.mp hc with hc | hc
          · rcases List.mem_cons.mp hc with rfl | hc
            · decide
            · exact forall_mem_writeAddress6 (p := (isPlain · = true)) (by decide) (by decide) gs
                c hc
          · rw [List.mem_singleton.mp hc]
            decide
        · exact forall_mem_writeAddress6 (p := (· ≠ ']')) (by decide) (by decide) gs ']' hc rfl
      · exact nomatch h
    · exact nomatch h
  · exact nomatch h

theorem IsWritten.of_webHost (hkind : kind.isSpecial = true) {cs host : List Char}
    (h : webHost cs = .ok host) : IsWritten kind host := by
  unfold webHost at h
  split at h
  · next bracketed hbracketed =>
    subst h
    exact isWritten_of_bracketed? hbracketed
  · split at h
    · exact nomatch h
    · exact nomatch h
    · next name hempty hname =>
      obtain ⟨hclean, hread⟩ := domain?_reread hname
      split_ifs at h with hnumber
      · split at h
        · next n hn =>
          obtain rfl := Except.ok.inj h
          obtain ⟨hclean, hread⟩ := asciiName?_writeAddress4 n
          exact isWritten_name hkind (writeAddress4_ne_nil n) hclean hread
            fun _ => ⟨n, parseAddress4?_lt hn, rfl⟩
        · exact nomatch h
      · obtain rfl := Except.ok.inj h
        exact isWritten_name hkind (fun hnil => hempty (by rw [hnil])) hclean hread
          fun hyes => absurd hyes hnumber

theorem IsWritten.of_opaqueHost (hkind : kind.isSpecial = false) {cs host : List Char}
    (h : opaqueHost cs = .ok host) (hne : host ≠ []) : IsWritten kind host := by
  unfold opaqueHost at h
  split at h
  · next bracketed hbracketed =>
    subst h
    exact isWritten_of_bracketed? hbracketed
  · split_ifs at h with hforbidden
    obtain rfl := Except.ok.inj h
    exact isWritten_opaque hkind (Bool.not_eq_true _ ▸ hforbidden) hne

/-- A host that was read is written. -/
theorem IsWritten.of_readHost {cs host : List Char} (h : readHost kind cs = .ok host)
    (hne : host ≠ []) : IsWritten kind host := by
  unfold readHost at h
  split_ifs at h with hkind
  · exact .of_webHost hkind h
  · exact .of_opaqueHost (Bool.not_eq_true _ ▸ hkind) h hne

end Written

end CloudSession.Url
