/-
Numeric hosts are read as the addresses that they were written from. The four
bytes of a version 4 address are each read as themselves
(`parseAddress4?_write`). Of version 6 the groups on both sides of the
abbreviated zeros are, and these zeros are all that is missing
(`parseAddress6?_write`). What is read is always in range
(`parseAddress4?_lt`, `parseAddress6?_areGroups`), so it can be written.
-/
import CloudSession.Proofs.Text.Digits
import CloudSession.Proofs.Text.Hex
import CloudSession.Proofs.Text.Part
import CloudSession.Url.Address
import Mathlib.Data.List.TakeWhile
import Mathlib.Tactic.SplitIfs

namespace CloudSession.Url

-- ================================================================ version 4

/-- The bytes of a version 4 address, the high one first. -/
def bytes4 (n : Nat) : List Nat := [n / 0x1000000, n / 0x10000 % 256, n / 0x100 % 256, n % 256]

theorem part4?_toDigits {n : Nat} (h : n < 256) : part4? (Nat.toDigits 10 n) = some n := by
  have hall : ∀ k : Fin 256, part4? (Nat.toDigits 10 k.val) = some k.val := by decide +kernel
  exact hall ⟨n, h⟩

theorem bytes4_lt {n : Nat} (h : n < 2 ^ 32) : ∀ b ∈ bytes4 n, b < 256 := by
  intro b hb
  simp only [bytes4, List.mem_cons, List.not_mem_nil, or_false] at hb
  rcases hb with rfl | rfl | rfl | rfl <;> omega

theorem splitAll_writeAddress4 (n : Nat) :
    Text.splitAll '.' (writeAddress4 n) = (bytes4 n).map (Nat.toDigits 10) := by
  refine Text.splitAll_join (List.cons_ne_nil _ _) fun piece hpiece hdot => ?_
  obtain ⟨b, -, rfl⟩ := List.mem_map.mp hpiece
  exact absurd (Text.allDigits_toDigits b '.' hdot) (by decide)

/-- The parts of a written address are its bytes. -/
theorem dottedParts_writeAddress4 (n : Nat) :
    dottedParts (writeAddress4 n) = (bytes4 n).map (Nat.toDigits 10) := by
  have hlast : ¬(((bytes4 n).map (Nat.toDigits 10)).getLast? == some []) = true := by
    simp [bytes4]
  unfold dottedParts
  rw [splitAll_writeAddress4, if_neg (fun h => hlast (Bool.and_eq_true_iff.mp h).2)]

/-- A written address is read as itself. -/
theorem parseAddress4?_write {n : Nat} (h : n < 2 ^ 32) :
    parseAddress4? (writeAddress4 n) = some n := by
  have hparts : ((bytes4 n).map (Nat.toDigits 10)).mapM part4? = some (bytes4 n) := by
    have hread : ∀ b ∈ bytes4 n, part4? (Nat.toDigits 10 b) = some b :=
      fun b hb => part4?_toDigits (bytes4_lt h b hb)
    simp only [bytes4, List.forall_mem_cons] at hread
    obtain ⟨hfirst, hsecond, hthird, hfourth, -⟩ := hread
    simp only [bytes4, List.map_cons, List.map_nil, List.mapM_cons, List.mapM_nil, hfirst,
      hsecond, hthird, hfourth]
    rfl
  rw [parseAddress4?, dottedParts_writeAddress4, hparts, Option.bind_some]
  simp [address4?, bytes4]
  omega

theorem address4?_append (firsts : List Nat) (last : Nat) :
    address4? (firsts ++ [last]) =
      if 4 < firsts.length + 1 ∨ 256 ^ (4 - firsts.length) ≤ last ∨ ∃ b ∈ firsts, 255 < b then none
      else some (firsts.zipIdx.foldl (fun n p => n + p.1 * 256 ^ (3 - p.2)) last) := by
  simp [address4?, or_assoc]

/-- Bytes behind the first `k`, and what fills the room that they leave, fit in
the room behind these `k`. -/
theorem foldl_bytes_lt {firsts : List Nat} {k last : Nat} (hbytes : ∀ b ∈ firsts, b ≤ 255)
    (hk : k + firsts.length ≤ 3) (hlast : last < 256 ^ (4 - (k + firsts.length))) :
    (firsts.zipIdx k).foldl (fun n p => n + p.1 * 256 ^ (3 - p.2)) last < 256 ^ (4 - k) := by
  -- What the sum begins with is only added to it, so the first byte can be taken out.
  have hadd : ∀ (pairs : List (Nat × Nat)) (m n : Nat),
      pairs.foldl (fun n p => n + p.1 * 256 ^ (3 - p.2)) (m + n)
        = pairs.foldl (fun n p => n + p.1 * 256 ^ (3 - p.2)) m + n := by
    intro pairs
    induction pairs with
    | nil => exact fun m n => rfl
    | cons pair pairs ih =>
      intro m n
      rw [List.foldl_cons, List.foldl_cons, Nat.add_right_comm, ih]
  induction firsts generalizing k with
  | nil => simpa using hlast
  | cons b bs ih =>
    obtain ⟨hb, hbs⟩ := List.forall_mem_cons.mp hbytes
    rw [List.length_cons] at hk hlast
    have hrest := ih hbs (k := k + 1) (by omega) (by rwa [Nat.add_assoc, Nat.add_comm 1])
    have hroom : 256 ^ (4 - k) = 256 * 256 ^ (3 - k) := by
      rw [← Nat.pow_succ', Nat.succ_eq_add_one, show 3 - k + 1 = 4 - k by omega]
    have hbyte : b * 256 ^ (3 - k) ≤ 255 * 256 ^ (3 - k) := Nat.mul_le_mul_right _ hb
    rw [show 4 - (k + 1) = 3 - k by omega] at hrest
    rw [List.zipIdx_cons, List.foldl_cons, hadd, hroom]
    calc _ < 256 ^ (3 - k) + 255 * 256 ^ (3 - k) := Nat.add_lt_add_of_lt_of_le hrest hbyte
      _ = 256 * 256 ^ (3 - k) := by omega

/-- What is read as an address fits in four bytes. -/
theorem address4?_lt {parts : List Nat} {n : Nat} (h : address4? parts = some n) : n < 2 ^ 32 := by
  rcases List.eq_nil_or_concat parts with rfl | ⟨firsts, last, rfl⟩
  · exact absurd h (by simp [address4?])
  · rw [List.concat_eq_append, address4?_append] at h
    split_ifs at h with hbad
    obtain rfl := Option.some.inj h
    simp only [not_or, not_exists, not_and, Nat.not_lt, Nat.not_le] at hbad
    obtain ⟨hlength, hlast, hbytes⟩ := hbad
    have hlt := foldl_bytes_lt (k := 0) hbytes (by omega) (by rwa [Nat.zero_add])
    exact hlt

theorem parseAddress4?_lt {cs : List Char} {n : Nat} (h : parseAddress4? cs = some n) :
    n < 2 ^ 32 := by
  obtain ⟨parts, -, hparts⟩ := Option.bind_eq_some_iff.mp h
  exact address4?_lt hparts

-- ================================================================== numerals

theorem numeral?_ofNat (n : Nat) : numeral? 16 (Text.Hex.ofNat n) = some n := by
  refine Text.Hex.foldl_ofNat some (fun m d hd => ?_) n
  simp only [Text.Hex.value?_digit hd, if_pos hd]

/-- The number of some digits with one more behind them. -/
def addDigit (base : Nat) (acc : Option Nat) (c : Char) : Option Nat :=
  acc.bind fun n => (Text.Hex.value? c).bind fun d =>
    if d < base then some (base * n + d) else none

theorem numeral?_eq (base : Nat) (cs : List Char) :
    numeral? base cs = cs.foldl (addDigit base) (some 0) := by
  unfold numeral?
  congr 1
  funext acc c
  cases acc with
  | none => rfl
  | some n =>
    rw [addDigit]
    cases Text.Hex.value? c <;> rfl

theorem foldl_addDigit_none (base : Nat) (cs : List Char) :
    cs.foldl (addDigit base) none = none := by
  induction cs with
  | nil => rfl
  | cons c cs ih => exact ih

/-- What is added to a number stays below its successor, moved up by as many places. -/
theorem foldl_addDigit_lt {base m n : Nat} {cs : List Char}
    (h : cs.foldl (addDigit base) (some m) = some n) : n < (m + 1) * base ^ cs.length := by
  induction cs generalizing m with
  | nil =>
    obtain rfl := Option.some.inj h
    simp
  | cons c cs ih =>
    rw [List.foldl_cons] at h
    cases hadd : addDigit base (some m) c with
    | none =>
      rw [hadd, foldl_addDigit_none] at h
      cases h
    | some k =>
      rw [hadd] at h
      -- The digit is one of the base, and `k` is what comes of it.
      rw [addDigit, Option.bind_some] at hadd
      obtain ⟨d, -, hd⟩ := Option.bind_eq_some_iff.mp hadd
      split_ifs at hd with hlow
      obtain rfl := Option.some.inj hd
      have hstep : base * m + d + 1 ≤ (m + 1) * base := by
        rw [Nat.add_one_mul, Nat.mul_comm]
        omega
      rw [List.length_cons, Nat.pow_succ', ← Nat.mul_assoc]
      exact Nat.lt_of_lt_of_le (ih h) (Nat.mul_le_mul_right _ hstep)

/-- A numeral denotes less than the power of its base to its length. -/
theorem numeral?_lt {base n : Nat} {cs : List Char} (h : numeral? base cs = some n) :
    n < base ^ cs.length := by
  have hlt := foldl_addDigit_lt (m := 0) ((numeral?_eq base cs).symm.trans h)
  rwa [Nat.zero_add, Nat.one_mul] at hlt

-- ================================================================ version 6

/-- Groups of a version 6 address: sixteen bits each. -/
def AreGroups (gs : List Nat) : Prop := ∀ g ∈ gs, g < 65536

theorem embedded4?_areGroups {cs : List Char} {gs : List Nat} (h : embedded4? cs = some gs) :
    AreGroups gs := by
  have hbyte : ∀ {cs : List Char} {b : Nat}, decimalByte? cs = some b → b ≤ 255 := by
    intro cs b hb
    unfold decimalByte? at hb
    split at hb
    · exact nomatch hb
    · exact nomatch hb
    · obtain ⟨n, -, hn⟩ := Option.bind_eq_some_iff.mp hb
      split_ifs at hn with hle
      obtain rfl := Option.some.inj hn
      exact hle
  unfold embedded4? at h
  split at h
  · split at h
    · next ha hb hc hd =>
      obtain rfl := Option.some.inj h
      have ha := hbyte ha
      have hb := hbyte hb
      have hc := hbyte hc
      have hd := hbyte hd
      intro g hg
      simp only [List.mem_cons, List.not_mem_nil, or_false] at hg
      rcases hg with rfl | rfl <;> omega
    · exact nomatch h
  · exact nomatch h

theorem groups?_areGroups {pieces : List (List Char)} {gs : List Nat}
    (h : groups? pieces = some gs) : AreGroups gs := by
  have hpiece : ∀ {piece : List Char} {g : Nat}, ¬(piece.isEmpty || 4 < piece.length) = true →
      numeral? 16 piece = some g → g < 65536 := by
    intro piece g hshort hg
    have hlength : piece.length ≤ 4 := by
      simp only [Bool.or_eq_true, decide_eq_true_eq, not_or, Nat.not_lt] at hshort
      exact hshort.2
    exact Nat.lt_of_lt_of_le (numeral?_lt hg) (Nat.pow_le_pow_right (by decide) hlength)
  fun_induction groups? pieces generalizing gs with
  | case1 =>
    obtain rfl := Option.some.inj h
    exact fun _ hg => nomatch hg
  | case2 piece hdot => exact embedded4?_areGroups h
  | case3 => exact nomatch h
  | case4 piece hdot hshort =>
    obtain ⟨g, hg, rfl⟩ := Option.map_eq_some_iff.mp h
    intro g' hg'
    rw [List.mem_singleton.mp hg']
    exact hpiece hshort hg
  | case5 => exact nomatch h
  | case6 piece rest _ hshort g gs' hrest hg ih =>
    obtain rfl := Option.some.inj h
    intro g' hg'
    rcases List.mem_cons.mp hg' with rfl | hg'
    · exact hpiece hshort hg
    · exact ih hrest g' hg'
  | case7 => exact nomatch h

theorem side?_areGroups {cs : List Char} {gs : List Nat} (h : side? cs = some gs) :
    AreGroups gs := by
  unfold side? at h
  split_ifs at h
  · obtain rfl := Option.some.inj h
    exact fun _ hg => nomatch hg
  · exact groups?_areGroups h

/-- What is read as an address has eight groups. -/
theorem parseAddress6?_areGroups {cs : List Char} {gs : List Nat}
    (h : parseAddress6? cs = some gs) : gs.length = 8 ∧ AreGroups gs := by
  unfold parseAddress6? at h
  split at h
  · obtain ⟨gs', hside, hgs⟩ := Option.bind_eq_some_iff.mp h
    split_ifs at hgs with hlength
    obtain rfl := Option.some.inj hgs
    exact ⟨hlength, side?_areGroups hside⟩
  · split_ifs at h
    split at h
    · next as bs has hbs =>
      split_ifs at h with hroom
      obtain rfl := Option.some.inj h
      refine ⟨by simp; omega, fun g hg => ?_⟩
      rcases List.mem_append.mp hg with hg | hg
      · rcases List.mem_append.mp hg with hg | hg
        · exact side?_areGroups has g hg
        · rw [List.eq_of_mem_replicate hg]
          decide
      · exact side?_areGroups hbs g hg
    · exact nomatch h

/-- What is true of colons and of hexadecimal digits is true of written groups. -/
theorem forall_mem_writeGroups {p : Char → Prop} (hcolon : p ':')
    (hdigit : ∀ d, d < 16 → p (Text.Hex.digit d)) (gs : List Nat) :
    ∀ c ∈ writeGroups gs, p c := by
  refine Text.forall_mem_join (fun c hc => ?_) fun piece hpiece => ?_
  · rw [List.mem_singleton.mp hc]
    exact hcolon
  · obtain ⟨g, -, rfl⟩ := List.mem_map.mp hpiece
    exact Text.Hex.forall_mem_ofNat hdigit g

/-- So it is of a written address. -/
theorem forall_mem_writeAddress6 {p : Char → Prop} (hcolon : p ':')
    (hdigit : ∀ d, d < 16 → p (Text.Hex.digit d)) (gs : List Nat) :
    ∀ c ∈ writeAddress6 gs, p c := by
  have hgroups := forall_mem_writeGroups hcolon hdigit
  intro c hc
  unfold writeAddress6 at hc
  dsimp only at hc
  split_ifs at hc
  · rcases List.mem_append.mp hc with hc | hc
    · rcases List.mem_append.mp hc with hc | hc
      · exact hgroups _ c hc
      · obtain rfl : c = ':' := by simpa using hc
        exact hcolon
    · exact hgroups _ c hc
  · exact hgroups _ c hc

theorem dot_notMem_writeGroups (gs : List Nat) : '.' ∉ writeGroups gs := fun hdot =>
  forall_mem_writeGroups (p := (· ≠ '.')) (by decide) (by decide) gs '.' hdot rfl

theorem notMem_ofNat {c : Char} (h : ∀ d, d < 16 → Text.Hex.digit d ≠ c) (g : Nat) :
    c ∉ Text.Hex.ofNat g := fun hc =>
  Text.Hex.forall_mem_ofNat (p := (· ≠ c)) h g c hc rfl

theorem colon_notMem_ofNat (g : Nat) : ':' ∉ Text.Hex.ofNat g := notMem_ofNat (by decide) g

/-- Written groups are read as themselves. -/
theorem groups?_map_ofNat {gs : List Nat} (h : AreGroups gs) :
    groups? (gs.map Text.Hex.ofNat) = some gs := by
  have hshort : ∀ g, g < 65536 →
      ¬((Text.Hex.ofNat g).isEmpty || 4 < (Text.Hex.ofNat g).length) = true := by
    intro g hg
    have hlength := Text.Hex.length_ofNat_le (k := 3) hg
    simp [Text.Hex.ofNat_ne_nil]
    omega
  induction gs with
  | nil => rfl
  | cons g gs ih =>
    obtain ⟨hg, hgs⟩ := List.forall_mem_cons.mp h
    cases gs with
    | nil =>
      rw [List.map_cons, List.map_nil, groups?, if_neg (notMem_ofNat (by decide) g),
        if_neg (hshort g hg), numeral?_ofNat, Option.map_some]
    | cons g' gs =>
      rw [List.map_cons, List.map_cons, groups?, if_neg (hshort g hg), numeral?_ofNat,
        ← List.map_cons, ih hgs]
      simp

/-- Written groups begin with the first of them. -/
theorem exists_writeGroups_cons (g : Nat) (gs : List Nat) :
    ∃ tail, writeGroups (g :: gs) = Text.Hex.ofNat g ++ tail := by
  cases gs with
  | nil => exact ⟨[], (List.append_nil _).symm⟩
  | cons g' gs => exact ⟨':' :: writeGroups (g' :: gs), by simp [writeGroups, Text.join]⟩

theorem writeGroups_cons_ne (g : Nat) (gs : List Nat) (rest cs : List Char) :
    writeGroups (g :: gs) ++ rest ≠ ':' :: cs := by
  obtain ⟨tail, htail⟩ := exists_writeGroups_cons g gs
  rw [htail, List.append_assoc]
  cases hdigits : Text.Hex.ofNat g with
  | nil => exact absurd hdigits (Text.Hex.ofNat_ne_nil g)
  | cons d ds =>
    intro hcolon
    obtain rfl : d = ':' := (List.cons.inj hcolon).1
    exact colon_notMem_ofNat g (by simp [hdigits])

theorem side?_writeGroups {gs : List Nat} (h : AreGroups gs) :
    side? (writeGroups gs) = some gs := by
  by_cases hnil : gs = []
  · subst hnil
    rfl
  · have hpieces : ∀ piece ∈ gs.map Text.Hex.ofNat, ':' ∉ piece := by
      intro piece hpiece
      obtain ⟨g, -, rfl⟩ := List.mem_map.mp hpiece
      exact colon_notMem_ofNat g
    have hsplit : Text.splitAll ':' (writeGroups gs) = gs.map Text.Hex.ofNat :=
      Text.splitAll_join (by simpa using hnil) hpieces
    have hnonempty : ¬(writeGroups gs).isEmpty = true := by
      obtain ⟨g, gs, rfl⟩ := List.exists_cons_of_ne_nil hnil
      obtain ⟨tail, htail⟩ := exists_writeGroups_cons g gs
      simp [htail, Text.Hex.ofNat_ne_nil]
    rw [side?, if_neg hnonempty, hsplit, groups?_map_ofNat h]

theorem splitCompressed_append {cs : List Char} (h : ':' ∉ cs) (rest : List Char) :
    splitCompressed (cs ++ rest) = (splitCompressed rest).map fun (a, b) => (cs ++ a, b) := by
  induction cs with
  | nil => simp
  | cons c cs ih =>
    rw [List.mem_cons, not_or] at h
    obtain ⟨hc, hcs⟩ := h
    rw [List.cons_append, splitCompressed.eq_2 c _ (fun _ hcolon _ => hc hcolon.symm), ih hcs,
      Option.map_map]
    rfl

/-- A single colon compresses nothing. -/
theorem splitCompressed_colon {cs : List Char} (h : ∀ rest, cs ≠ ':' :: rest) :
    splitCompressed (':' :: cs) = (splitCompressed cs).map fun (a, b) => (':' :: a, b) :=
  splitCompressed.eq_2 ':' cs fun rest _ hcs => h rest hcs

/-- No colons stand together in written groups. -/
theorem splitCompressed_writeGroups (gs : List Nat) (rest : List Char) :
    splitCompressed (writeGroups gs ++ rest)
      = (splitCompressed rest).map fun (a, b) => (writeGroups gs ++ a, b) := by
  induction gs with
  | nil => simp [writeGroups, Text.join]
  | cons g gs ih =>
    cases gs with
    | nil => exact splitCompressed_append (colon_notMem_ofNat g) rest
    | cons g' gs =>
      have hwrite : writeGroups (g :: g' :: gs)
          = Text.Hex.ofNat g ++ ':' :: writeGroups (g' :: gs) := by
        simp [writeGroups, Text.join]
      -- The colon between two groups is a single one: no group begins with a colon.
      rw [hwrite, List.append_assoc, splitCompressed_append (colon_notMem_ofNat g),
        List.cons_append, splitCompressed_colon (writeGroups_cons_ne g' gs rest), ih]
      cases splitCompressed rest <;> simp

/-- Where the longest run of zeros stands in the groups from the `i`-th on. -/
theorem longestZeroRun_spec (gs : List Nat) (i : Nat) :
    ∃ before after, gs = before ++ List.replicate (longestZeroRun gs i).2 0 ++ after ∧
      (longestZeroRun gs i).1 = i + before.length := by
  induction gs generalizing i with
  | nil => exact ⟨[], [], rfl, rfl⟩
  | cons g gs ih =>
    unfold longestZeroRun
    dsimp only
    split
    · have hzeros : (g :: gs).takeWhile (· == 0) = List.replicate (zeroRun (g :: gs)) 0 :=
        List.eq_replicate_iff.mpr ⟨rfl, fun n hn => by simpa using List.mem_takeWhile_imp hn⟩
      refine ⟨[], (g :: gs).dropWhile (· == 0), ?_, rfl⟩
      rw [List.nil_append, ← hzeros, List.takeWhile_append_dropWhile]
    · obtain ⟨before, after, hgs, hstart⟩ := ih (i + 1)
      refine ⟨g :: before, after, ?_, ?_⟩
      · rw [List.cons_append, List.cons_append, ← hgs]
      · rw [hstart, List.length_cons]
        omega

/-- A written address is read as itself. -/
theorem parseAddress6?_write {gs : List Nat} (hlength : gs.length = 8) (h : AreGroups gs) :
    parseAddress6? (writeAddress6 gs) = some gs := by
  unfold writeAddress6
  obtain ⟨before, after, hgs, hstart⟩ := longestZeroRun_spec gs 0
  rcases hrun : longestZeroRun gs 0 with ⟨start, run⟩
  simp only [hrun, Nat.zero_add] at hgs hstart ⊢
  split_ifs with hlong
  -- The zeros are left out, and the groups on both sides are read apart.
  · have htake : gs.take start = before := by
      rw [hgs, hstart, List.append_assoc, List.take_left]
    have hdrop : gs.drop (start + run) = after := by
      rw [hgs, hstart]
      exact List.drop_left' (by simp)
    have hside : ∀ side, (∀ g ∈ side, g ∈ gs) → side? (writeGroups side) = some side :=
      fun side hsub => side?_writeGroups fun g hg => h g (hsub g hg)
    have hbefore := hside before fun g hg => by rw [hgs]; simp [hg]
    have hafter := hside after fun g hg => by rw [hgs]; simp [hg]
    have hlengths : before.length + run + after.length = 8 := by
      rw [← hlength, hgs]
      simp [Nat.add_assoc]
    rw [htake, hdrop, List.append_assoc, List.cons_append, List.singleton_append, parseAddress6?,
      splitCompressed_writeGroups]
    simp only [splitCompressed, Option.map_some, List.append_nil]
    rw [if_neg (dot_notMem_writeGroups before), hbefore, hafter]
    simp only
    rw [if_pos (by omega), show 8 - before.length - after.length = run by omega, ← hgs]
  -- All groups are written.
  · have hnone := splitCompressed_writeGroups gs []
    rw [List.append_nil] at hnone
    rw [parseAddress6?, hnone]
    simp [splitCompressed, side?_writeGroups h, hlength]

end CloudSession.Url
