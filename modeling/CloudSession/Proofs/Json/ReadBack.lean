/-
Values that are read back. Of a number a text is read by its numeral alone
(`readsBack_iff`), and every whole number that the reader can give reads back
(`readsBack_whole`); whether a real does depends on how its digits are rounded,
and how their value is. Where all its numbers read back, a printed value is read
at all (`value?_complete`): it takes no more steps than it has characters.
-/
import CloudSession.Proofs.Json.Printed

namespace CloudSession.Json

open Text

namespace Number

/-- What is written of a number is read as that number. -/
def ReadsBack (n : Number) : Prop := Json.read? (Json.pretty (.number n)) = some (.number n)

theorem readsBack_iff {n : Number} :
    n.ReadsBack ↔
      ∃ t, Doc.number? (n.write.map some) = some (t, []) ∧ t.value? = some n := by
  obtain ⟨c, cs, hcs, hc⟩ := n.write_isNumeral.head
  have hread : Json.read? (Json.pretty (.number n))
      = ((Doc.read? (n.write.map some)).bind (Doc.toJson? maxDepth)) := by
    rw [Json.read?, Json.pretty, String.toList_ofList]
    rfl
  have hdoc : Doc.read? (n.write.map some)
      = (Doc.number? (n.write.map some)).bind fun found =>
        if Doc.skipBlanks found.2 = [] then some (.number found.1) else none := by
    rw [Doc.read?, hcs, List.map_cons, value?_numeral hc]
    cases Doc.number? (some c :: cs.map some) <;> rfl
  rw [ReadsBack, hread, hdoc]
  constructor
  · intro h
    obtain ⟨d, hd, hvalue⟩ := Option.bind_eq_some_iff.mp h
    obtain ⟨⟨t, r⟩, ht, hend⟩ := Option.bind_eq_some_iff.mp hd
    have hwhole := ht
    rw [← List.append_nil (n.write.map some)] at hwhole
    obtain rfl := number?_exact n.write_isNumeral endsNumber_nil hwhole
    obtain rfl := Option.some.inj hend
    refine ⟨t, ht, ?_⟩
    obtain ⟨m, hm, heq⟩ := Option.map_eq_some_iff.mp hvalue
    obtain rfl := Json.number.inj heq
    exact hm
  · intro h
    obtain ⟨t, ht, hvalue⟩ := h
    rw [ht]
    show t.value?.map Json.number = _
    rw [hvalue]
    rfl

instance (n : Number) : Decidable n.ReadsBack :=
  decidable_of_iff (((Doc.number? (n.write.map some)).any fun (t, r) =>
      r.isEmpty && t.value? == some n) = true) <| by
    rw [readsBack_iff]
    cases hread : Doc.number? (n.write.map some) with
    | none => simp
    | some found =>
      obtain ⟨t, r⟩ := found
      simp only [Option.any_some, Bool.and_eq_true, List.isEmpty_iff, beq_iff_eq,
        Option.some.injEq, Prod.mk.injEq]
      constructor
      · intro h
        exact ⟨t, ⟨rfl, h.1⟩, h.2⟩
      · intro h
        obtain ⟨t', ⟨rfl, rfl⟩, hvalue⟩ := h
        exact ⟨rfl, hvalue⟩

end Number

-- =================================================================== wholes

/-- The whole numbers that are read as such. -/
def InRange (n : Int) : Prop := -9223372036854775808 ≤ n ∧ n ≤ maxWord

/-- A zero does not lead other digits. -/
theorem toDigits_zero_alone {n : Nat} {cs : List Char} (h : Nat.toDigits 10 n = '0' :: cs) :
    cs = [] := by
  induction n using Nat.strongRecOn generalizing cs with
  | ind n ih =>
    by_cases hn : n < 10
    · rw [Nat.toDigits_of_lt_base hn] at h
      exact (List.cons.inj h).2.symm
    · have hten : 10 ≤ n := by omega
      rw [Nat.toDigits_of_base_le (by decide) hten] at h
      obtain ⟨cs', hfront⟩ : ∃ cs', Nat.toDigits 10 (n / 10) = '0' :: cs' := by
        cases hdigits : Nat.toDigits 10 (n / 10) with
        | nil => exact absurd hdigits Nat.toDigits_ne_nil
        | cons c cs' =>
          rw [hdigits] at h
          obtain rfl := (List.cons.inj h).1
          exact ⟨cs', rfl⟩
      have halone := ih (n / 10) (by omega) hfront
      -- the digits in front would denote nothing, but they stand for a tenth of `n`
      have hvalue := Nat.ofDigitChars_toDigits (b := 10) (n := n / 10) (by decide) (by decide)
      rw [hfront, halone] at hvalue
      have hzero : n / 10 = 0 := hvalue.symm
      omega

/-- Digits are taken into a word that they fit in. -/
theorem appendDigits_ofDigitChars {cs : List Char} {m : Nat}
    (h : Nat.ofDigitChars 10 cs m ≤ maxWord) :
    appendDigits m (cs.map (·.toNat - 48)) = (Nat.ofDigitChars 10 cs m, cs.length, 0) := by
  induction cs generalizing m with
  | nil => rfl
  | cons c cs ih =>
    rw [Nat.ofDigitChars_cons] at h ⊢
    have hle : 10 * m + (c.toNat - 48) ≤ Nat.ofDigitChars 10 cs (10 * m + (c.toNat - 48)) := by
      rw [Nat.ofDigitChars_eq_ofDigitChars_zero]
      have hpos : 0 < 10 ^ cs.length := Nat.pow_pos (by decide)
      have hmul := Nat.le_mul_of_pos_left (10 * m + (c.toNat - 48)) hpos
      omega
    have hzero : '0'.toNat = 48 := rfl
    rw [hzero] at h ⊢
    rw [List.map_cons, appendDigits, if_pos (by omega), ih h]
    rfl

/-- The digits of a natural are read as a number without a fraction. -/
theorem unsigned?_toDigits (n : Nat) (negative : Bool) :
    Doc.unsigned? negative ((Nat.toDigits 10 n).map some)
      = some (⟨negative, (Nat.toDigits 10 n).map (·.toNat - 48), none, none⟩, []) := by
  have hdigits := allDigits_toDigits n
  have hread := digits_append hdigits endsNumber_nil.noDigit
  rw [List.append_nil] at hread
  simp only [Doc.unsigned?, hread]
  rcases hcs : Nat.toDigits 10 n with _ | ⟨c, _ | ⟨c', cs⟩⟩
  · exact absurd hcs Nat.toDigits_ne_nil
  · simp only [List.map_cons, List.map_nil]
    cases c.toNat - 48 <;> rfl
  · have hne : c.toNat - 48 ≠ 0 := by
      intro hzero
      have hdigit := hdigits c (by simp [hcs])
      simp only [Char.isDigit, Bool.and_eq_true, decide_eq_true_eq] at hdigit
      have hlow : 48 ≤ c.toNat := hdigit.1
      have heq : c = '0' := by
        rw [← Char.ofNat_toNat c, show c.toNat = 48 by omega]
      subst heq
      exact absurd (toDigits_zero_alone hcs) (by simp)
    obtain ⟨d, hd⟩ := Nat.exists_eq_succ_of_ne_zero hne
    simp only [List.map_cons, hd]
    rfl

/-- Whole numbers in the range of the reader read back. -/
theorem readsBack_whole {n : Int} (h : InRange n) : (Number.whole n).ReadsBack := by
  obtain ⟨hlow, hhigh⟩ := h
  have habs := Nat.ofDigitChars_toDigits (b := 10) (n := n.natAbs) (by decide) (by decide)
  have hword : Nat.ofDigitChars 10 (Nat.toDigits 10 n.natAbs) 0 ≤ maxWord := by
    rw [habs]
    simp only [maxWord] at *
    omega
  have happend := appendDigits_ofDigitChars hword
  rw [habs] at happend
  rw [Number.readsBack_iff, Number.write, integer]
  by_cases hneg : n < 0
  · refine ⟨⟨true, (Nat.toDigits 10 n.natAbs).map (·.toNat - 48), none, none⟩, ?_, ?_⟩
    · rw [if_pos hneg]
      exact unsigned?_toDigits n.natAbs true
    · have hsmall : ¬(n.natAbs == 0 || decide (9223372036854775808 < n.natAbs)) = true := by
        simp only [Bool.or_eq_true, beq_iff_eq, decide_eq_true_eq]
        omega
      have hnegated : -(n.natAbs : Int) = n := by omega
      rw [NumberText.value?]
      simp only [happend, Bool.not_true, Bool.false_eq_true, if_false, if_neg hsmall, hnegated]
  · refine ⟨⟨false, (Nat.toDigits 10 n.natAbs).map (·.toNat - 48), none, none⟩, ?_, ?_⟩
    · have hunsigned := number?_unsigned
        (isUnsigned_digits (allDigits_toDigits n.natAbs) Nat.toDigits_ne_nil) []
      rw [List.append_nil] at hunsigned
      rw [if_neg hneg, hunsigned]
      exact unsigned?_toDigits n.natAbs false
    · have hpositive : (n.natAbs : Int) = n := by omega
      rw [NumberText.value?]
      simp only [happend, Bool.not_false, if_true, hpositive]

-- ================================================================== numbers

mutual

/-- The numbers in a value. -/
def numbers : Json → List Number
  | .null => []
  | .bool _ => []
  | .number n => [n]
  | .str _ => []
  | .arr items => itemNumbers items
  | .obj members => memberNumbers members

/-- The numbers in the items of an array. -/
def itemNumbers : List Json → List Number
  | [] => []
  | v :: vs => numbers v ++ itemNumbers vs

/-- The numbers in the members of an object. -/
def memberNumbers : List (String × Json) → List Number
  | [] => []
  | (_, v) :: ms => numbers v ++ memberNumbers ms

end

theorem mem_itemNumbers {n : Number} {items : List Json} :
    n ∈ itemNumbers items ↔ ∃ v ∈ items, n ∈ v.numbers := by
  induction items with
  | nil => simp [itemNumbers]
  | cons v vs ih => simp [itemNumbers, ih]

theorem mem_memberNumbers {n : Number} {members : List (String × Json)} :
    n ∈ memberNumbers members ↔ ∃ m ∈ members, n ∈ m.2.numbers := by
  induction members with
  | nil => simp [memberNumbers]
  | cons m ms ih => simp [memberNumbers, ih]

-- ============================================================== completeness

theorem prettyChars_pos (level : Nat) (v : Json) : 0 < (prettyChars level v).length := by
  obtain ⟨c, cs, hcs, -⟩ := prettyChars_head level v
  rw [hcs]
  exact Nat.succ_pos _

theorem newline_pos (level : Nat) : 0 < (newline level).length := Nat.succ_pos _

-- The induction is on the value. An item or a member takes one step more than
-- its value, and has a comma or a bracket and a line break besides.
mutual

/-- Where a value was printed, one is read. -/
theorem value?_complete (level : Nat) (v : Json) (hv : ∀ n ∈ v.numbers, n.ReadsBack)
    (fuel : Nat) (hfuel : (prettyChars level v).length ≤ fuel) {rest : List Glyph}
    (hrest : EndsNumber rest) :
    ∃ d, Doc.value? fuel ((prettyChars level v).map some ++ rest) = some (d, rest) := by
  have hpos := prettyChars_pos level v
  cases fuel with
  | zero => omega
  | succ fuel =>
      match v with
      | .null => exact ⟨.null, rfl⟩
      | .bool true => exact ⟨.bool true, rfl⟩
      | .bool false => exact ⟨.bool false, rfl⟩
      | .number n =>
          obtain ⟨t, ht, -⟩ := Number.readsBack_iff.mp (hv n (by simp [numbers]))
          refine ⟨.number t, ?_⟩
          rw [value?_number, number?_append n.write_isNumeral hrest, ht]
          rfl
      | .str s => exact ⟨_, value?_string s fuel rest⟩
      | .arr [] => exact ⟨.arr [], rfl⟩
      | .arr (v :: vs) =>
          have hlength := newline_pos (level + 1)
          simp only [prettyChars, List.length_cons, List.length_append] at hfuel
          obtain ⟨ds, hds⟩ := items?_complete level v vs hv fuel (by omega) rest
          refine ⟨.arr ds, ?_⟩
          rw [value?_arr, hds]
          rfl
      | .obj [] => exact ⟨.obj [], rfl⟩
      | .obj ((k, v) :: ms) =>
          have hlength := newline_pos (level + 1)
          simp only [prettyChars, List.length_cons, List.length_append] at hfuel
          obtain ⟨es, hes⟩ := members?_complete level k v ms hv fuel (by omega) rest
          refine ⟨.obj es, ?_⟩
          rw [value?_obj, hes]
          rfl
termination_by fuel

/-- Where items were printed, items are read up to their bracket. -/
theorem items?_complete (level : Nat) (v : Json) (vs : List Json)
    (hv : ∀ n ∈ itemNumbers (v :: vs), n.ReadsBack) (fuel : Nat)
    (hfuel : (prettyChars (level + 1) v).length + (prettyItems level vs).length ≤ fuel)
    (rest : List Glyph) :
    ∃ ds, Doc.items? fuel ((prettyChars (level + 1) v).map some
      ++ ((prettyItems level vs).map some ++ rest)) = some (ds, rest) := by
  have hpos := prettyChars_pos (level + 1) v
  have hlength := newline_pos (level + 1)
  cases fuel with
  | zero => omega
  | succ fuel =>
      have hhead : ∀ n ∈ v.numbers, n.ReadsBack :=
        fun n hn => hv n (List.mem_append_left _ hn)
      have htail : ∀ n ∈ itemNumbers vs, n.ReadsBack :=
        fun n hn => hv n (List.mem_append_right _ hn)
      match vs with
      | [] =>
          simp only [prettyItems, List.length_append, List.length_singleton] at hfuel
          obtain ⟨d, hd⟩ := value?_complete (level + 1) v hhead fuel (by omega)
            (endsNumber_prettyItems level [] rest)
          refine ⟨[d], ?_⟩
          rw [Doc.items?, hd]
          simp only [skipBlanks_prettyItems_nil]
      | v' :: vs' =>
          simp only [prettyItems, List.length_cons, List.length_append] at hfuel
          obtain ⟨d, hd⟩ := value?_complete (level + 1) v hhead fuel (by omega)
            (endsNumber_prettyItems level (v' :: vs') rest)
          obtain ⟨ds, hds⟩ := items?_complete level v' vs' htail fuel (by omega) rest
          refine ⟨d :: ds, ?_⟩
          rw [Doc.items?, hd]
          simp only [skipBlanks_prettyItems_cons, items?_congr (skipBlanks_newline _ _), hds,
            Option.map_some]
termination_by fuel

/-- Where members were printed, members are read up to their brace. -/
theorem members?_complete (level : Nat) (k : String) (v : Json) (ms : List (String × Json))
    (hv : ∀ n ∈ memberNumbers ((k, v) :: ms), n.ReadsBack) (fuel : Nat)
    (hfuel : (prettyChars (level + 1) v).length + (prettyMembers level ms).length ≤ fuel)
    (rest : List Glyph) :
    ∃ es, Doc.members? fuel
      (memberText level k v ((prettyMembers level ms).map some ++ rest)) = some (es, rest) := by
  have hpos := prettyChars_pos (level + 1) v
  have hlength := newline_pos (level + 1)
  cases fuel with
  | zero => omega
  | succ fuel =>
      have hhead : ∀ n ∈ v.numbers, n.ReadsBack :=
        fun n hn => hv n (List.mem_append_left _ hn)
      have htail : ∀ n ∈ memberNumbers ms, n.ReadsBack :=
        fun n hn => hv n (List.mem_append_right _ hn)
      match ms with
      | [] =>
          simp only [prettyMembers, List.length_append, List.length_singleton] at hfuel
          obtain ⟨d, hd⟩ := value?_complete (level + 1) v hhead fuel (by omega)
            (endsNumber_prettyMembers level [] rest)
          refine ⟨[(k.toList.map pieceOf, d)], ?_⟩
          rw [members?_memberText, hd]
          simp only [membersBehind, skipBlanks_prettyMembers_nil]
      | (k', v') :: ms' =>
          simp only [prettyMembers, List.length_cons, List.length_append] at hfuel
          obtain ⟨d, hd⟩ := value?_complete (level + 1) v hhead fuel (by omega)
            (endsNumber_prettyMembers level ((k', v') :: ms') rest)
          obtain ⟨es, hes⟩ := members?_complete level k' v' ms' htail fuel (by omega)
            rest
          refine ⟨(k.toList.map pieceOf, d) :: es, ?_⟩
          rw [members?_memberText, hd]
          simp only [membersBehind, skipBlanks_prettyMembers_cons,
            members?_congr (skipBlanks_newline _ _), hes, Option.map_some]
termination_by fuel

end

/-- A printed value is read, and nothing else is read of it. -/
theorem read?_complete {v : Json} (hv : ∀ n ∈ v.numbers, n.ReadsBack) :
    ∃ d, Doc.read? (v.pretty.toList.map some) = some d := by
  have htext : v.pretty.toList = prettyChars 0 v := by rw [pretty, String.toList_ofList]
  have hfuel : (prettyChars 0 v).length ≤ 2 * ((prettyChars 0 v).map some).length + 2 := by
    rw [List.length_map]
    omega
  obtain ⟨d, hd⟩ := value?_complete 0 v hv _ hfuel endsNumber_nil
  rw [List.append_nil] at hd
  refine ⟨d, ?_⟩
  rw [htext, Doc.read?, hd]
  rfl

end CloudSession.Json
