/-
Reading a number that was written. Whatever the writer makes of a number has
the shape of a numeral (`Number.write_isNumeral`), and a numeral that the
reader takes at all it takes whole (`number?_exact`): what follows the
numeral is left as it was.
-/
import CloudSession.Json.Document
import CloudSession.Json.Printer
import CloudSession.Proofs.Text.Digits

namespace CloudSession.Json

open Text

-- =================================================================== digits

/-- A text that does not go on with a digit. -/
def NoDigit (rest : List Glyph) : Prop := ∀ g r, rest = g :: r → Doc.digit? g = none

theorem digit?_some {c : Char} (h : c.isDigit = true) :
    Doc.digit? (some c) = some (c.toNat - 48) := by
  simp only [Char.isDigit, Bool.and_eq_true, decide_eq_true_eq] at h
  simp only [Doc.digit?]
  exact if_pos (by simpa [Char.le_def] using h)

/-- The digits in front of a text that goes on with none are taken whole. -/
theorem digits_append {ds : List Char} (hd : AllDigits ds) {rest : List Glyph}
    (hr : NoDigit rest) :
    Doc.digits (ds.map some ++ rest) = (ds.map (·.toNat - 48), rest) := by
  induction ds with
  | nil =>
    cases rest with
    | nil => rfl
    | cons g r => simp [Doc.digits, hr g r rfl]
  | cons c ds ih =>
    have hc := digit?_some (hd c (by simp))
    have ih := ih fun x hx => hd x (by simp [hx])
    simp [Doc.digits, hc, ih]

-- ================================================================= numerals

/-- A text that cannot belong to a number in front of it. -/
def EndsNumber (rest : List Glyph) : Prop :=
  ∀ g r, rest = g :: r →
    Doc.digit? g = none ∧ g ≠ some '.' ∧ g ≠ some 'e' ∧ g ≠ some 'E'

/-- A fraction as it is written, if there is one. -/
def IsFraction (cs : List Char) : Prop := cs = [] ∨ ∃ ds, cs = '.' :: ds ∧ AllDigits ds

/-- An exponent as it is written, if there is one. -/
def IsExponent (cs : List Char) : Prop :=
  cs = [] ∨ ∃ sign ds, cs = 'e' :: sign :: ds ∧ (sign = '-' ∨ sign = '+') ∧ AllDigits ds

/-- The parts of a written number behind its sign. Either of the first two
may be empty, so not every numeral is a number. -/
def IsUnsigned (cs : List Char) : Prop :=
  ∃ whole fraction exponent, cs = whole ++ (fraction ++ exponent) ∧
    AllDigits whole ∧ IsFraction fraction ∧ IsExponent exponent ∧ whole ++ fraction ≠ []

/-- A written number. -/
def IsNumeral (cs : List Char) : Prop := IsUnsigned cs ∨ ∃ ds, cs = '-' :: ds ∧ IsUnsigned ds

/-- What a numeral can begin with. -/
def StartsNumeral (c : Char) : Prop := c.isDigit = true ∨ c = '.' ∨ c = '-'

theorem IsUnsigned.head {cs : List Char} (h : IsUnsigned cs) :
    ∃ c r, cs = c :: r ∧ (c.isDigit = true ∨ c = '.') := by
  obtain ⟨whole, fraction, exponent, rfl, hw, hf, -, hne⟩ := h
  cases whole with
  | cons c r => exact ⟨c, _, rfl, Or.inl (hw c (by simp))⟩
  | nil =>
    rcases hf with rfl | ⟨ds, rfl, -⟩
    · exact absurd rfl hne
    · exact ⟨'.', _, rfl, Or.inr rfl⟩

theorem IsNumeral.head {cs : List Char} (h : IsNumeral cs) :
    ∃ c r, cs = c :: r ∧ StartsNumeral c := by
  rcases h with h | ⟨ds, rfl, -⟩
  · obtain ⟨c, r, hcs, hc⟩ := h.head
    exact ⟨c, r, hcs, hc.imp id Or.inl⟩
  · exact ⟨'-', ds, rfl, Or.inr (Or.inr rfl)⟩

-- ================================================================== reading

theorem EndsNumber.noDigit {rest : List Glyph} (h : EndsNumber rest) : NoDigit rest :=
  fun g r hg => (h g r hg).1

theorem endsNumber_nil : EndsNumber [] := fun _ _ h => absurd h (by simp)

/-- An exponent is taken whole, or not at all, whatever follows it. -/
theorem exponent?_append {cs : List Char} (hc : IsExponent cs) {rest : List Glyph}
    (hr : EndsNumber rest) :
    Doc.exponent? (cs.map some ++ rest)
      = (Doc.exponent? (cs.map some)).map fun (e, _) => (e, rest) := by
  rcases hc with rfl | ⟨sign, ds, rfl, hsign, hds⟩
  · cases rest with
    | nil => rfl
    | cons g rest =>
      obtain ⟨-, -, he, hE⟩ := hr g rest rfl
      rw [List.map_nil, List.nil_append, Doc.exponent?]
      · rfl
      · exact fun _ h => he (List.cons.inj h).1
      · exact fun _ h => hE (List.cons.inj h).1
  · have hd := digits_append hds hr.noDigit
    have hend := digits_append hds endsNumber_nil.noDigit
    rw [List.append_nil] at hend
    rcases hsign with rfl | rfl <;>
    · simp only [List.map_cons, List.cons_append, Doc.exponent?, Doc.exponent?.signed,
        Doc.exponent?.magnitude, hd, hend]
      cases ds.map (·.toNat - 48) <;> rfl

/-- So is a fraction. -/
theorem fraction?_append {cs : List Char} (hc : IsFraction cs) {rest : List Glyph}
    (hr : NoDigit rest) (hdot : ∀ r, rest ≠ some '.' :: r) :
    Doc.fraction? (cs.map some ++ rest)
      = (Doc.fraction? (cs.map some)).map fun (f, _) => (f, rest) := by
  rcases hc with rfl | ⟨ds, rfl, hds⟩
  · rw [List.map_nil, List.nil_append, Doc.fraction?]
    · rfl
    · exact fun r h => hdot r h
  · have hd := digits_append hds hr
    have hend := digits_append hds endsNumber_nil.noDigit
    rw [List.append_nil] at hend
    simp only [List.map_cons, List.cons_append, Doc.fraction?, hd, hend]
    cases ds.map (·.toNat - 48) <;> rfl

/-- Behind a fraction stands no digit and no point: an exponent begins with
its mark, and what follows the number belongs to none. -/
theorem after_fraction {cs : List Char} (hc : IsExponent cs) {rest : List Glyph}
    (hr : EndsNumber rest) :
    ∀ g r, cs.map some ++ rest = g :: r → Doc.digit? g = none ∧ g ≠ some '.' := by
  intro g r h
  rcases hc with rfl | ⟨sign, ds, rfl, -, -⟩
  · exact ⟨(hr g r h).1, (hr g r h).2.1⟩
  · obtain ⟨rfl, -⟩ := List.cons.inj h
    decide

/-- A number without a sign is taken whole, or not at all: its parts are read one
by one. -/
theorem unsigned?_append {cs : List Char} (hc : IsUnsigned cs) (negative : Bool)
    {rest : List Glyph} (hr : EndsNumber rest) :
    Doc.unsigned? negative (cs.map some ++ rest)
      = (Doc.unsigned? negative (cs.map some)).map fun (t, _) => (t, rest) := by
  obtain ⟨whole, fraction, exponent, rfl, hw, hf, he, -⟩ := hc
  have hnoDigit : ∀ {rest : List Glyph}, EndsNumber rest →
      NoDigit (fraction.map some ++ (exponent.map some ++ rest)) := by
    intro rest hr g s hg
    rcases hf with rfl | ⟨ds, rfl, -⟩
    · exact (after_fraction he hr g s hg).1
    · obtain ⟨rfl, -⟩ := List.cons.inj hg
      decide
  have hfraction : ∀ {rest : List Glyph}, EndsNumber rest →
      Doc.fraction? (fraction.map some ++ (exponent.map some ++ rest))
        = (Doc.fraction? (fraction.map some)).map fun (f, _) => (f, exponent.map some ++ rest) :=
    fun hr => fraction?_append hf (fun g s hg => (after_fraction he hr g s hg).1)
      fun s hs => (after_fraction he hr _ s hs).2 rfl
  have hdigits := digits_append hw (hnoDigit hr)
  have halone := digits_append hw (hnoDigit endsNumber_nil)
  have hfractionAlone := hfraction endsNumber_nil
  rw [List.append_nil] at halone hfractionAlone
  rw [List.map_append, List.map_append, List.append_assoc, List.append_assoc]
  simp only [Doc.unsigned?, hdigits, halone]
  generalize whole.map (·.toNat - 48) = digits
  rcases digits with _ | ⟨_ | d, _ | ⟨d', ds⟩⟩
  any_goals rfl
  all_goals
    simp only [hfraction hr, hfractionAlone]
    cases Doc.fraction? (fraction.map some) with
    | none => rfl
    | some found =>
      simp only [Option.map_some, exponent?_append he hr]
      cases Doc.exponent? (exponent.map some) <;> rfl

/-- A number without a sign is read as one. -/
theorem number?_unsigned {cs : List Char} (hc : IsUnsigned cs) (rest : List Glyph) :
    Doc.number? (cs.map some ++ rest) = Doc.unsigned? false (cs.map some ++ rest) := by
  obtain ⟨c, tail, rfl, hhead⟩ := hc.head
  rw [Doc.number?]
  intro r heq
  obtain rfl : c = '-' := Option.some.inj (List.cons.inj heq).1
  revert hhead
  decide

/-- A numeral is taken whole, or not at all, whatever follows it. -/
theorem number?_append {cs : List Char} (hc : IsNumeral cs) {rest : List Glyph}
    (hr : EndsNumber rest) :
    Doc.number? (cs.map some ++ rest)
      = (Doc.number? (cs.map some)).map fun (t, _) => (t, rest) := by
  rcases hc with hc | ⟨ds, rfl, hds⟩
  · have halone := number?_unsigned hc []
    rw [List.append_nil] at halone
    rw [number?_unsigned hc, halone, unsigned?_append hc false hr]
  · exact unsigned?_append hds true hr

theorem number?_exact {cs : List Char} (hc : IsNumeral cs) {rest : List Glyph}
    (hr : EndsNumber rest) {t : NumberText} {r : List Glyph}
    (h : Doc.number? (cs.map some ++ rest) = some (t, r)) : r = rest := by
  rw [number?_append hc hr] at h
  obtain ⟨_, -, heq⟩ := Option.map_eq_some_iff.mp h
  exact (Prod.mk.inj heq).2.symm

-- ================================================================== writing

/-- Digits alone are a number. -/
theorem isUnsigned_digits {ds : List Char} (hd : AllDigits ds) (hne : ds ≠ []) :
    IsUnsigned ds :=
  ⟨ds, [], [], by simp, hd, Or.inl rfl, Or.inl rfl, by simpa using hne⟩

theorem integer_isNumeral (n : Int) : IsNumeral (integer n) := by
  have hd := isUnsigned_digits (allDigits_toDigits n.natAbs) Nat.toDigits_ne_nil
  unfold integer
  split
  · exact Or.inr ⟨_, rfl, hd⟩
  · exact Or.inl hd

theorem shortest_digits (d : Double) : AllDigits d.shortest.digits := by
  have hstrip : ∀ ds : List Char, (ds.reverse.dropWhile (· == '0')).reverse.Sublist ds := by
    intro ds
    simpa using (List.dropWhile_sublist (l := ds.reverse) (· == '0')).reverse
  exact (allDigits_toDigits _).sublist (hstrip _)

theorem positional_isUnsigned {d : Decimal} (hd : AllDigits d.digits) :
    IsUnsigned (Double.positional ".0" d) := by
  have hzero : AllDigits ['0'] := by
    intro c hc
    simp_all
  unfold Double.positional
  dsimp only
  split
  · -- the point stands behind all digits
    exact ⟨d.digits ++ List.replicate (d.point - d.digits.length).toNat '0', ['.', '0'], [],
      by simp, hd.append (allDigits_replicate_zero _), Or.inr ⟨['0'], rfl, hzero⟩,
      Or.inl rfl, by simp⟩
  · split
    · exact ⟨d.digits.take d.point.toNat, '.' :: d.digits.drop d.point.toNat, [],
        by simp, hd.sublist (List.take_sublist _ _),
        Or.inr ⟨_, rfl, hd.sublist (List.drop_sublist _ _)⟩, Or.inl rfl, by simp⟩
    · exact ⟨['0'], '.' :: (List.replicate (-d.point).toNat '0' ++ d.digits), [],
        by simp, hzero, Or.inr ⟨_, rfl, (allDigits_replicate_zero _).append hd⟩,
        Or.inl rfl, by simp⟩

theorem scientific_isUnsigned {d : Decimal} (hd : AllDigits d.digits) :
    IsUnsigned (Double.scientific d) := by
  have hexp : IsExponent ('e' :: (if d.point - 1 < 0 then '-' else '+')
      :: Nat.toDigits 10 (d.point - 1).natAbs) := by
    refine Or.inr ⟨_, _, rfl, ?_, allDigits_toDigits _⟩
    split
    · exact Or.inl rfl
    · exact Or.inr rfl
  unfold Double.scientific
  dsimp only
  split
  · refine ⟨['0'], [], _, rfl, ?_, Or.inl rfl, hexp, by simp⟩
    intro c hc
    simp_all
  · next c hdigits =>
    exact ⟨[c], [], _, rfl, hdigits ▸ hd, Or.inl rfl, hexp, by simp⟩
  · next c rest _ hdigits =>
    rw [hdigits] at hd
    refine ⟨[c], '.' :: rest, _, rfl, ?_, Or.inr ⟨rest, rfl, ?_⟩, hexp, by simp⟩
    · exact hd.sublist (by simp)
    · exact hd.sublist (by simp)

theorem real_isNumeral (d : Double) : IsNumeral (Double.write realLayout d) := by
  have hzero : IsUnsigned ['0', '.', '0'] := by
    refine ⟨['0'], ['.', '0'], [], rfl, ?_, Or.inr ⟨['0'], rfl, ?_⟩, Or.inl rfl, by simp⟩ <;>
    · intro c hc
      simp_all
  have hbody : ∀ cs, IsUnsigned cs →
      IsNumeral ((if d.negative then ['-'] else []) ++ cs) := by
    intro cs hcs
    split
    · exact Or.inr ⟨cs, rfl, hcs⟩
    · exact Or.inl hcs
  unfold Double.write
  dsimp only
  split
  · exact hbody _ hzero
  · refine hbody _ ?_
    split
    · exact positional_isUnsigned (shortest_digits d)
    · exact scientific_isUnsigned (shortest_digits d)

/-- Every number is written as a numeral. -/
theorem Number.write_isNumeral (n : Number) : IsNumeral n.write := by
  cases n with
  | whole n => exact integer_isNumeral n
  | real d => exact real_isNumeral d

end CloudSession.Json
