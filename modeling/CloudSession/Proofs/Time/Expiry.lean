/-
Expiries as identity services write them. A spelling that tells the whole
instant (`Tells`) is read as that instant, whichever zone it is written in and
however many digits its fraction has (`readExpiry_spell`): the strict reader
takes it if it marks its zone, and the naive reader if not, since the strict
one gets as far as the missing mark (`readStrict_spell`).
-/
import CloudSession.Proofs.Time.RoundTrip

namespace CloudSession.Instant

open Text

-- ===================================================================== zones

theorem endsDigits_zoneText (zone : Zone) : EndsDigits (zoneText zone) := by
  cases zone with
  | zulu => exact endsDigits_cons (by decide) _
  | offset minutes =>
    rw [zoneText, List.cons_append]
    split <;> exact endsDigits_cons (by decide) _
  | unmarked => exact fun c r h => absurd h.symm (List.cons_ne_nil c r)

theorem zoneText_ne_point (zone : Zone) (r : List Char) : zoneText zone ≠ '.' :: r := by
  cases zone with
  | zulu => simp [zoneText]
  | offset minutes =>
    rw [zoneText, List.cons_append]
    split <;> simp
  | unmarked => simp [zoneText]

/-- A number below a hundred is written in two digits. -/
theorem padded_two {n : Nat} (h : n < 100) :
    ∃ a b, padded 2 n = [a, b] ∧ a.isDigit = true ∧ b.isDigit = true ∧
      (a.toNat - 48) * 10 + (b.toNat - 48) = n := by
  have hlength : (padded 2 n).length = 2 := length_padded (by decide) h
  have hdigits := allDigits_padded 2 n
  have hvalue := value_padded 2 n
  match hab : padded 2 n, hlength with
  | [a, b], _ =>
    rw [hab] at hdigits hvalue
    refine ⟨a, b, rfl, hdigits a (by simp), hdigits b (by simp), ?_⟩
    rw [← hvalue]
    simp [Nat.ofDigitChars_cons]
    omega

theorem scanOffset_zoneText {minutes : Int} (h : minutes.natAbs < 1440) :
    scanOffset (scanChar ':') (zoneText (.offset minutes)) = .ok (60 * minutes, []) := by
  have hhours : minutes.natAbs / 60 < 100 := by omega
  have hrest : minutes.natAbs % 60 < 60 := Nat.mod_lt _ (by decide)
  have hparts : minutes.natAbs = 60 * (minutes.natAbs / 60) + minutes.natAbs % 60 := by omega
  rw [zoneText]
  generalize minutes.natAbs / 60 = hours, minutes.natAbs % 60 = rest at *
  obtain ⟨a, b, hab, ha, hb, hvalue⟩ := padded_two hhours
  obtain ⟨d, e, hde, hd, he, hvalue'⟩ := padded_two (Nat.lt_trans hrest (by decide))
  rw [hab, hde]
  -- Both signs are read in the same way, and the minutes keep the one they had.
  split
  all_goals
    simp [scanOffset, ha, hb, hd, he, hvalue, hvalue', hhours, hrest, scanChar_cons, bind,
      Except.bind, pure, Except.pure]
    omega

-- ================================================================= spellings

/-- A spelling that tells the whole instant, which lies in no leap second: its
year has four digits, its offset is less than a day, and its digits write the
fraction. -/
structure Tells (zone : Zone) (places : Nat) (i : Instant) : Prop where
  nano : i.nano < nanosPerSecond
  year : 0 ≤ (i.localTime zone).date.year ∧ (i.localTime zone).date.year ≤ 9999
  offset : zone.seconds.natAbs < secondsPerDay
  width : places ≤ 9
  fraction : i.nano % 10 ^ (9 - places) = 0

section Tells

variable {zone : Zone} {places : Nat} {i : Instant}

/-- Years of four digits lie far inside the range of instants. -/
theorem Tells.wellFormed (h : Tells zone places i) : i.WellFormed := by
  have hyear : (i.localTime zone).date.year
      = Date.yearOfDay ((i.second + zone.seconds) / secondsPerDay) := by
    obtain ⟨_, _, _, heq, -⟩ := Date.ofDay_spec ((i.second + zone.seconds) / secondsPerDay)
    rw [localTime, heq]
  obtain ⟨hlow, hhigh⟩ := hyear ▸ h.year
  obtain ⟨hstart, hend⟩ := Date.yearOfDay_spec ((i.second + zone.seconds) / secondsPerDay)
  have hfirst := Date.daysBeforeYear_mono hlow
  have hlast := Date.daysBeforeYear_mono (Int.add_le_add_right hhigh 1)
  have hoffset := h.offset
  have hrange : i.inRange = true := by
    simp only [inRange, Bool.and_eq_true, decide_eq_true_eq]
    have hzero : Date.daysBeforeYear 0 = -719528 := by decide
    have hnext : Date.daysBeforeYear (9999 + 1) = 2932897 := by decide
    have hmin : minSecond = -8334601228800 := by decide
    have hmax : maxSecond = 8210266876799 := by decide
    rw [hzero] at hfirst
    rw [hnext] at hlast
    rw [hmin, hmax]
    simp only [secondsPerDay] at *
    omega
  exact ⟨hrange, Or.inl h.nano⟩

theorem Tells.toInstant? (h : Tells zone places i) :
    (i.localTime zone).toInstant? zone.seconds = some i :=
  toInstant?_localTime h.wellFormed ⟨by have := h.year; omega, by have := h.year; omega⟩

/-- No digit of the local time's fraction is left out. -/
theorem Tells.localNano (h : Tells zone places i) :
    (i.localTime zone).nano % 10 ^ (9 - places) = 0 := by
  show i.nano % nanosPerSecond % _ = 0
  rw [Nat.mod_eq_of_lt h.nano]
  exact h.fraction

/-- Only the mark of the zone decides how the strict reader takes a spelling:
all that stands before it is read as it was written. -/
theorem readStrict_spell (h : Tells zone places i) :
    readStrict (spell zone places i)
      = (scanOffset (scanChar ':') (zoneText zone)).bind fun (offset, rest) =>
        if offset.natAbs > (23 * 60 + 59) * 60 then .error .range
        else if !rest.isEmpty then .error .trailing
        else match (i.localTime zone).toInstant? offset with
          | some i => .ok i
          | none => .error .range := by
  have hrange : (i.localTime zone).InRange := localTime_inRange h.wellFormed
  have hfraction := h.localNano
  have hyear := h.year
  have hplaces := h.width
  rw [spell_eq]
  generalize i.localTime zone = l at *
  obtain ⟨⟨year, month, day⟩, hour, minute, second, nano⟩ := l
  obtain ⟨hmonth, hday, hhour, hminute, hsecond, hnano⟩ := hrange
  have hfour : yearText year = padded 4 year.toNat := by
    simp only at hyear
    simp [yearText, hyear]
  simp only [List.append_assoc, List.cons_append] at *
  rw [readStrict, hfour, scanNumber_padded (by decide) (by decide) (by omega)]
  simp only [bind, Except.bind, scanChar_cons]
  rw [scanField_padded (by decide) hmonth.1 hmonth.2 (by omega)]
  simp only [scanChar_cons]
  rw [scanField_padded (by decide) hday.1 hday.2 (by omega)]
  simp only [scanDateEnd, beq_self_eq_true, Bool.true_or, if_true]
  rw [scanField_padded (by decide) (Nat.zero_le _) hhour (by omega)]
  simp only [scanChar_cons]
  rw [scanField_padded (by decide) (Nat.zero_le _) hminute (by omega)]
  simp only [scanChar_cons]
  rw [scanField_padded (by decide) (Nat.zero_le _) hsecond (by omega)]
  simp only
  rw [scanFraction_fractionText hplaces hnano hfraction (endsDigits_zoneText zone)
    (zoneText_ne_point zone)]
  simp only [Int.toNat_of_nonneg hyear.1]
  cases scanOffset (scanChar ':') (zoneText zone) with
  | error e => rfl
  | ok x =>
    simp only
    split
    · rfl
    · split <;> rfl

-- ==================================================================== readers

/-- A spelling that marks its zone is an internet timestamp. -/
theorem readStrict_marked (h : Tells zone places i)
    (hmark : scanOffset (scanChar ':') (zoneText zone) = .ok (zone.seconds, [])) :
    readStrict (spell zone places i) = .ok i := by
  have hoffset := h.offset
  have hminutes : zone.seconds % 60 = 0 := by cases zone <;> simp [Zone.seconds]
  rw [readStrict_spell h, hmark]
  simp only [Except.bind, h.toInstant?]
  rw [if_neg (by simp only [secondsPerDay] at hoffset; omega)]
  rfl

/-- One without a mark is a date and time in UTC. -/
theorem readNaive_spell (h : Tells .unmarked places i) :
    readNaive (spell .unmarked places i) = .ok i := by
  have hrange : (i.localTime .unmarked).InRange := localTime_inRange h.wellFormed
  have hfraction := h.localNano
  have hyear := h.year
  have hplaces := h.width
  have hwhole := h.toInstant?
  rw [spell_eq]
  generalize i.localTime .unmarked = l at *
  obtain ⟨⟨year, month, day⟩, hour, minute, second, nano⟩ := l
  obtain ⟨hmonth, hday, hhour, hminute, hsecond, hnano⟩ := hrange
  simp only [List.append_assoc, List.cons_append] at *
  rw [readNaive, afterBlanks_yearText,
    scanYear_yearText (by omega) (by omega) (endsDigits_cons (by decide) _)]
  simp only [bind, Except.bind, scanChar_cons, afterBlanks_padded]
  rw [scanField_padded (by decide) hmonth.1 hmonth.2 (by omega)]
  simp only [scanChar_cons, afterBlanks_padded]
  rw [scanField_padded (by decide) hday.1 hday.2 (by omega)]
  simp only [scanChar_cons, afterBlanks_padded]
  rw [scanField_padded (by decide) (Nat.zero_le _) hhour (by omega)]
  simp only [scanChar_cons, afterBlanks_padded]
  rw [scanField_padded (by decide) (Nat.zero_le _) hminute (by omega)]
  simp only [scanChar_cons, afterBlanks_padded]
  rw [scanField_padded (by decide) (Nat.zero_le _) hsecond (by omega)]
  simp only
  rw [scanFraction_fractionText hplaces hnano hfraction (endsDigits_zoneText .unmarked)
    (zoneText_ne_point .unmarked)]
  rw [show Zone.unmarked.seconds = 0 from rfl] at hwhole
  simp only [zoneText, List.isEmpty_nil, Bool.not_true, Bool.false_eq_true, if_false, hwhole]
  rfl

/-- An expiry is read as the instant that it tells. -/
theorem readExpiry_spell (h : Tells zone places i) :
    readExpiry (String.ofList (spell zone places i)) = .ok i := by
  rw [readExpiry, String.toList_ofList]
  cases zone with
  | zulu => rw [readStrict_marked h rfl]
  | offset minutes =>
    have hoffset := h.offset
    rw [readStrict_marked h (scanOffset_zoneText (by
      simp only [Zone.seconds, secondsPerDay] at hoffset
      omega))]
  | unmarked =>
    rw [readStrict_spell h, show scanOffset _ (zoneText .unmarked) = .error .short from rfl]
    exact readNaive_spell h

end Tells

end CloudSession.Instant
