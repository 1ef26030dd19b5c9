/-
What is written of an instant is read back as that instant
(`readLenient_text`), for every instant that the readers themselves can
give (`readExpiry_wellFormed`).
-/
import CloudSession.Proofs.Success
import CloudSession.Proofs.Time.Calendar
import CloudSession.Proofs.Time.Scanning

namespace CloudSession.Instant

open Text

/-- An instant in range whose nanoseconds lie in its second, or in the leap
second that follows the last second of a minute. -/
structure WellFormed (i : Instant) : Prop where
  inRange : i.inRange = true
  nano : i.nano < nanosPerSecond ∨ i.nano < 2 * nanosPerSecond ∧ i.second % 60 = 59

-- ==================================================================== reading

theorem scanField_bounds {least most low high n : Nat} {cs rest : List Char}
    (h : scanField least most low high cs = .ok (n, rest)) : low ≤ n ∧ n ≤ high := by
  unfold scanField at h
  split at h
  · exact absurd h (by simp)
  · split at h
    · next hrange =>
      obtain ⟨rfl, -⟩ := Prod.mk.inj (Except.ok.inj h)
      simpa using hrange
    · exact absurd h (by simp)

/-- A number has as many digits as were taken. -/
theorem scanNumber_lt {least most n : Nat} {cs rest : List Char}
    (h : scanNumber least most cs = .ok (n, rest)) :
    n < 10 ^ (cs.length - rest.length) ∧ cs.length - rest.length ≤ most := by
  unfold scanNumber at h
  simp only at h
  split at h
  · exact absurd h (by simp)
  split at h
  · exact absurd h (by simp)
  obtain ⟨rfl, rfl⟩ := Prod.mk.inj (Except.ok.inj h)
  have hdigits : AllDigits ((cs.take most).takeWhile Char.isDigit) :=
    List.all_eq_true.mp List.all_takeWhile
  have hle := (List.takeWhile_sublist Char.isDigit (l := cs.take most)).length_le
  rw [List.length_take] at hle
  have hlength : cs.length - (cs.drop ((cs.take most).takeWhile Char.isDigit).length).length
      = ((cs.take most).takeWhile Char.isDigit).length := by
    rw [List.length_drop]
    omega
  rw [hlength]
  have hvalue := hdigits.value_lt
  rw [Nat.ofDigitChars_eq_foldl] at hvalue
  exact ⟨hvalue, by omega⟩

theorem scanFraction_lt {n : Nat} {cs rest : List Char} (h : scanFraction cs = .ok (n, rest)) :
    n < nanosPerSecond := by
  unfold scanFraction at h
  split at h
  · next digits =>
    split at h
    · exact absurd h (by simp)
    · next m after hread =>
      obtain ⟨rfl, -⟩ := Prod.mk.inj (Except.ok.inj h)
      obtain ⟨hlt, hmost⟩ := scanNumber_lt hread
      have hpow : 10 ^ (digits.length - after.length) * 10 ^ (9 - (digits.length - after.length))
          = nanosPerSecond := by
        rw [← Nat.pow_add, Nat.add_sub_cancel' hmost]
        rfl
      rw [← hpow]
      exact Nat.mul_lt_mul_of_pos_right hlt (Nat.pow_pos (by decide))
  · obtain ⟨rfl, -⟩ := Prod.mk.inj (Except.ok.inj h)
    decide

/-- Offsets are whole minutes. -/
theorem scanOffset_minutes {between : List Char → Except TimeFault (List Char)}
    {cs rest : List Char} {offset : Int} (h : scanOffset between cs = .ok (offset, rest)) :
    offset % 60 = 0 := by
  have hmagnitude : ∀ (sign : Int) (x : Except TimeFault (Nat × List Char))
      (f : List Char → Except TimeFault (List Char))
      (g : List Char → Except TimeFault (Nat × List Char)),
      (x.bind fun hours => (f hours.2).bind fun cs => (g cs).bind fun minutes =>
          .ok (sign * (3600 * (hours.1 : Int) + 60 * (minutes.1 : Int)), minutes.2))
        = .ok (offset, rest) →
      offset % 60 = 0 := by
    intro sign x f g h
    obtain ⟨⟨hours, r⟩, -, h⟩ := bind_eq_ok h
    obtain ⟨r, -, h⟩ := bind_eq_ok h
    obtain ⟨⟨minutes, r⟩, -, h⟩ := bind_eq_ok h
    obtain ⟨rfl, -⟩ := Prod.mk.inj (Except.ok.inj h)
    have hminutes : (60 : Int) ∣ 3600 * hours + 60 * minutes := by omega
    exact Int.emod_eq_zero_of_dvd (Int.dvd_trans hminutes (Int.dvd_mul_left sign _))
  unfold scanOffset at h
  simp only at h
  split at h
  · exact absurd h (by simp)
  · split at h
    · obtain ⟨rfl, -⟩ := Prod.mk.inj (Except.ok.inj h)
      rfl
    split at h
    · exact hmagnitude _ _ _ _ h
    split at h
    · exact hmagnitude _ _ _ _ h
    · exact absurd h (by simp)

-- ================================================================ well-formed

theorem toInstant?_wellFormed {l : Local} {offset : Int} {i : Instant}
    (h : l.toInstant? offset = some i) (hsecond : l.second ≤ 60)
    (hnano : l.nano < nanosPerSecond) (hoffset : offset % 60 = 0) : i.WellFormed := by
  unfold Local.toInstant? at h
  simp only at h
  split at h
  · split at h
    · next hrange =>
      obtain rfl := Option.some.inj h
      refine ⟨hrange, ?_⟩
      simp only [nanosPerSecond, secondsPerDay] at *
      by_cases hleap : l.second = 60
      · rw [hleap]
        exact Or.inr ⟨by omega, by omega⟩
      · rw [show l.second / 60 = 0 by omega]
        exact Or.inl (by omega)
    · exact absurd h (by simp)
  · exact absurd h (by simp)

theorem readStrict_wellFormed {s : List Char} {i : Instant} (h : readStrict s = .ok i) :
    i.WellFormed := by
  unfold readStrict at h
  obtain ⟨⟨year, s⟩, -, h⟩ := bind_eq_ok h
  obtain ⟨s, -, h⟩ := bind_eq_ok h
  obtain ⟨⟨month, s⟩, -, h⟩ := bind_eq_ok h
  obtain ⟨s, -, h⟩ := bind_eq_ok h
  obtain ⟨⟨day, s⟩, -, h⟩ := bind_eq_ok h
  obtain ⟨s, -, h⟩ := bind_eq_ok h
  obtain ⟨⟨hour, s⟩, -, h⟩ := bind_eq_ok h
  obtain ⟨s, -, h⟩ := bind_eq_ok h
  obtain ⟨⟨minute, s⟩, -, h⟩ := bind_eq_ok h
  obtain ⟨s, -, h⟩ := bind_eq_ok h
  obtain ⟨⟨second, s⟩, hsecond, h⟩ := bind_eq_ok h
  obtain ⟨⟨nano, s⟩, hnano, h⟩ := bind_eq_ok h
  obtain ⟨⟨offset, s⟩, hoffset, h⟩ := bind_eq_ok h
  replace h := guard_eq_ok (guard_eq_ok h)
  split at h
  · next hread =>
    obtain rfl := Except.ok.inj h
    exact toInstant?_wellFormed hread (scanField_bounds hsecond).2 (scanFraction_lt hnano)
      (scanOffset_minutes hoffset)
  · exact absurd h (by simp [throw, throwThe, MonadExceptOf.throw])

theorem readNaive_wellFormed {s : List Char} {i : Instant} (h : readNaive s = .ok i) :
    i.WellFormed := by
  unfold readNaive at h
  obtain ⟨⟨year, s⟩, -, h⟩ := bind_eq_ok h
  obtain ⟨s, -, h⟩ := bind_eq_ok h
  obtain ⟨⟨month, s⟩, -, h⟩ := bind_eq_ok h
  obtain ⟨s, -, h⟩ := bind_eq_ok h
  obtain ⟨⟨day, s⟩, -, h⟩ := bind_eq_ok h
  obtain ⟨s, -, h⟩ := bind_eq_ok h
  obtain ⟨⟨hour, s⟩, -, h⟩ := bind_eq_ok h
  obtain ⟨s, -, h⟩ := bind_eq_ok h
  obtain ⟨⟨minute, s⟩, -, h⟩ := bind_eq_ok h
  obtain ⟨s, -, h⟩ := bind_eq_ok h
  obtain ⟨⟨second, s⟩, hsecond, h⟩ := bind_eq_ok h
  obtain ⟨⟨nano, s⟩, hnano, h⟩ := bind_eq_ok h
  replace h := guard_eq_ok h
  split at h
  · next hread =>
    obtain rfl := Except.ok.inj h
    exact toInstant?_wellFormed hread (scanField_bounds hsecond).2 (scanFraction_lt hnano) rfl
  · exact absurd h (by simp [throw, throwThe, MonadExceptOf.throw])

/-- An expiry that is read is well-formed. -/
theorem readExpiry_wellFormed {s : String} {i : Instant} (h : readExpiry s = .ok i) :
    i.WellFormed := by
  unfold readExpiry at h
  split at h
  · next hread =>
    obtain rfl := Except.ok.inj h
    exact readStrict_wellFormed hread
  · exact readNaive_wellFormed h

/-- So is a zone of a stored document: `UTC` or an offset. -/
theorem scanZone_minutes {cs rest : List Char} {offset : Int}
    (h : scanZone cs = .ok (offset, rest)) : offset % 60 = 0 := by
  unfold scanZone at h
  split at h
  · split at h
    · obtain ⟨rfl, -⟩ := Prod.mk.inj (Except.ok.inj h)
      rfl
    · exact scanOffset_minutes h
  · exact scanOffset_minutes h

theorem readLenient_wellFormed {s : List Char} {i : Instant} (h : readLenient s = .ok i) :
    i.WellFormed := by
  unfold readLenient at h
  obtain ⟨⟨year, s⟩, -, h⟩ := bind_eq_ok h
  obtain ⟨s, -, h⟩ := bind_eq_ok h
  obtain ⟨⟨month, s⟩, -, h⟩ := bind_eq_ok h
  obtain ⟨s, -, h⟩ := bind_eq_ok h
  obtain ⟨⟨day, s⟩, -, h⟩ := bind_eq_ok h
  obtain ⟨s, -, h⟩ := bind_eq_ok h
  obtain ⟨⟨hour, s⟩, -, h⟩ := bind_eq_ok h
  obtain ⟨s, -, h⟩ := bind_eq_ok h
  obtain ⟨⟨minute, s⟩, -, h⟩ := bind_eq_ok h
  obtain ⟨s, -, h⟩ := bind_eq_ok h
  obtain ⟨⟨second, s⟩, hsecond, h⟩ := bind_eq_ok h
  obtain ⟨⟨nano, s⟩, hnano, h⟩ := bind_eq_ok h
  obtain ⟨⟨offset, s⟩, hoffset, h⟩ := bind_eq_ok h
  replace h := guard_eq_ok (guard_eq_ok h)
  split at h
  · next hread =>
    obtain rfl := Except.ok.inj h
    exact toInstant?_wellFormed hread (scanField_bounds hsecond).2 (scanFraction_lt hnano)
      (scanZone_minutes hoffset)
  · exact absurd h (by simp [throw, throwThe, MonadExceptOf.throw])

/-- The day of an instant in range lies in a year that has dates. -/
theorem year_bounds {i : Instant} (h : i.inRange = true) :
    -262143 ≤ (Date.ofDay (i.second / secondsPerDay)).year ∧
      (Date.ofDay (i.second / secondsPerDay)).year ≤ 262142 := by
  simp only [inRange, Bool.and_eq_true, decide_eq_true_eq] at h
  have hmin : minSecond = Date.daysBeforeYear (-262143) * 86400 := by decide
  have hmax : maxSecond = Date.daysBeforeYear (262142 + 1) * 86400 - 1 := by decide
  rw [hmin, hmax] at h
  exact Date.yearOfDay_bounds (by simp only [secondsPerDay]; omega)
    (by simp only [secondsPerDay]; omega)

-- ================================================================ local times

/-- The date and the time of day that clocks in a zone show at an instant. -/
def localTime (zone : Zone) (i : Instant) : Local :=
  let localSecond := i.second + zone.seconds
  let ofDay := (localSecond % secondsPerDay).toNat
  ⟨Date.ofDay (localSecond / secondsPerDay), ofDay / 3600, ofDay / 60 % 60,
    ofDay % 60 + i.nano / nanosPerSecond, i.nano % nanosPerSecond⟩

/-- A spelling puts down the parts of the local time and the mark of the zone. -/
theorem spell_eq (zone : Zone) (places : Nat) (i : Instant) :
    spell zone places i =
      yearText (i.localTime zone).date.year ++ '-' :: padded 2 (i.localTime zone).date.month ++
        '-' :: padded 2 (i.localTime zone).date.day ++ 'T' :: padded 2 (i.localTime zone).hour ++
        ':' :: padded 2 (i.localTime zone).minute ++ ':' :: padded 2 (i.localTime zone).second ++
        fractionText places (i.localTime zone).nano ++ zoneText zone := rfl

/-- The parts of a local time lie in the ranges that the readers ask for. -/
structure Local.InRange (l : Local) : Prop where
  month : 1 ≤ l.date.month ∧ l.date.month ≤ 12
  day : 1 ≤ l.date.day ∧ l.date.day ≤ 31
  hour : l.hour ≤ 23
  minute : l.minute ≤ 59
  second : l.second ≤ 60
  nano : l.nano < nanosPerSecond

section LocalTime

variable {i : Instant} {zone : Zone}

theorem localTime_inRange (h : i.WellFormed) : (i.localTime zone).InRange := by
  obtain ⟨hmonth, hmonth', hday, hday'⟩ :=
    Date.ofDay_parts ((i.second + zone.seconds) / secondsPerDay)
  have hlt : ((i.second + zone.seconds) % secondsPerDay).toNat < 86400 := by
    have := Int.emod_lt_of_pos (i.second + zone.seconds)
      (show 0 < (secondsPerDay : Int) by decide)
    simp only [secondsPerDay] at *
    omega
  have hnano : i.nano / nanosPerSecond ≤ 1 := by
    have := h.nano
    simp only [nanosPerSecond] at *
    omega
  exact ⟨⟨hmonth, hmonth'⟩, ⟨hday, hday'⟩, by simp only [localTime]; omega,
    by simp only [localTime]; omega, by simp only [localTime]; omega, Nat.mod_lt _ (by decide)⟩

/-- A local time in a year that has dates is that of its instant. -/
theorem toInstant?_localTime (h : i.WellFormed)
    (hyears : -262143 ≤ (i.localTime zone).date.year ∧ (i.localTime zone).date.year ≤ 262142) :
    (i.localTime zone).toInstant? zone.seconds = some i := by
  have hminutes : zone.seconds % 60 = 0 := by cases zone <;> simp [Zone.seconds]
  have hdaySecond : (((i.second + zone.seconds) % secondsPerDay).toNat : Int)
      = (i.second + zone.seconds) % secondsPerDay :=
    Int.toNat_of_nonneg (Int.emod_nonneg _ (by decide))
  have hday : (i.localTime zone).date.toDay = (i.second + zone.seconds) / secondsPerDay :=
    Date.toDay_ofDay _
  have hwhole : (⟨(i.localTime zone).date.toDay * secondsPerDay
      + 3600 * (i.localTime zone).hour + 60 * (i.localTime zone).minute
      + ((i.localTime zone).second - (i.localTime zone).second / 60 : Nat) - zone.seconds,
      (i.localTime zone).nano + (i.localTime zone).second / 60 * nanosPerSecond⟩ : Instant)
        = i := by
    obtain ⟨second, nano⟩ := i
    have hnano := h.nano
    rw [hday, Instant.mk.injEq]
    simp only [localTime, nanosPerSecond, secondsPerDay] at *
    omega
  have hvalid : (i.localTime zone).date.isValid = true := Date.isValid_ofDay _
  unfold Local.toInstant?
  simp only [hvalid, hyears, decide_true, Bool.and_self, if_true]
  rw [hwhole, if_pos h.inRange]

end LocalTime

-- ================================================================= read back

/-- A spelling in UTC with enough digits for the fraction reads back. -/
theorem readLenient_spell {i : Instant} (h : i.WellFormed) {places : Nat} (hplaces : places ≤ 9)
    (hwritten : i.nano % nanosPerSecond % 10 ^ (9 - places) = 0) :
    readLenient (spell .zulu places i) = .ok i := by
  have hyears :
      -262143 ≤ (i.localTime .zulu).date.year ∧ (i.localTime .zulu).date.year ≤ 262142 := by
    have hyears := year_bounds h.inRange
    rwa [← Int.add_zero i.second] at hyears
  have hwhole := toInstant?_localTime h hyears
  have hrange : (i.localTime .zulu).InRange := localTime_inRange h
  replace hwritten : (i.localTime .zulu).nano % 10 ^ (9 - places) = 0 := hwritten
  rw [spell_eq]
  generalize i.localTime .zulu = l at *
  obtain ⟨⟨year, month, day⟩, hour, minute, second, nano⟩ := l
  obtain ⟨hmonth, hday, hhour, hminute, hsecond, hnano⟩ := hrange
  have hdash : Text.isBlank '-' = false := by decide
  have hcolon : Text.isBlank ':' = false := by decide
  simp only [List.append_assoc, List.cons_append] at *
  rw [readLenient, afterBlanks_yearText,
    scanYear_yearText (by omega) (by omega) (endsDigits_cons (by decide) _)]
  simp only [bind, Except.bind, afterBlanks_cons hdash, scanChar_cons, afterBlanks_padded]
  rw [scanField_padded (by decide) hmonth.1 hmonth.2 (by omega)]
  simp only [afterBlanks_cons hdash, scanChar_cons, afterBlanks_padded]
  rw [scanField_padded (by decide) hday.1 hday.2 (by omega)]
  simp only [scanDateEnd, beq_self_eq_true, Bool.true_or, if_true, afterBlanks_padded]
  rw [scanField_padded (by decide) (Nat.zero_le _) hhour (by omega)]
  simp only [afterBlanks_cons hcolon, scanChar_cons, afterBlanks_padded]
  rw [scanField_padded (by decide) (Nat.zero_le _) hminute (by omega)]
  simp only [afterBlanks_cons hcolon, scanChar_cons, afterBlanks_padded]
  rw [scanField_padded (by decide) (Nat.zero_le _) hsecond (by omega)]
  simp only
  rw [zoneText, scanFraction_fractionText hplaces hnano hwritten (endsDigits_cons (by decide) _)
    (by simp)]
  simp only
  rw [afterBlanks_cons (by decide), show scanZone ['Z'] = .ok (0, []) from rfl]
  simp only
  rw [show Zone.zulu.seconds = 0 from rfl] at hwhole
  rw [hwhole]
  rfl

/-- The places that an instant needs write its fraction. -/
theorem neededPlaces_spec (i : Instant) :
    i.neededPlaces ≤ 9 ∧ i.nano % nanosPerSecond % 10 ^ (9 - i.neededPlaces) = 0 := by
  unfold neededPlaces
  simp only [beq_iff_eq]
  split
  · next hnone => exact ⟨by decide, by rw [hnone, Nat.zero_mod]⟩
  split
  · next hmilli => exact ⟨by decide, hmilli⟩
  split
  · next hmicro => exact ⟨by decide, hmicro⟩
  · exact ⟨by decide, Nat.mod_one _⟩

/-- An instant in a document reads back. -/
theorem readLenient_text {i : Instant} (h : i.WellFormed) :
    readLenient i.text.toList = .ok i := by
  obtain ⟨hplaces, hwritten⟩ := neededPlaces_spec i
  rw [text, String.toList_ofList]
  exact readLenient_spell h hplaces hwritten

end CloudSession.Instant
