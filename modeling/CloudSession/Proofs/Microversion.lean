/-
Microversions and their texts. A text is read as the microversion that its one or two words
name (`parse_eq_ok_iff`), and what has other words is refused (`parse_eq_error_iff`). So the
parts of what was read are words, and it is read again from the text that it is written as
(`asks_of_parse`).
-/
import CloudSession.Microversion
import CloudSession.Proofs.Text.Words

namespace CloudSession.Microversion

variable {m : Microversion} {s value : String}

-- ===================================================================== reading

/-- A text names a microversion: its words are the service and the version, or it has the
version as its only word and the service is compute. -/
inductive NamedBy (m : Microversion) (s : String) : Prop
  | both : Text.Worded s.toList [m.service.toList, m.version.toList] → NamedBy m s
  | version : m.service = "compute" → Text.Worded s.toList [m.version.toList] → NamedBy m s

theorem namedBy_iff :
    m.NamedBy s ↔ Text.words s.toList = [m.service.toList, m.version.toList] ∨
      m.service = "compute" ∧ Text.words s.toList = [m.version.toList] := by
  rw [Text.words_eq_iff, Text.words_eq_iff]
  constructor
  · intro h
    cases h with
    | both hwords => exact .inl hwords
    | version hservice hwords => exact .inr ⟨hservice, hwords⟩
  · rintro (hwords | ⟨hservice, hwords⟩)
    · exact .both hwords
    · exact .version hservice hwords

theorem ofList_eq_iff {cs : List Char} {text : String} :
    String.ofList cs = text ↔ cs = text.toList := by
  rw [← String.toList_inj, String.toList_ofList]

/-- What is read is what the text names. -/
theorem parse_eq_ok_iff : parse s = .ok m ↔ m.NamedBy s := by
  obtain ⟨service, version⟩ := m
  rw [namedBy_iff, parse]
  generalize Text.words s.toList = words
  rcases words with _ | ⟨first, _ | ⟨second, _ | ⟨third, rest⟩⟩⟩
  · simp
  · simp [ofList_eq_iff, eq_comm (a := "compute")]
  · simp [ofList_eq_iff]
  · simp

/-- What has no word or more than two is refused. -/
theorem parse_eq_error_iff {e : SessionError} :
    parse s = .error e ↔
      (Text.words s.toList).length ∉ [1, 2] ∧ e = .configuration (.microversion s) := by
  rw [parse]
  generalize Text.words s.toList = words
  rcases words with _ | ⟨first, _ | ⟨second, _ | ⟨third, rest⟩⟩⟩
  · simp [eq_comm]
  · simp
  · simp
  · simp [eq_comm]

/-- One word or two are read. -/
theorem exists_parse_iff : (∃ m, parse s = .ok m) ↔ (Text.words s.toList).length ∈ [1, 2] := by
  cases hparse : parse s with
  | ok m =>
    refine iff_of_true ⟨m, rfl⟩ (Decidable.byContradiction fun hlength => ?_)
    exact nomatch hparse.symm.trans (parse_eq_error_iff.mpr ⟨hlength, rfl⟩)
  | error e => exact iff_of_false (fun ⟨_, hm⟩ => nomatch hm) (parse_eq_error_iff.mp hparse).1

-- ===================================================================== writing

/-- A text asks for a microversion: it is the service and the version, two words with one
space between them, and the microversion is read from it. -/
structure Asks (m : Microversion) (value : String) : Prop where
  spaced : value = m.service ++ " " ++ m.version
  service : Text.IsWord m.service.toList
  version : Text.IsWord m.version.toList
  read : parse value = .ok m

/-- The parts of what is read are words. -/
theorem NamedBy.isWord (h : m.NamedBy s) :
    Text.IsWord m.service.toList ∧ Text.IsWord m.version.toList := by
  cases h with
  | both hwords =>
    have hall := hwords.isWord
    exact ⟨hall _ (by simp), hall _ (by simp)⟩
  | version hservice hwords =>
    have hcompute : Text.IsWord "compute".toList := ⟨by decide, by simp [Text.isBlank]⟩
    exact ⟨hservice ▸ hcompute, hwords.isWord _ (by simp)⟩

/-- The text of two words names them. -/
theorem namedBy_text (hservice : Text.IsWord m.service.toList)
    (hversion : Text.IsWord m.version.toList) : m.NamedBy m.text := by
  have htext : m.text.toList = m.service.toList ++ (' ' :: m.version.toList) := by
    rw [text, String.toList_append, String.toList_append, List.append_assoc]
    rfl
  have hlast : Text.Worded m.version.toList [m.version.toList] := by
    have hworded := Text.Worded.word hversion Text.endsWord_nil .nil
    rwa [List.append_nil] at hworded
  refine .both ?_
  rw [htext]
  exact .word hservice (Text.endsWord_cons (by decide) _) (.blank (by decide) hlast)

/-- The text of what was read asks for it. -/
theorem asks_of_parse (h : parse s = .ok m) : m.Asks m.text := by
  obtain ⟨hservice, hversion⟩ := (parse_eq_ok_iff.mp h).isWord
  exact ⟨rfl, hservice, hversion, parse_eq_ok_iff.mpr (namedBy_text hservice hversion)⟩

end CloudSession.Microversion
