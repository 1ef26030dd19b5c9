/-
A text can be read back from how it stands between quotes. What a character
is escaped to shows where it ends and which character it was
(`unescape?_escaped`), so different texts look different in a log
(`quoted_injective`).
-/
import CloudSession.Log.Quoted
import CloudSession.Proofs.Text.Hex
import Mathlib.Tactic.SplitIfs

namespace CloudSession.Log

/-- The character that a letter behind a backslash stands for. -/
def named (c : Char) : Char :=
  if c = '0' then Char.ofNat 0
  else if c = 't' then '\t'
  else if c = 'r' then '\r'
  else if c = 'n' then '\n'
  else c

/-- The first character of a text that stands between quotes, and what follows
it there. -/
def unescape? (cs : List Char) : Option (Char × List Char) :=
  match cs with
  | [] => none
  | c :: rest =>
    if c ≠ '\\' then some (c, rest)
    else
      match rest with
      | [] => none
      | k :: rest =>
        if k ≠ 'u' then some (named k, rest)
        else
          let digits := (rest.drop 1).takeWhile (· != '\x7d')
          some (Char.ofNat (Text.Hex.total digits), rest.drop (digits.length + 2))

theorem unescape?_plain {c : Char} (hc : c ≠ '\\') (rest : List Char) :
    unescape? ([c] ++ rest) = some (c, rest) :=
  if_pos hc

theorem unescape?_named {c k : Char} (hk : k ≠ 'u') (hc : named k = c) (rest : List Char) :
    unescape? (['\\', k] ++ rest) = some (c, rest) := by
  subst hc
  exact if_pos hk

theorem unescape?_code (c : Char) (rest : List Char) :
    unescape? (code c ++ rest) = some (c, rest) := by
  have hdigits : (Text.Hex.ofNat c.toNat ++ '\x7d' :: rest).takeWhile (· != '\x7d')
      = Text.Hex.ofNat c.toNat := by
    have hdigit : ∀ k : Fin 16, (Text.Hex.digit k.val != '\x7d') = true := by decide
    have hall : ∀ d ∈ Text.Hex.ofNat c.toNat, (d != '\x7d') = true :=
      Text.Hex.forall_mem_ofNat (p := fun d => (d != '\x7d') = true)
        (fun k hk => hdigit ⟨k, hk⟩) _
    rw [List.takeWhile_append_of_pos hall]
    simp
  have hcode : code c ++ rest
      = '\\' :: 'u' :: '\x7b' :: (Text.Hex.ofNat c.toNat ++ '\x7d' :: rest) := by
    simp [code]
  rw [hcode, unescape?, if_neg (by decide)]
  simp only [ne_eq, not_true_eq_false, if_false, List.drop_succ_cons, List.drop_zero, hdigits,
    Text.Hex.total_ofNat, Char.ofNat_toNat]
  simp

/-- An escaped character is read back, whatever follows it. -/
theorem unescape?_escaped (c : Char) (rest : List Char) :
    unescape? (escaped c ++ rest) = some (c, rest) := by
  have hplain : ¬(c == '"' || c == '\\') = true → c ≠ '\\' := by
    intro hmark hback
    exact hmark (by simp [hback])
  unfold escaped
  split_ifs with hzero htab hreturn hline hmark hlow hascii hunseen
  · have hnul : c = Char.ofNat 0 := by rw [← beq_iff_eq.mp hzero, Char.ofNat_toNat]
    exact unescape?_named (by decide) (by rw [hnul]; rfl) rest
  · exact unescape?_named (by decide) (by rw [beq_iff_eq.mp htab]; rfl) rest
  · exact unescape?_named (by decide) (by rw [beq_iff_eq.mp hreturn]; rfl) rest
  · exact unescape?_named (by decide) (by rw [beq_iff_eq.mp hline]; rfl) rest
  · rw [Bool.or_eq_true, beq_iff_eq, beq_iff_eq] at hmark
    rcases hmark with rfl | rfl
    · exact unescape?_named (by decide) rfl rest
    · exact unescape?_named (by decide) rfl rest
  · exact unescape?_code c rest
  · exact unescape?_plain (hplain hmark) rest
  · exact unescape?_code c rest
  · exact unescape?_plain (hplain hmark) rest

/-- Texts that are escaped alike are the same. -/
theorem escaped_injective {cs ds : List Char}
    (h : cs.flatMap escaped = ds.flatMap escaped) : cs = ds := by
  have hread : ∀ (c : Char) (cs : List Char),
      unescape? ((c :: cs).flatMap escaped) = some (c, cs.flatMap escaped) := by
    intro c cs
    rw [List.flatMap_cons, unescape?_escaped]
  induction cs generalizing ds with
  | nil =>
    cases ds with
    | nil => rfl
    | cons d ds => exact absurd ((congrArg unescape? h).trans (hread d ds)) (by simp [unescape?])
  | cons c cs ih =>
    cases ds with
    | nil =>
      exact absurd ((hread c cs).symm.trans (congrArg unescape? h)) (by simp [unescape?])
    | cons d ds =>
      have hboth := (hread c cs).symm.trans ((congrArg unescape? h).trans (hread d ds))
      obtain ⟨rfl, hrest⟩ := Prod.mk.inj (Option.some.inj hboth)
      rw [ih hrest]

theorem quoted_injective {s t : String} (h : quoted s = quoted t) : s = t := by
  have hescaped : s.toList.flatMap escaped = t.toList.flatMap escaped :=
    List.append_cancel_right (List.cons.inj h).2
  exact String.toList_injective (escaped_injective hescaped)

end CloudSession.Log
