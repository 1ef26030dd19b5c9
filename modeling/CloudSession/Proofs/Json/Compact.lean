/-
Reading a value that was written without blanks. Where its numbers read back, its text is
read up to its end and no further, as a syntax tree that spells the value
(`value?_compact`). So the bytes of a readable value decode to it and to nothing else
(`readBytes?_compact`).
-/
import CloudSession.Proofs.Json.Readable
import CloudSession.Proofs.Text.Utf8

namespace CloudSession.Json

-- ===================================================================== texts

theorem compactChars_head (v : Json) : ∃ c cs, compactChars v = c :: cs ∧ StartsValue c := by
  cases v with
  | null => exact ⟨'n', _, rfl, by simp [StartsValue]⟩
  | bool b => cases b <;> exact ⟨_, _, rfl, by simp [StartsValue]⟩
  | number n =>
    obtain ⟨c, cs, hcs, hc⟩ := n.write_isNumeral.head
    exact ⟨c, cs, hcs, Or.inl hc⟩
  | str s => exact ⟨'"', _, rfl, by simp [StartsValue]⟩
  | arr items => cases items <;> exact ⟨'[', _, rfl, by simp [StartsValue]⟩
  | obj members => cases members <;> exact ⟨Char.ofNat 0x7B, _, rfl, by simp [StartsValue]⟩

theorem compactChars_pos (v : Json) : 0 < (compactChars v).length := by
  obtain ⟨c, cs, hcs, -⟩ := compactChars_head v
  rw [hcs]
  exact Nat.succ_pos _

/-- Items end in a comma or a bracket, which are no part of a number. -/
theorem endsNumber_compactItems (vs : List Json) (rest : List Glyph) :
    EndsNumber ((compactItems vs).map some ++ rest) := by
  intro g r h
  cases vs <;>
  · obtain ⟨rfl, -⟩ := List.cons.inj h
    decide

theorem endsNumber_compactMembers (ms : List (String × Json)) (rest : List Glyph) :
    EndsNumber ((compactMembers ms).map some ++ rest) := by
  intro g r h
  cases ms <;>
  · obtain ⟨rfl, -⟩ := List.cons.inj h
    decide

/-- The value of a member stands behind its key and a colon. -/
def memberGlyphs (k : String) (v : Json) (rest : List Glyph) : List Glyph :=
  (quoted k).map some ++ some ':' :: ((compactChars v).map some ++ rest)

-- =================================================================== reading

/-- Where items are written, the reader looks for items. -/
theorem value?_compactArr (v : Json) (vs : List Json) (fuel : Nat) (rest : List Glyph) :
    Doc.value? (fuel + 1) ((compactChars (.arr (v :: vs))).map some ++ rest)
      = (Doc.items? fuel ((compactChars v).map some
          ++ ((compactItems vs).map some ++ rest))).map fun (ds, r) => (.arr ds, r) := by
  have htext : (compactChars (.arr (v :: vs))).map some ++ rest
      = some '[' :: ((compactChars v).map some ++ ((compactItems vs).map some ++ rest)) := by
    simp [compactChars]
  have hhead := compactChars_head v
  rw [htext, value?_bracket (skipBlanks_head hhead _) (head_ne_bracket hhead _)]

/-- Where members are written, the reader looks for members. -/
theorem value?_compactObj (k : String) (v : Json) (ms : List (String × Json)) (fuel : Nat)
    (rest : List Glyph) :
    Doc.value? (fuel + 1) ((compactChars (.obj ((k, v) :: ms))).map some ++ rest)
      = (Doc.members? fuel (memberGlyphs k v ((compactMembers ms).map some ++ rest))).map
          fun (es, r) => (.obj es, r) := by
  have htext : (compactChars (.obj ((k, v) :: ms))).map some ++ rest
      = some (Char.ofNat 0x7B) :: memberGlyphs k v ((compactMembers ms).map some ++ rest) := by
    simp [compactChars, memberGlyphs]
  rw [htext, memberGlyphs, value?_brace (skipBlanks_quoted k _) (quoted_ne_brace k _)]

-- The induction is on the value. A step is taken at each bracket and in front of each item
-- and member, so no more of them than the text has characters.
mutual

/-- Where a value was written, one that it spells is read. -/
theorem value?_compact (v : Json) (hv : ∀ n ∈ v.numbers, n.ReadsBack) (fuel : Nat)
    (hfuel : (compactChars v).length ≤ fuel) {rest : List Glyph} (hrest : EndsNumber rest) :
    ∃ d, Doc.value? fuel ((compactChars v).map some ++ rest) = some (d, rest) ∧ Spells v d := by
  have hpos := compactChars_pos v
  cases fuel with
  | zero => omega
  | succ fuel =>
    match v with
    | .null => exact ⟨.null, rfl, .null⟩
    | .bool true => exact ⟨.bool true, rfl, .bool true⟩
    | .bool false => exact ⟨.bool false, rfl, .bool false⟩
    | .number n =>
      obtain ⟨t, ht, -⟩ := Number.readsBack_iff.mp (hv n (by simp [numbers]))
      have hread : Doc.number? (n.write.map some ++ rest) = some (t, rest) := by
        rw [number?_append n.write_isNumeral hrest, ht]
        rfl
      -- a number is written in the same way in both forms
      have htext : compactChars (.number n) = prettyChars 0 (.number n) := rfl
      refine ⟨.number t, ?_, .number hrest hread⟩
      rw [htext, value?_number, hread]
      rfl
    | .str s => exact ⟨_, value?_string s fuel rest, .str s⟩
    | .arr [] => exact ⟨.arr [], rfl, .arr .nil⟩
    | .arr (v :: vs) =>
      simp only [compactChars, List.length_cons, List.length_append] at hfuel
      obtain ⟨ds, hds, hspells⟩ := items?_compact v vs hv fuel (by omega) rest
      refine ⟨.arr ds, ?_, .arr hspells⟩
      rw [value?_compactArr, hds]
      rfl
    | .obj [] => exact ⟨.obj [], rfl, .obj .nil⟩
    | .obj ((k, v) :: ms) =>
      simp only [compactChars, List.length_cons, List.length_append] at hfuel
      obtain ⟨es, hes, hspells⟩ := members?_compact k v ms hv fuel (by omega) rest
      refine ⟨.obj es, ?_, .obj hspells⟩
      rw [value?_compactObj, hes]
      rfl
termination_by fuel

/-- Where items were written, items are read up to their bracket. -/
theorem items?_compact (v : Json) (vs : List Json)
    (hv : ∀ n ∈ itemNumbers (v :: vs), n.ReadsBack) (fuel : Nat)
    (hfuel : (compactChars v).length + (compactItems vs).length ≤ fuel) (rest : List Glyph) :
    ∃ ds, Doc.items? fuel ((compactChars v).map some ++ ((compactItems vs).map some ++ rest))
      = some (ds, rest) ∧ SpellsItems (v :: vs) ds := by
  have hpos := compactChars_pos v
  cases fuel with
  | zero => omega
  | succ fuel =>
    have hhead : ∀ n ∈ v.numbers, n.ReadsBack :=
      fun n hn => hv n (List.mem_append_left _ hn)
    have htail : ∀ n ∈ itemNumbers vs, n.ReadsBack :=
      fun n hn => hv n (List.mem_append_right _ hn)
    match vs with
    | [] =>
      simp only [compactItems, List.length_singleton] at hfuel
      obtain ⟨d, hd, hspells⟩ := value?_compact v hhead fuel (by omega)
        (endsNumber_compactItems [] rest)
      refine ⟨[d], ?_, .cons hspells .nil⟩
      rw [Doc.items?, hd]
      rfl
    | v' :: vs' =>
      simp only [compactItems, List.length_cons, List.length_append] at hfuel
      obtain ⟨d, hd, hspells⟩ := value?_compact v hhead fuel (by omega)
        (endsNumber_compactItems (v' :: vs') rest)
      obtain ⟨ds, hds, hspells'⟩ := items?_compact v' vs' htail fuel (by omega) rest
      have hcomma : Doc.skipBlanks ((compactItems (v' :: vs')).map some ++ rest)
          = some ',' :: ((compactChars v').map some ++ ((compactItems vs').map some ++ rest)) := by
        simp [compactItems, Doc.skipBlanks, Doc.isBlank]
      refine ⟨d :: ds, ?_, .cons hspells hspells'⟩
      rw [Doc.items?, hd]
      simp only [hcomma, hds, Option.map_some]
termination_by fuel

/-- Where members were written, members are read up to their brace. -/
theorem members?_compact (k : String) (v : Json) (ms : List (String × Json))
    (hv : ∀ n ∈ memberNumbers ((k, v) :: ms), n.ReadsBack) (fuel : Nat)
    (hfuel : (compactChars v).length + (compactMembers ms).length ≤ fuel)
    (rest : List Glyph) :
    ∃ es, Doc.members? fuel (memberGlyphs k v ((compactMembers ms).map some ++ rest))
      = some (es, rest) ∧ SpellsMembers ((k, v) :: ms) es := by
  have hpos := compactChars_pos v
  cases fuel with
  | zero => omega
  | succ fuel =>
    have hhead : ∀ n ∈ v.numbers, n.ReadsBack :=
      fun n hn => hv n (List.mem_append_left _ hn)
    have htail : ∀ n ∈ memberNumbers ms, n.ReadsBack :=
      fun n hn => hv n (List.mem_append_right _ hn)
    match ms with
    | [] =>
      simp only [compactMembers, List.length_singleton] at hfuel
      obtain ⟨d, hd, hspells⟩ := value?_compact v hhead fuel (by omega)
        (endsNumber_compactMembers [] rest)
      refine ⟨[(k.toList.map pieceOf, d)], ?_, .cons hspells .nil⟩
      rw [memberGlyphs, members?_quoted, hd]
      rfl
    | (k', v') :: ms' =>
      simp only [compactMembers, List.length_cons, List.length_append] at hfuel
      obtain ⟨d, hd, hspells⟩ := value?_compact v hhead fuel (by omega)
        (endsNumber_compactMembers ((k', v') :: ms') rest)
      obtain ⟨es, hes, hspells'⟩ := members?_compact k' v' ms' htail fuel (by omega) rest
      have hcomma : Doc.skipBlanks ((compactMembers ((k', v') :: ms')).map some ++ rest)
          = some ',' :: memberGlyphs k' v' ((compactMembers ms').map some ++ rest) := by
        simp [compactMembers, memberGlyphs, Doc.skipBlanks, Doc.isBlank]
      refine ⟨(k.toList.map pieceOf, d) :: es, ?_, .cons hspells hspells'⟩
      rw [memberGlyphs, members?_quoted, hd]
      simp only [membersBehind, hcomma, hes, Option.map_some]
termination_by fuel

end

/-- The bytes of a readable value decode to it. -/
theorem readBytes?_compact {v : Json} (h : Readable maxDepth v)
    (hnumbers : ∀ n ∈ v.numbers, n.ReadsBack) : readBytes? v.compact.toUTF8 = some v := by
  have hfuel : (compactChars v).length ≤ 2 * ((compactChars v).map some).length + 2 := by
    rw [List.length_map]
    omega
  obtain ⟨d, hd, hspells⟩ := value?_compact v hnumbers _ hfuel endsNumber_nil
  rw [List.append_nil] at hd
  have hread : Doc.read? ((compactChars v).map some) = some d := by
    rw [Doc.read?, hd]
    rfl
  rw [readBytes?, Text.Utf8.glyphs_toUTF8, compact, String.toList_ofList, readGlyphs?, hread]
  exact toJson?_of_spells v h hnumbers hspells

theorem readBytes?_of_numbers_eq_nil {v : Json} (h : Readable maxDepth v)
    (hnumbers : v.numbers = []) : readBytes? v.compact.toUTF8 = some v := by
  refine readBytes?_compact h fun n hn => ?_
  rw [hnumbers] at hn
  exact nomatch hn

end CloudSession.Json
