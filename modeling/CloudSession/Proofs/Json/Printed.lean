/-
Reading a value that was printed with a line to each part. What the reader
takes is the printed value and nothing of what follows it, and the syntax
tree that it gives spells that value (`value?_pretty`): member by member,
item by item, string by string. Only a number may be refused, so nothing
printed is ever read as another value.
-/
import CloudSession.Json.Reading
import CloudSession.Proofs.Json.Numeral
import CloudSession.Proofs.Text.Hex
import Mathlib.Tactic.SplitIfs

namespace CloudSession.Json

-- ================================================================== strings

/-- The piece that a character of a written string is read as. -/
def pieceOf (c : Char) : Piece :=
  if c.toNat < 0x20 ∧ c ≠ '\n' ∧ c ≠ '\r' ∧ c ≠ '\t' ∧ c.toNat ≠ 8 ∧ c.toNat ≠ 12 then
    .unit c.toNat
  else .char c

/-- What a reading gives with one more piece in front. -/
def cons? (p : Piece) (read : Option (List Piece × List Glyph)) :
    Option (List Piece × List Glyph) :=
  read.map fun (ps, r) => (p :: ps, r)

theorem pieces_named {e c : Char} (he : Doc.escaped? e = some c) (hu : e ≠ 'u')
    (rest : List Glyph) :
    Doc.pieces (some '\\' :: some e :: rest) = cons? (.char c) (Doc.pieces rest) := by
  rw [Doc.pieces]
  · rw [he]
    cases Doc.pieces rest <;> rfl
  · simp [hu]

theorem pieces_plain {c : Char} (hq : c ≠ '"') (hb : c ≠ '\\') (hc : ¬ c.toNat < 0x20)
    (rest : List Glyph) :
    Doc.pieces (some c :: rest) = cons? (.char c) (Doc.pieces rest) := by
  rw [Doc.pieces]
  · rw [if_neg (by simp [hb, hc]), cons?]
  · simp [hq]
  · simp [hb]
  · simp [hb]

theorem pieces_unit {n : Nat} (h : n < 0x20) (rest : List Glyph) :
    Doc.pieces
        (['\\', 'u', '0', '0', Text.Hex.digit (n / 16), Text.Hex.digit (n % 16)].map some ++ rest)
      = cons? (.unit n) (Doc.pieces rest) := by
  have hzero : Text.Hex.value? '0' = some 0 := by decide
  have hhigh := Text.Hex.value?_digit (n := n / 16) (by omega)
  have hlow := Text.Hex.value?_digit (n := n % 16) (by omega)
  simp only [List.map_cons, List.map_nil, List.cons_append, List.nil_append, Doc.pieces,
    Doc.hex?, Option.bind_some, hzero, hhigh, hlow]
  cases Doc.pieces rest with
  | none => rfl
  | some p =>
      simp only [cons?, Option.map_some]
      congr 4
      omega

/-- An escaped character is read as its piece. -/
theorem pieces_escape (c : Char) (rest : List Glyph) :
    Doc.pieces ((escape c).map some ++ rest) = cons? (pieceOf c) (Doc.pieces rest) := by
  have hof : ∀ n, c.toNat = n → c = Char.ofNat n := by
    intro n h
    rw [← h, Char.ofNat_toNat]
  unfold escape
  simp only [beq_iff_eq]
  split_ifs with hquote hback hn hr ht h8 h12 hlow
  · subst hquote
    exact pieces_named rfl (by decide) rest
  · subst hback
    exact pieces_named rfl (by decide) rest
  · subst hn
    exact pieces_named rfl (by decide) rest
  · subst hr
    exact pieces_named rfl (by decide) rest
  · subst ht
    exact pieces_named rfl (by decide) rest
  · obtain rfl := hof 8 h8
    exact pieces_named rfl (by decide) rest
  · obtain rfl := hof 12 h12
    exact pieces_named rfl (by decide) rest
  · rw [show pieceOf c = .unit c.toNat from if_pos ⟨hlow, hn, hr, ht, h8, h12⟩]
    exact pieces_unit hlow rest
  · rw [show pieceOf c = .char c from if_neg fun h => hlow h.1]
    exact pieces_plain hquote hback hlow rest

/-- The pieces of a written string spell it. -/
theorem join?_pieceOf (cs : List Char) : join? (cs.map pieceOf) = some cs := by
  induction cs with
  | nil => rfl
  | cons c cs ih =>
      rw [List.map_cons, pieceOf]
      split_ifs with h
      · have hn : c.toNat < 0xD800 := by omega
        rw [join?.eq_def]
        simp [hn, ih]
      · rw [join?, ih]
        rfl

theorem string?_pieceOf (s : String) : string? (s.toList.map pieceOf) = some s := by
  rw [string?, join?_pieceOf]
  simp

/-- A written string is taken up to its closing quote. -/
theorem pieces_quoted (cs : List Char) (rest : List Glyph) :
    Doc.pieces ((cs.flatMap escape).map some ++ some '"' :: rest)
      = some (cs.map pieceOf, rest) := by
  induction cs with
  | nil => simp [Doc.pieces]
  | cons c cs ih =>
      rw [List.flatMap_cons, List.map_append, List.append_assoc, pieces_escape, ih]
      rfl

-- =================================================================== values

/-- The heads of printed values: none is a blank or closes a bracket. -/
def StartsValue (c : Char) : Prop :=
  StartsNumeral c ∨ c = 'n' ∨ c = 't' ∨ c = 'f' ∨ c = '"' ∨ c = '[' ∨ c = Char.ofNat 0x7B

theorem prettyChars_head (level : Nat) (v : Json) :
    ∃ c cs, prettyChars level v = c :: cs ∧ StartsValue c := by
  cases v with
  | null => exact ⟨'n', _, rfl, by simp [StartsValue]⟩
  | bool b => cases b <;> exact ⟨_, _, rfl, by simp [StartsValue]⟩
  | number n =>
      obtain ⟨c, cs, hcs, hc⟩ := n.write_isNumeral.head
      exact ⟨c, cs, hcs, Or.inl hc⟩
  | str s => exact ⟨'"', _, rfl, by simp [StartsValue]⟩
  | arr items => cases items <;> exact ⟨'[', _, rfl, by simp [StartsValue]⟩
  | obj members => cases members <;> exact ⟨Char.ofNat 0x7B, _, rfl, by simp [StartsValue]⟩

-- =================================================================== blanks

theorem StartsValue.not_blank {c : Char} (h : StartsValue c) : Doc.isBlank (some c) = false := by
  rcases h with (h | rfl | rfl) | rfl | rfl | rfl | rfl | rfl | rfl <;> try decide
  have hne : ∀ b : Char, b.isDigit = false → c ≠ b := by
    intro b hb heq
    subst heq
    exact absurd h (by simp [hb])
  simp [Doc.isBlank, hne ' ' (by decide), hne '\n' (by decide), hne '\t' (by decide),
    hne '\r' (by decide)]

/-- No blank stands in front of what begins as a value does. -/
theorem skipBlanks_head {text : List Char} (h : ∃ c cs, text = c :: cs ∧ StartsValue c)
    (rest : List Glyph) : Doc.skipBlanks (text.map some ++ rest) = text.map some ++ rest := by
  obtain ⟨c, cs, rfl, hc⟩ := h
  rw [Doc.skipBlanks, List.map_cons, List.cons_append,
    List.dropWhile_cons_of_neg (by simp [hc.not_blank])]

/-- Nor does it close an array. -/
theorem head_ne_bracket {text : List Char} (h : ∃ c cs, text = c :: cs ∧ StartsValue c)
    (rest r : List Glyph) : text.map some ++ rest ≠ some ']' :: r := by
  obtain ⟨c, cs, rfl, hc⟩ := h
  intro heq
  obtain rfl : c = ']' := Option.some.inj (List.cons.inj heq).1
  revert hc
  simp [StartsValue, StartsNumeral]

/-- No blank stands in front of a printed value. -/
theorem skipBlanks_pretty (level : Nat) (v : Json) (rest : List Glyph) :
    Doc.skipBlanks ((prettyChars level v).map some ++ rest)
      = (prettyChars level v).map some ++ rest :=
  skipBlanks_head (prettyChars_head level v) rest

/-- A line break and its indentation are skipped. -/
theorem skipBlanks_newline (level : Nat) (rest : List Glyph) :
    Doc.skipBlanks ((newline level).map some ++ rest) = Doc.skipBlanks rest := by
  have hspaces : ∀ n, Doc.skipBlanks ((List.replicate n ' ').map some ++ rest)
      = Doc.skipBlanks rest := by
    intro n
    induction n with
    | zero => rfl
    | succ n ih =>
        rw [List.replicate_succ, List.map_cons, List.cons_append, Doc.skipBlanks,
          List.dropWhile_cons_of_pos (by decide)]
        exact ih
  rw [newline, List.map_cons, List.cons_append, Doc.skipBlanks,
    List.dropWhile_cons_of_pos (by decide)]
  exact hspaces _

/-- A value is looked for behind the blanks. -/
theorem value?_congr {s t : List Glyph} (h : Doc.skipBlanks s = Doc.skipBlanks t)
    (fuel : Nat) : Doc.value? fuel s = Doc.value? fuel t := by
  cases fuel with
  | zero => rw [Doc.value?, Doc.value?]
  | succ fuel => rw [Doc.value?, Doc.value?, h]

theorem value?_blank (fuel : Nat) (s : List Glyph) :
    Doc.value? fuel (some ' ' :: s) = Doc.value? fuel s := by
  apply value?_congr
  rw [Doc.skipBlanks, List.dropWhile_cons_of_pos (by decide), Doc.skipBlanks]

theorem items?_congr {s t : List Glyph} (h : Doc.skipBlanks s = Doc.skipBlanks t)
    (fuel : Nat) : Doc.items? fuel s = Doc.items? fuel t := by
  cases fuel with
  | zero => rw [Doc.items?, Doc.items?]
  | succ fuel => rw [Doc.items?, Doc.items?, value?_congr h]

theorem members?_congr {s t : List Glyph} (h : Doc.skipBlanks s = Doc.skipBlanks t)
    (fuel : Nat) : Doc.members? fuel s = Doc.members? fuel t := by
  cases fuel with
  | zero => rw [Doc.members?, Doc.members?]
  | succ fuel => rw [Doc.members?, Doc.members?, h]

-- ================================================================= spellings

mutual

/-- A syntax tree is one of a value. A number is spelled by any numeral that
its written form is read as. -/
inductive Spells : Json → Doc → Prop
  | null : Spells .null .null
  | bool (b : Bool) : Spells (.bool b) (.bool b)
  | number {n : Number} {t : NumberText} {rest : List Glyph} :
      EndsNumber rest → Doc.number? (n.write.map some ++ rest) = some (t, rest) →
      Spells (.number n) (.number t)
  | str (s : String) : Spells (.str s) (.str (s.toList.map pieceOf))
  | arr {vs : List Json} {ds : List Doc} : SpellsItems vs ds → Spells (.arr vs) (.arr ds)
  | obj {ms : List (String × Json)} {es : List (List Piece × Doc)} :
      SpellsMembers ms es → Spells (.obj ms) (.obj es)

/-- Syntax trees are those of values, one by one. -/
inductive SpellsItems : List Json → List Doc → Prop
  | nil : SpellsItems [] []
  | cons {v : Json} {d : Doc} {vs : List Json} {ds : List Doc} :
      Spells v d → SpellsItems vs ds → SpellsItems (v :: vs) (d :: ds)

/-- Members of a syntax tree are those of an object, one by one. -/
inductive SpellsMembers : List (String × Json) → List (List Piece × Doc) → Prop
  | nil : SpellsMembers [] []
  | cons {k : String} {v : Json} {d : Doc} {ms : List (String × Json)}
      {es : List (List Piece × Doc)} :
      Spells v d → SpellsMembers ms es →
      SpellsMembers ((k, v) :: ms) ((k.toList.map pieceOf, d) :: es)

end

theorem Spells.of_null {d : Doc} (h : Spells .null d) : d = .null := by
  cases h
  rfl

theorem Spells.of_str {s : String} {d : Doc} (h : Spells (.str s) d) :
    d = .str (s.toList.map pieceOf) := by
  cases h
  rfl

-- =================================================================== reading

/-- What begins as a number does is read as one. -/
theorem value?_numeral {c : Char} (hc : StartsNumeral c) (fuel : Nat) (r : List Glyph) :
    Doc.value? (fuel + 1) (some c :: r)
      = (Doc.number? (some c :: r)).map fun (n, r) => (.number n, r) := by
  have hskip : Doc.skipBlanks (some c :: r) = some c :: r := by
    rw [Doc.skipBlanks, List.dropWhile_cons_of_neg]
    simp [StartsValue.not_blank (Or.inl hc)]
  have hne : ∀ b : Char, b.isDigit = false ∧ b ≠ '.' ∧ b ≠ '-' → c ≠ b := by
    intro b hb heq
    obtain ⟨hb, hdot, hminus⟩ := hb
    subst heq
    rcases hc with h | h | h
    · exact absurd h (by simp [hb])
    · exact hdot h
    · exact hminus h
  rw [Doc.value?, hskip]
  split
  case h_7 => rfl
  all_goals
    next h =>
    exact absurd (Option.some.inj (List.cons.inj h).1) (hne _ (by decide))

/-- An item or a member of the list is followed by a comma or a line break. -/
theorem endsNumber_prettyItems (level : Nat) (vs : List Json) (rest : List Glyph) :
    EndsNumber ((prettyItems level vs).map some ++ rest) := by
  intro g r h
  cases vs <;>
  · obtain ⟨rfl, -⟩ := List.cons.inj h
    decide

theorem endsNumber_prettyMembers (level : Nat) (ms : List (String × Json))
    (rest : List Glyph) : EndsNumber ((prettyMembers level ms).map some ++ rest) := by
  intro g r h
  cases ms with
  | nil =>
      obtain ⟨rfl, -⟩ := List.cons.inj h
      decide
  | cons m ms =>
      obtain ⟨rfl, -⟩ := List.cons.inj h
      decide

/-- A printed string in front of a text. -/
theorem map_quoted (k : String) (rest : List Glyph) :
    (quoted k).map some ++ rest
      = some '"' :: ((k.toList.flatMap escape).map some ++ some '"' :: rest) := by
  simp [quoted]

/-- No blank stands in front of a printed string. -/
theorem skipBlanks_quoted (k : String) (rest : List Glyph) :
    Doc.skipBlanks ((quoted k).map some ++ rest) = (quoted k).map some ++ rest := by
  rw [map_quoted, Doc.skipBlanks, List.dropWhile_cons_of_neg (by decide)]

/-- Nor does it close an object. -/
theorem quoted_ne_brace (k : String) (rest r : List Glyph) :
    (quoted k).map some ++ rest ≠ some (Char.ofNat 0x7D) :: r := by
  rw [map_quoted]
  exact fun heq => absurd (List.cons.inj heq).1 (by decide)

theorem value?_string (s : String) (fuel : Nat) (rest : List Glyph) :
    Doc.value? (fuel + 1) ((quoted s).map some ++ rest)
      = some (.str (s.toList.map pieceOf), rest) := by
  rw [map_quoted]
  show (Doc.pieces _).map (fun (ps, r) => (Doc.str ps, r)) = _
  rw [pieces_quoted]
  rfl

/-- A bracket that is not closed at once opens a list of items. -/
theorem value?_bracket {s t : List Glyph} (hskip : Doc.skipBlanks s = t)
    (hopen : ∀ r, t ≠ some ']' :: r) (fuel : Nat) :
    Doc.value? (fuel + 1) (some '[' :: s)
      = (Doc.items? fuel t).map fun (ds, r) => (.arr ds, r) := by
  have hstart : Doc.skipBlanks (some '[' :: s) = some '[' :: s := rfl
  rw [Doc.value?, hstart]
  -- The pattern of an empty one is ruled out by `hopen`.
  simp only [hskip]

/-- A brace that is not closed at once opens a list of members. -/
theorem value?_brace {s t : List Glyph} (hskip : Doc.skipBlanks s = t)
    (hopen : ∀ r, t ≠ some (Char.ofNat 0x7D) :: r) (fuel : Nat) :
    Doc.value? (fuel + 1) (some (Char.ofNat 0x7B) :: s)
      = (Doc.members? fuel t).map fun (ms, r) => (.obj ms, r) := by
  have hstart : Doc.skipBlanks (some (Char.ofNat 0x7B) :: s) = some (Char.ofNat 0x7B) :: s := rfl
  rw [Doc.value?, hstart]
  -- The pattern of an empty one is ruled out by `hopen`.
  simp only [hskip]

/-- The value of a member stands behind its key, a colon and a blank. -/
def memberText (level : Nat) (k : String) (v : Json) (rest : List Glyph) : List Glyph :=
  (quoted k).map some ++ some ':' :: some ' ' ::
    ((prettyChars (level + 1) v).map some ++ rest)

theorem skipBlanks_memberText (level : Nat) (k : String) (v : Json) (rest : List Glyph) :
    Doc.skipBlanks (memberText level k v rest) = memberText level k v rest :=
  skipBlanks_quoted k _

/-- A printed number is read by its numeral. -/
theorem value?_number (level : Nat) (n : Number) (fuel : Nat) (rest : List Glyph) :
    Doc.value? (fuel + 1) ((prettyChars level (.number n)).map some ++ rest)
      = (Doc.number? (n.write.map some ++ rest)).map fun (t, r) => (.number t, r) := by
  obtain ⟨c, cs, hcs, hc⟩ := n.write_isNumeral.head
  show Doc.value? (fuel + 1) (n.write.map some ++ rest) = _
  rw [hcs]
  exact value?_numeral hc fuel _

/-- Where items are printed, the reader looks for items. -/
theorem value?_arr (level : Nat) (v : Json) (vs : List Json) (fuel : Nat) (rest : List Glyph) :
    Doc.value? (fuel + 1) ((prettyChars level (.arr (v :: vs))).map some ++ rest)
      = (Doc.items? fuel ((prettyChars (level + 1) v).map some
          ++ ((prettyItems level vs).map some ++ rest))).map fun (ds, r) => (.arr ds, r) := by
  have htext : (prettyChars level (.arr (v :: vs))).map some ++ rest
      = some '[' :: ((newline (level + 1)).map some
        ++ ((prettyChars (level + 1) v).map some
          ++ ((prettyItems level vs).map some ++ rest))) := by
    simp [prettyChars]
  have hskip := skipBlanks_newline (level + 1)
    ((prettyChars (level + 1) v).map some ++ ((prettyItems level vs).map some ++ rest))
  rw [skipBlanks_pretty] at hskip
  rw [htext, value?_bracket hskip (head_ne_bracket (prettyChars_head (level + 1) v) _)]

/-- Where members are printed, the reader looks for members. -/
theorem value?_obj (level : Nat) (k : String) (v : Json) (ms : List (String × Json))
    (fuel : Nat) (rest : List Glyph) :
    Doc.value? (fuel + 1) ((prettyChars level (.obj ((k, v) :: ms))).map some ++ rest)
      = (Doc.members? fuel (memberText level k v ((prettyMembers level ms).map some ++ rest))).map
          fun (es, r) => (.obj es, r) := by
  have htext : (prettyChars level (.obj ((k, v) :: ms))).map some ++ rest
      = some (Char.ofNat 0x7B) :: ((newline (level + 1)).map some
        ++ memberText level k v ((prettyMembers level ms).map some ++ rest)) := by
    simp [prettyChars, memberText]
  have hskip := skipBlanks_newline (level + 1)
    (memberText level k v ((prettyMembers level ms).map some ++ rest))
  rw [skipBlanks_memberText] at hskip
  rw [htext, value?_brace hskip (quoted_ne_brace k _)]

/-- Behind the last item stands the bracket. -/
theorem skipBlanks_prettyItems_nil (level : Nat) (rest : List Glyph) :
    Doc.skipBlanks ((prettyItems level []).map some ++ rest) = some ']' :: rest := by
  rw [prettyItems, List.map_append, List.append_assoc, skipBlanks_newline]
  rfl

/-- Behind every other item stand a comma and the next one. -/
theorem skipBlanks_prettyItems_cons (level : Nat) (v : Json) (vs : List Json)
    (rest : List Glyph) :
    Doc.skipBlanks ((prettyItems level (v :: vs)).map some ++ rest)
      = some ',' :: ((newline (level + 1)).map some
        ++ ((prettyChars (level + 1) v).map some
          ++ ((prettyItems level vs).map some ++ rest))) := by
  simp only [prettyItems, List.map_cons, List.map_append, List.cons_append, List.append_assoc]
  rfl

/-- Behind the last member stands the brace. -/
theorem skipBlanks_prettyMembers_nil (level : Nat) (rest : List Glyph) :
    Doc.skipBlanks ((prettyMembers level []).map some ++ rest)
      = some (Char.ofNat 0x7D) :: rest := by
  rw [prettyMembers, List.map_append, List.append_assoc, skipBlanks_newline]
  rfl

/-- Behind every other member stand a comma and the next one. -/
theorem skipBlanks_prettyMembers_cons (level : Nat) (k : String) (v : Json)
    (ms : List (String × Json)) (rest : List Glyph) :
    Doc.skipBlanks ((prettyMembers level ((k, v) :: ms)).map some ++ rest)
      = some ',' :: ((newline (level + 1)).map some
        ++ memberText level k v ((prettyMembers level ms).map some ++ rest)) := by
  simp only [prettyMembers, memberText, List.map_cons, List.map_append, List.cons_append,
    List.append_assoc]
  rfl

/-- What is read of members whose first key was read, by what is read behind it. -/
def membersBehind (fuel : Nat) (key : List Piece) :
    Option (Doc × List Glyph) → Option (List (List Piece × Doc) × List Glyph)
  | none => none
  | some (d, r) =>
    match Doc.skipBlanks r with
    | some ',' :: r => (Doc.members? fuel r).map fun (ms, r) => ((key, d) :: ms, r)
    | some '}' :: r => some ([(key, d)], r)
    | _ => none

/-- Of members the first key is read, and behind its colon the value. -/
theorem members?_quoted (k : String) (fuel : Nat) (s : List Glyph) :
    Doc.members? (fuel + 1) ((quoted k).map some ++ some ':' :: s)
      = membersBehind fuel (k.toList.map pieceOf) (Doc.value? fuel s) := by
  have hcolon : Doc.skipBlanks (some ':' :: s) = some ':' :: s := rfl
  rw [Doc.members?, skipBlanks_quoted, map_quoted]
  simp only [pieces_quoted, hcolon]
  rfl

/-- A member is its key and, behind a colon, its value. -/
theorem members?_memberText (level : Nat) (k : String) (v : Json) (fuel : Nat)
    (rest : List Glyph) :
    Doc.members? (fuel + 1) (memberText level k v rest)
      = membersBehind fuel (k.toList.map pieceOf)
          (Doc.value? fuel ((prettyChars (level + 1) v).map some ++ rest)) := by
  rw [memberText, members?_quoted, value?_blank]

-- The induction is on the value. The fuel and the text behind it are left
-- open, as the reader goes on with less fuel behind each part.
mutual

/-- What is read where a value was printed is that value, and all of it. -/
theorem value?_pretty (level : Nat) (v : Json) {fuel : Nat} {rest : List Glyph}
    (hrest : EndsNumber rest) {d : Doc} {r : List Glyph}
    (h : Doc.value? fuel ((prettyChars level v).map some ++ rest) = some (d, r)) :
    r = rest ∧ Spells v d := by
  have hskip := skipBlanks_pretty level v rest
  cases fuel with
  | zero => exact absurd h (by simp [Doc.value?])
  | succ fuel =>
      match v with
      | .null =>
          obtain ⟨rfl, rfl⟩ := Prod.mk.inj (Option.some.inj h)
          exact ⟨rfl, .null⟩
      | .bool true =>
          obtain ⟨rfl, rfl⟩ := Prod.mk.inj (Option.some.inj h)
          exact ⟨rfl, .bool true⟩
      | .bool false =>
          obtain ⟨rfl, rfl⟩ := Prod.mk.inj (Option.some.inj h)
          exact ⟨rfl, .bool false⟩
      | .number n =>
          rw [value?_number] at h
          obtain ⟨⟨t, r'⟩, hread, heq⟩ := Option.map_eq_some_iff.mp h
          obtain ⟨rfl, rfl⟩ := Prod.mk.inj heq
          obtain rfl := number?_exact n.write_isNumeral hrest hread
          exact ⟨rfl, .number hrest hread⟩
      | .str s =>
          have htext : (prettyChars level (.str s)).map some ++ rest
              = (quoted s).map some ++ rest := rfl
          rw [htext, value?_string] at h
          obtain ⟨rfl, rfl⟩ := Prod.mk.inj (Option.some.inj h)
          exact ⟨rfl, .str s⟩
      | .arr [] =>
          obtain ⟨rfl, rfl⟩ := Prod.mk.inj (Option.some.inj h)
          exact ⟨rfl, .arr .nil⟩
      | .arr (v :: vs) =>
          rw [value?_arr] at h
          obtain ⟨⟨ds, r'⟩, hread, heq⟩ := Option.map_eq_some_iff.mp h
          obtain ⟨rfl, rfl⟩ := Prod.mk.inj heq
          obtain ⟨rfl, hitems⟩ := items?_pretty level v vs hread
          exact ⟨rfl, .arr hitems⟩
      | .obj [] =>
          obtain ⟨rfl, rfl⟩ := Prod.mk.inj (Option.some.inj h)
          exact ⟨rfl, .obj .nil⟩
      | .obj ((k, v) :: ms) =>
          rw [value?_obj] at h
          obtain ⟨⟨es, r'⟩, hread, heq⟩ := Option.map_eq_some_iff.mp h
          obtain ⟨rfl, rfl⟩ := Prod.mk.inj heq
          obtain ⟨rfl, hmembers⟩ := members?_pretty level k v ms hread
          exact ⟨rfl, .obj hmembers⟩
termination_by fuel

/-- The items of a printed array are read up to its bracket. -/
theorem items?_pretty (level : Nat) (v : Json) (vs : List Json) {fuel : Nat}
    {rest : List Glyph} {ds : List Doc} {r : List Glyph}
    (h : Doc.items? fuel ((prettyChars (level + 1) v).map some
      ++ ((prettyItems level vs).map some ++ rest)) = some (ds, r)) :
    r = rest ∧ SpellsItems (v :: vs) ds := by
  cases fuel with
  | zero => exact absurd h (by simp [Doc.items?])
  | succ fuel =>
      rw [Doc.items?] at h
      split at h
      · exact absurd h (by simp)
      · next d r' hread =>
        obtain ⟨rfl, hv⟩ := value?_pretty (level + 1) v (endsNumber_prettyItems level vs rest)
          hread
        match vs with
        | [] =>
            rw [skipBlanks_prettyItems_nil] at h
            obtain ⟨rfl, rfl⟩ := Prod.mk.inj (Option.some.inj h)
            exact ⟨rfl, .cons hv .nil⟩
        | v' :: vs' =>
            rw [skipBlanks_prettyItems_cons] at h
            obtain ⟨⟨ds', r''⟩, hread', heq⟩ := Option.map_eq_some_iff.mp h
            obtain ⟨rfl, rfl⟩ := Prod.mk.inj heq
            rw [items?_congr (skipBlanks_newline _ _)] at hread'
            obtain ⟨rfl, hvs⟩ := items?_pretty level v' vs' hread'
            exact ⟨rfl, .cons hv hvs⟩
termination_by fuel

/-- The members of a printed object are read up to its brace. -/
theorem members?_pretty (level : Nat) (k : String) (v : Json) (ms : List (String × Json))
    {fuel : Nat} {rest : List Glyph} {es : List (List Piece × Doc)} {r : List Glyph}
    (h : Doc.members? fuel
      (memberText level k v ((prettyMembers level ms).map some ++ rest)) = some (es, r)) :
    r = rest ∧ SpellsMembers ((k, v) :: ms) es := by
  cases fuel with
  | zero => exact absurd h (by simp [Doc.members?])
  | succ fuel =>
      rw [members?_memberText] at h
      unfold membersBehind at h
      split at h
      · exact absurd h (by simp)
      · next d r' hread =>
        obtain ⟨rfl, hv⟩ := value?_pretty (level + 1) v (endsNumber_prettyMembers level ms rest)
          hread
        match ms with
        | [] =>
            rw [skipBlanks_prettyMembers_nil] at h
            obtain ⟨rfl, rfl⟩ := Prod.mk.inj (Option.some.inj h)
            exact ⟨rfl, .cons hv .nil⟩
        | (k', v') :: ms' =>
            rw [skipBlanks_prettyMembers_cons] at h
            obtain ⟨⟨es', r''⟩, hread', heq⟩ := Option.map_eq_some_iff.mp h
            obtain ⟨rfl, rfl⟩ := Prod.mk.inj heq
            rw [members?_congr (skipBlanks_newline _ _)] at hread'
            obtain ⟨rfl, hms⟩ := members?_pretty level k' v' ms' hread'
            exact ⟨rfl, .cons hv hms⟩
termination_by fuel

end

end CloudSession.Json
