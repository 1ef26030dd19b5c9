/-
Values that a text can hold. What the reader gives nests no deeper than it
allows, has whole numbers in its range and objects whose keys ascend
(`readable_of_toJson?`). Such a value is what any syntax tree that spells it
stands for, if its numbers read back (`toJson?_of_spells`).
-/
import CloudSession.Proofs.Ascending
import CloudSession.Proofs.Json.ReadBack

namespace CloudSession

namespace Json

-- ================================================================== readable

/-- A value that a text can hold in which at most `depth` levels nest. -/
inductive Readable : Nat → Json → Prop
  | null {depth : Nat} : Readable depth .null
  | bool {depth : Nat} (b : Bool) : Readable depth (.bool b)
  | whole {depth : Nat} {n : Int} : InRange n → Readable depth (.number (.whole n))
  | real {depth : Nat} (d : Double) : Readable depth (.number (.real d))
  | str {depth : Nat} (s : String) : Readable depth (.str s)
  | arr {depth : Nat} {items : List Json} :
      (∀ v ∈ items, Readable depth v) → Readable (depth + 1) (.arr items)
  | obj {depth : Nat} {members : List (String × Json)} : Ascending.Sorted members →
      (∀ m ∈ members, Readable depth m.2) → Readable (depth + 1) (.obj members)

theorem Readable.mono {depth depth' : Nat} {v : Json} (h : Readable depth v)
    (hle : depth ≤ depth') : Readable depth' v := by
  induction h generalizing depth' with
  | null => exact .null
  | bool b => exact .bool b
  | whole h => exact .whole h
  | real d => exact .real d
  | str s => exact .str s
  | arr h ih =>
    obtain ⟨depth'', rfl⟩ := Nat.exists_eq_add_of_lt hle
    exact .arr fun v hv => ih v hv (by omega)
  | obj hsorted h ih =>
    obtain ⟨depth'', rfl⟩ := Nat.exists_eq_add_of_lt hle
    exact .obj hsorted fun m hm => ih m hm (by omega)

theorem readable_object {depth : Nat} {members : List (String × Json)}
    (h : ∀ m ∈ members, Readable depth m.2) : Readable (depth + 1) (object members) :=
  .obj (Ascending.sorted_ofList members) fun m hm => h m (Ascending.mem_of_mem_ofList hm)

theorem appendDigits_le {n : Nat} (hn : n ≤ maxWord) (ds : List Nat) :
    (appendDigits n ds).1 ≤ maxWord := by
  induction ds generalizing n with
  | nil => exact hn
  | cons d ds ih =>
    rw [appendDigits]
    split
    · next hle => exact ih hle
    · exact hn

/-- A number that is read as a whole one is in the range of those. -/
theorem inRange_of_value? {t : NumberText} {n : Int} (h : t.value? = some (.whole n)) :
    InRange n := by
  have hword := appendDigits_le (Nat.zero_le maxWord) t.whole
  have hreal : ∀ {found : Option Double}, found.map Number.real ≠ some (.whole n) := by
    intro found
    cases found <;> simp
  unfold NumberText.value? at h
  generalize appendDigits 0 t.whole = appended at h hword
  obtain ⟨m, taken, left⟩ := appended
  simp only at h
  split at h
  · split at h
    · obtain rfl := Number.whole.inj (Option.some.inj h)
      exact ⟨by omega, by simpa using hword⟩
    split at h
    · exact absurd h hreal
    · next hsmall =>
      obtain rfl := Number.whole.inj (Option.some.inj h)
      simp only [Bool.or_eq_true, beq_iff_eq, decide_eq_true_eq, not_or] at hsmall
      simp only [InRange, maxWord]
      omega
  · exact absurd h hreal

mutual

/-- What the reader gives is readable. -/
theorem readable_of_toJson? {depth : Nat} (d : Doc) {v : Json}
    (h : d.toJson? depth = some v) : Readable depth v := by
  match d with
  | .null =>
    obtain rfl := Option.some.inj h
    exact .null
  | .bool b =>
    obtain rfl := Option.some.inj h
    exact .bool b
  | .number t =>
    obtain ⟨n, hn, rfl⟩ := Option.map_eq_some_iff.mp h
    cases n with
    | whole n => exact .whole (inRange_of_value? hn)
    | real d => exact .real d
  | .str ps =>
    obtain ⟨s, -, rfl⟩ := Option.map_eq_some_iff.mp h
    exact .str s
  | .arr items =>
    cases depth with
    | zero => exact absurd h (by simp [Doc.toJson?])
    | succ depth =>
      obtain ⟨vs, hvs, rfl⟩ := Option.map_eq_some_iff.mp h
      exact .arr (readable_of_itemsToJson? items hvs)
  | .obj members =>
    cases depth with
    | zero => exact absurd h (by simp [Doc.toJson?])
    | succ depth =>
      obtain ⟨ms, hms, rfl⟩ := Option.map_eq_some_iff.mp h
      exact readable_object (readable_of_membersToJson? members hms)

theorem readable_of_itemsToJson? {depth : Nat} (ds : List Doc) {vs : List Json}
    (h : Doc.itemsToJson? depth ds = some vs) : ∀ v ∈ vs, Readable depth v := by
  match ds with
  | [] =>
    obtain rfl := Option.some.inj h
    simp
  | d :: ds =>
    rw [Doc.itemsToJson?] at h
    split at h
    · next v vs hv hvs =>
      obtain rfl := Option.some.inj h
      exact List.forall_mem_cons.mpr
        ⟨readable_of_toJson? d hv, readable_of_itemsToJson? ds hvs⟩
    · exact absurd h (by simp)

theorem readable_of_membersToJson? {depth : Nat} (es : List (List Piece × Doc))
    {ms : List (String × Json)} (h : Doc.membersToJson? depth es = some ms) :
    ∀ m ∈ ms, Readable depth m.2 := by
  match es with
  | [] =>
    obtain rfl := Option.some.inj h
    simp
  | (key, d) :: es =>
    rw [Doc.membersToJson?] at h
    split at h
    · next k v ms _ hv hms =>
      obtain rfl := Option.some.inj h
      exact List.forall_mem_cons.mpr
        ⟨readable_of_toJson? d hv, readable_of_membersToJson? es hms⟩
    · exact absurd h (by simp)

end

-- ===================================================================== parts

theorem readable_ofText? {depth : Nat} (s : Option String) : Readable depth (ofText? s) := by
  cases s with
  | none => exact .null
  | some s => exact .str s

theorem numbers_ofText? (s : Option String) : (ofText? s).numbers = [] := by
  cases s <;> rfl

/-- An object has no numbers if none of its members has. -/
theorem numbers_object {members : List (String × Json)} (h : ∀ m ∈ members, m.2.numbers = []) :
    (object members).numbers = [] := by
  refine List.eq_nil_iff_forall_not_mem.mpr fun n hn => ?_
  obtain ⟨m, hm, hn⟩ := mem_memberNumbers.mp hn
  rw [h m (Ascending.mem_of_mem_ofList hm)] at hn
  exact nomatch hn

-- ================================================================ read again

/-- Whether a number is not a whole one. -/
def Number.isReal : Number → Bool
  | .whole _ => false
  | .real _ => true

/-- If the reals of a readable value read back, so do all its numbers. -/
theorem Readable.readsBack {depth : Nat} {v : Json} (h : Readable depth v)
    (hreals : ∀ n ∈ v.numbers, n.isReal = true → n.ReadsBack) :
    ∀ n ∈ v.numbers, n.ReadsBack := by
  induction h with
  | null => exact fun n hn => absurd hn (by simp [numbers])
  | bool b => exact fun n hn => absurd hn (by simp [numbers])
  | str s => exact fun n hn => absurd hn (by simp [numbers])
  | whole hrange =>
    intro n hn
    obtain rfl := List.mem_singleton.mp hn
    exact readsBack_whole hrange
  | real d =>
    intro n hn
    obtain rfl := List.mem_singleton.mp hn
    exact hreals _ hn rfl
  | arr _ ih =>
    intro n hn
    obtain ⟨v, hv, hn⟩ := mem_itemNumbers.mp hn
    exact ih v hv (fun m hm => hreals m (mem_itemNumbers.mpr ⟨v, hv, hm⟩)) n hn
  | obj _ _ ih =>
    intro n hn
    obtain ⟨member, hmember, hn⟩ := mem_memberNumbers.mp hn
    exact ih member hmember
      (fun m hm => hreals m (mem_memberNumbers.mpr ⟨member, hmember, hm⟩)) n hn

/-- A number is spelled by nothing that stands for another one. -/
theorem value?_of_spells {n : Number} (hn : n.ReadsBack) {rest : List Glyph} {t : NumberText}
    (hrest : EndsNumber rest)
    (h : Doc.number? (n.write.map some ++ rest) = some (t, rest)) : t.value? = some n := by
  obtain ⟨t', ht', hvalue⟩ := Number.readsBack_iff.mp hn
  rw [number?_append n.write_isNumeral hrest, ht'] at h
  obtain ⟨rfl, -⟩ := Prod.mk.inj (Option.some.inj h)
  exact hvalue

mutual

/-- A syntax tree that spells a readable value stands for it. -/
theorem toJson?_of_spells {depth : Nat} (v : Json) (hv : Readable depth v)
    (hnumbers : ∀ n ∈ v.numbers, n.ReadsBack) {d : Doc} (h : Spells v d) :
    d.toJson? depth = some v := by
  match v with
  | .null =>
    cases h
    rfl
  | .bool b =>
    cases h
    rfl
  | .number n =>
    cases h with
    | number hrest hread =>
      have hvalue := value?_of_spells (hnumbers n (by simp [numbers])) hrest hread
      rw [Doc.toJson?, hvalue]
      rfl
  | .str s =>
    cases h
    rw [Doc.toJson?, string?_pieceOf]
    rfl
  | .arr vs =>
    cases hv with
    | arr hvs =>
      cases h with
      | arr hds =>
        rw [Doc.toJson?, itemsToJson?_of_spells vs hvs hnumbers hds]
        rfl
  | .obj ms =>
    cases hv with
    | obj hsorted hms =>
      cases h with
      | obj hes =>
        rw [Doc.toJson?, membersToJson?_of_spells ms hms hnumbers hes, Option.map_some, object,
          Ascending.ofList_sorted hsorted]

theorem itemsToJson?_of_spells {depth : Nat} (vs : List Json) (hvs : ∀ v ∈ vs, Readable depth v)
    (hnumbers : ∀ n ∈ itemNumbers vs, n.ReadsBack) {ds : List Doc} (h : SpellsItems vs ds) :
    Doc.itemsToJson? depth ds = some vs := by
  match vs with
  | [] =>
    cases h
    rfl
  | v :: vs =>
    cases h with
    | cons hd hds =>
      have hhead := toJson?_of_spells v (hvs v List.mem_cons_self)
        (fun n hn => hnumbers n (List.mem_append_left _ hn)) hd
      have htail := itemsToJson?_of_spells vs (fun w hw => hvs w (List.mem_cons_of_mem _ hw))
        (fun n hn => hnumbers n (List.mem_append_right _ hn)) hds
      rw [Doc.itemsToJson?, hhead, htail]

theorem membersToJson?_of_spells {depth : Nat} (ms : List (String × Json))
    (hms : ∀ m ∈ ms, Readable depth m.2) (hnumbers : ∀ n ∈ memberNumbers ms, n.ReadsBack)
    {es : List (List Piece × Doc)} (h : SpellsMembers ms es) :
    Doc.membersToJson? depth es = some ms := by
  match ms with
  | [] =>
    cases h
    rfl
  | (k, v) :: ms =>
    cases h with
    | cons hd hes =>
      have hhead := toJson?_of_spells v (hms (k, v) List.mem_cons_self)
        (fun n hn => hnumbers n (List.mem_append_left _ hn)) hd
      have htail := membersToJson?_of_spells ms (fun m hm => hms m (List.mem_cons_of_mem _ hm))
        (fun n hn => hnumbers n (List.mem_append_right _ hn)) hes
      rw [Doc.membersToJson?, string?_pieceOf, hhead, htail]

end

end Json
end CloudSession
