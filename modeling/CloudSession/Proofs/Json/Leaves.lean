/-
The leaves of a value: the parts of it that have no members, each with the keys that
lead to it. A readable value has a part at a path if and only if one of its leaves lies
there or further down (`isSome_at?_iff`), and no other value has the same leaves
(`leaves_injective`). So the list of its leaves says what a document holds and that it
holds nothing else.
-/
import CloudSession.Proofs.Json.Readable

namespace CloudSession

namespace Json

-- ===================================================================== paths

/-- The part of a value at a path of keys. -/
def at? : List String → Json → Option Json
  | [], v => some v
  | key :: path, v => (v.get? key).bind (at? path)

/-- A path and the value there, seen from the object that has them under a key. -/
def under (key : String) (leaf : List String × Json) : List String × Json :=
  (key :: leaf.1, leaf.2)

mutual

/-- The parts of a value that have no members, each behind the path to it. -/
def leaves : Json → List (List String × Json)
  | .null => [([], .null)]
  | .bool b => [([], .bool b)]
  | .number n => [([], .number n)]
  | .str s => [([], .str s)]
  | .arr items => [([], .arr items)]
  | .obj [] => [([], .obj [])]
  | .obj ((key, v) :: ms) => (leaves v).map (under key) ++ memberLeaves ms

/-- The leaves of members, each behind its key. -/
def memberLeaves : List (String × Json) → List (List String × Json)
  | [] => []
  | (key, v) :: ms => (leaves v).map (under key) ++ memberLeaves ms

end

theorem leaves_ne_nil (v : Json) : v.leaves ≠ [] := by
  match v with
  | .null | .bool _ | .number _ | .str _ | .arr _ | .obj [] => exact List.cons_ne_nil _ _
  | .obj ((key, v) :: ms) =>
    have hhead := leaves_ne_nil v
    simp [leaves, hhead]

theorem mem_memberLeaves {leaf : List String × Json} {ms : List (String × Json)} :
    leaf ∈ memberLeaves ms ↔ ∃ m ∈ ms, leaf ∈ m.2.leaves.map (under m.1) := by
  induction ms with
  | nil => simp [memberLeaves]
  | cons m ms ih => simp [memberLeaves, ih]

/-- A value without members, or one whose leaves are those of its members. -/
theorem leaves_cases (v : Json) :
    (v.leaves = [([], v)] ∧ ∀ key, v.get? key = none)
      ∨ ∃ ms, v = .obj ms ∧ v.leaves = memberLeaves ms := by
  match v with
  | .null | .bool _ | .number _ | .str _ | .arr _ | .obj [] => exact Or.inl ⟨rfl, fun _ => rfl⟩
  | .obj ((key, v) :: ms) => exact Or.inr ⟨_, rfl, rfl⟩

/-- One of some leaves lies at a path or further down. -/
def Reaches (path : List String) (leaves : List (List String × Json)) : Prop :=
  ∃ leaf ∈ leaves, path <+: leaf.1

/-- A readable value has a part just where its leaves reach. -/
theorem isSome_at?_iff {depth : Nat} {v : Json} (h : Readable depth v) (path : List String) :
    (v.at? path).isSome = true ↔ Reaches path v.leaves := by
  induction path generalizing depth v with
  | nil =>
    obtain ⟨leaf, hleaf⟩ := List.exists_mem_of_ne_nil _ v.leaves_ne_nil
    exact ⟨fun _ => ⟨leaf, hleaf, List.nil_prefix⟩, fun _ => rfl⟩
  | cons key path ih =>
    rw [at?]
    rcases leaves_cases v with ⟨hleaves, hnone⟩ | ⟨ms, rfl, hleaves⟩
    · simp [Reaches, hleaves, hnone]
    · cases h with
      | obj hsorted hms =>
        rw [hleaves, get?]
        constructor
        · intro hsome
          obtain ⟨part, hpart⟩ := Option.isSome_iff_exists.mp hsome
          obtain ⟨v, hv, hpart⟩ := Option.bind_eq_some_iff.mp hpart
          have hmem := (Ascending.lookup_eq_some_iff hsorted).mp hv
          obtain ⟨leaf, hleaf, hprefix⟩ :=
            (ih (hms _ hmem)).mp (Option.isSome_iff_exists.mpr ⟨part, hpart⟩)
          exact ⟨under key leaf, mem_memberLeaves.mpr ⟨_, hmem, List.mem_map_of_mem hleaf⟩,
            List.cons_prefix_cons.mpr ⟨rfl, hprefix⟩⟩
        · rintro ⟨leaf, hleaf, hprefix⟩
          obtain ⟨⟨k, v⟩, hmem, hleaf⟩ := mem_memberLeaves.mp hleaf
          obtain ⟨leaf, hbelow, rfl⟩ := List.mem_map.mp hleaf
          obtain ⟨rfl, hfurther⟩ := List.cons_prefix_cons.mp hprefix
          rw [(Ascending.lookup_eq_some_iff hsorted).mpr hmem, Option.bind_some]
          exact (ih (hms _ hmem)).mpr ⟨leaf, hbelow, hfurther⟩

-- ==================================================================== unique

theorem path_of_mem_memberLeaves {leaf : List String × Json} {ms : List (String × Json)}
    (h : leaf ∈ memberLeaves ms) : ∃ m ∈ ms, leaf.1.head? = some m.1 := by
  obtain ⟨m, hm, hleaf⟩ := mem_memberLeaves.mp h
  obtain ⟨below, -, rfl⟩ := List.mem_map.mp hleaf
  exact ⟨m, hm, rfl⟩

/-- What has no leaf but one at its root is that leaf. -/
theorem eq_of_leaves {v w : Json} (h : w.leaves = [([], v)]) : w = v := by
  rcases leaves_cases w with ⟨hleaves, -⟩ | ⟨ms, rfl, hleaves⟩
  · rw [hleaves] at h
    exact congrArg Prod.snd (List.cons.inj h).1
  · have hroot : ([], v) ∈ memberLeaves ms := by
      rw [← hleaves, h]
      exact List.mem_singleton_self _
    obtain ⟨m, -, hhead⟩ := path_of_mem_memberLeaves hroot
    exact nomatch hhead

/-- The leaves of the first member are those behind its key. -/
theorem filter_memberLeaves {key : String} {v : Json} {ms : List (String × Json)}
    (h : Ascending.Sorted ((key, v) :: ms)) :
    (memberLeaves ((key, v) :: ms)).filter (·.1.head? == some key) = v.leaves.map (under key) := by
  have hfirst : ∀ leaf ∈ v.leaves.map (under key), (leaf.1.head? == some key) = true := by
    intro leaf hleaf
    obtain ⟨below, -, rfl⟩ := List.mem_map.mp hleaf
    exact beq_self_eq_true (some key)
  have hrest : ∀ leaf ∈ memberLeaves ms, ¬(leaf.1.head? == some key) = true := by
    intro leaf hleaf
    obtain ⟨m, hm, hhead⟩ := path_of_mem_memberLeaves hleaf
    have hlt : key < m.1 := (List.pairwise_cons.mp h).1 m hm
    rw [hhead, beq_iff_eq, Option.some.injEq]
    exact fun heq => String.lt_irrefl key (heq ▸ hlt)
  rw [memberLeaves, List.filter_append, List.filter_eq_self.mpr hfirst,
    List.filter_eq_nil_iff.mpr hrest, List.append_nil]

theorem under_injective (key : String) (leaf leaf' : List String × Json)
    (h : under key leaf = under key leaf') : leaf = leaf' := by
  obtain ⟨hpath, hvalue⟩ := Prod.mk.inj h
  exact Prod.ext (List.cons.inj hpath).2 hvalue

/-- The first leaf is one of the first member. -/
theorem head_memberLeaves (key : String) (v : Json) (ms : List (String × Json)) :
    (memberLeaves ((key, v) :: ms)).head?.bind (·.1.head?) = some key := by
  obtain ⟨leaf, below, hleaves⟩ := List.exists_cons_of_ne_nil v.leaves_ne_nil
  rw [memberLeaves, hleaves]
  rfl

/-- Members are made up by their leaves if each of their values is. -/
theorem memberLeaves_injective {ms ms' : List (String × Json)} (hsorted : Ascending.Sorted ms)
    (hsorted' : Ascending.Sorted ms')
    (hvalues : ∀ m ∈ ms, ∀ m' ∈ ms', m.2.leaves = m'.2.leaves → m.2 = m'.2)
    (h : memberLeaves ms = memberLeaves ms') : ms = ms' := by
  have hempty : ∀ (m : String × Json) (ms : List (String × Json)),
      memberLeaves (m :: ms) ≠ memberLeaves [] := by
    intro m ms
    simp [memberLeaves, leaves_ne_nil]
  induction ms generalizing ms' with
  | nil =>
    cases ms' with
    | nil => rfl
    | cons m' ms' => exact absurd h.symm (hempty m' ms')
  | cons m ms ih =>
    cases ms' with
    | nil => exact absurd h (hempty m ms)
    | cons m' ms' =>
      obtain ⟨key, v⟩ := m
      obtain ⟨key', v'⟩ := m'
      have hkey : key = key' := by
        rw [← Option.some.injEq, ← head_memberLeaves key v ms, h, head_memberLeaves]
      subst hkey
      -- keys ascend, so no later member has leaves behind this one
      have hfirst : v.leaves.map (under key) = v'.leaves.map (under key) := by
        rw [← filter_memberLeaves hsorted, ← filter_memberLeaves hsorted', h]
      have hleaves := (List.map_inj_right (under_injective key)).mp hfirst
      have hv : v = v' := hvalues _ List.mem_cons_self _ List.mem_cons_self hleaves
      rw [memberLeaves, memberLeaves, hfirst] at h
      have hrest := ih (List.pairwise_cons.mp hsorted).2 (List.pairwise_cons.mp hsorted').2
        (fun m hm m' hm' => hvalues m (List.mem_cons_of_mem _ hm) m' (List.mem_cons_of_mem _ hm'))
        (List.append_cancel_left h)
      rw [hv, hrest]

/-- A readable value is made up by its leaves. -/
theorem leaves_injective {depth depth' : Nat} {v w : Json} (hv : Readable depth v)
    (hw : Readable depth' w) (h : v.leaves = w.leaves) : v = w := by
  induction hv generalizing depth' w with
  | null | bool | whole | real | str | arr => exact (eq_of_leaves h.symm).symm
  | @obj depth ms hsorted hms ih =>
    cases ms with
    | nil => exact (eq_of_leaves h.symm).symm
    | cons m ms =>
      rcases leaves_cases w with ⟨hleaves, -⟩ | ⟨ms', rfl, hleaves⟩
      · exact eq_of_leaves (h.trans hleaves)
      · cases hw with
        | obj hsorted' hms' =>
          rw [memberLeaves_injective hsorted hsorted'
            (fun m hm m' hm' => ih m hm (hms' m' hm')) (h.trans hleaves)]

end Json
end CloudSession
