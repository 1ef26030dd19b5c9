/-
The messages of failed responses. What a JSON body has to say is the messages of its
members, or else its own text (`told`). The first member alone is asked which of the two it
is, which misleads if that one has no message where another has a text for one, or has one
where none has a text (`error_message_told_iff`). A value's text is longer than the messages in it
(`length_join_messages_lt`), so what is said by mistake is never the same.
-/
import CloudSession.Http.Body
import CloudSession.Proofs.Json.Compact
import CloudSession.Proofs.Text.Part

namespace CloudSession

-- ====================================================================== joining

namespace Text

theorem length_join_cons_le (between piece : List Char) (rest : List (List Char)) :
    (join between (piece :: rest)).length
      ≤ piece.length + between.length + (join between rest).length := by
  by_cases hlast : rest = []
  · subst hlast
    simp only [join, List.length_nil]
    omega
  · rw [join_cons between piece hlast, List.length_append, List.length_append]

/-- Texts that are joined give no text only if there is none of them, or one that is
empty. -/
theorem joinTexts_eq_empty_iff {sep : String} (hsep : sep ≠ "") {texts : List String} :
    joinTexts sep texts = "" ↔ texts = [] ∨ texts = [""] := by
  rw [joinTexts, String.ofList_eq_empty_iff]
  match texts with
  | [] => simp [join]
  | [text] => simp [join]
  | first :: second :: rest =>
    rw [List.map_cons, join_cons _ _ (by simp)]
    simp [hsep]

end Text

namespace Json

-- ====================================================================== lengths

theorem length_escape_pos (c : Char) : 0 < (escape c).length := by
  unfold escape
  split_ifs <;> simp

theorem length_lt_quoted (s : String) : s.toList.length < (quoted s).length := by
  have hflat : ∀ cs : List Char, cs.length ≤ (cs.flatMap escape).length := by
    intro cs
    induction cs with
    | nil => exact Nat.le_refl _
    | cons c cs ih =>
      have hc := length_escape_pos c
      rw [List.flatMap_cons, List.length_append, List.length_cons]
      omega
  have hs := hflat s.toList
  simp only [quoted, List.length_cons, List.length_append]
  omega

/-- A member's text stands in the text of its object. -/
theorem length_lt_compactMembers {ms : List (String × Json)} {member : String × Json}
    (h : member ∈ ms) : (compactChars member.2).length < (compactMembers ms).length := by
  induction ms with
  | nil => exact nomatch h
  | cons first rest ih =>
    simp only [compactMembers, List.length_cons, List.length_append]
    rcases List.mem_cons.mp h with rfl | hrest
    · omega
    · have := ih hrest
      omega

/-- The first member stands behind a brace, as each other one behind a comma. -/
theorem length_compactChars_obj {ms : List (String × Json)} (h : ms ≠ []) :
    (compactChars (.obj ms)).length = (compactMembers ms).length := by
  cases ms with
  | nil => exact absurd rfl h
  | cons first rest => rfl

theorem length_lt_of_textAt? {key text : String} {v : Json} (h : v.textAt? key = some text) :
    text.toList.length < (compactChars v).length := by
  obtain ⟨member, hmember, htext⟩ := Option.bind_eq_some_iff.mp h
  cases v with
  | obj ms =>
    cases member with
    | str s =>
      obtain rfl := Option.some.inj htext
      obtain ⟨before, after, hsplit, -⟩ := List.lookup_eq_some_iff.mp hmember
      have hmem : (key, Json.str s) ∈ ms := hsplit ▸ List.mem_append_right before (.head after)
      have hlt := length_lt_compactMembers hmem
      rw [length_compactChars_obj (List.ne_nil_of_mem hmem)]
      exact Nat.lt_trans (length_lt_quoted _) hlt
    | _ => exact nomatch htext
  | _ => exact nomatch hmember

-- ===================================================================== messages

/-- The messages of a value: those of the texts under `message` in its members, in the order
of the keys. -/
def messages : Json → List String
  | .obj ms => ms.filterMap fun (_, member) => member.textAt? "message"
  | _ => []

/-- The messages of an object, joined, are shorter than its text. -/
theorem length_join_messages_lt (ms : List (String × Json)) :
    (Text.join [';'] ((Json.obj ms).messages.map String.toList)).length
      < (compactMembers ms).length := by
  -- a semicolon for each further message, a comma for each further member
  induction ms with
  | nil => exact Nat.one_pos
  | cons first rest ih =>
    obtain ⟨key, member⟩ := first
    simp only [compactMembers, List.length_cons, List.length_append]
    cases hfirst : member.textAt? "message" with
    | none =>
      have hsame : (Json.obj ((key, member) :: rest)).messages = (Json.obj rest).messages := by
        simp [messages, hfirst]
      rw [hsame]
      omega
    | some text =>
      have hmore : (Json.obj ((key, member) :: rest)).messages
          = text :: (Json.obj rest).messages := by
        simp [messages, hfirst]
      have hjoin := Text.length_join_cons_le [';'] text.toList
        ((Json.obj rest).messages.map String.toList)
      have htext := length_lt_of_textAt? hfirst
      rw [hmore, List.map_cons]
      rw [List.length_singleton] at hjoin
      omega

end Json

namespace Body

-- ======================================================================= bodies

theorem readBytes?_of_isEmpty {bytes : ByteArray} (h : bytes.isEmpty = true) :
    Json.readBytes? bytes = none := by
  have hsize : bytes.size = 0 := by simpa [ByteArray.isEmpty] using h
  obtain rfl := ByteArray.size_eq_zero_iff.mp hsize
  have hglyphs : Text.Utf8.glyphs ByteArray.empty = [] := Text.Utf8.decode.eq_1
  rw [Json.readBytes?, hglyphs]
  rfl

/-- A body is JSON if its content type is and it reads as a value. -/
theorem ofResponse_of_readBytes? {r : Response} {v : Json} (hstatus : r.status ≠ 204)
    (htype : typeMentions r "json" = true) (hread : Json.readBytes? r.body = some v) :
    ofResponse r = .ok (.json v) := by
  have hbody : r.body.isEmpty = false := by
    rw [Bool.eq_false_iff]
    intro hempty
    rw [readBytes?_of_isEmpty hempty] at hread
    exact nomatch hread
  simp [ofResponse, hstatus, hbody, htype, hread]

/-- What a failed response is to say of its value: its messages, or else the value itself. -/
def told (v : Json) : String :=
  if v.messages = [] then v.compact else Text.joinTexts ";" v.messages

/-- The first member of a value has a message exactly if no member has a text for one. -/
def Misled (v : Json) : Prop :=
  ∃ key first rest, v = .obj ((key, first) :: rest) ∧
    ((first.get? "message").isSome = true ↔ v.messages = [])

theorem compact_ne_empty (v : Json) : v.compact ≠ "" := by
  have hpos := Json.compactChars_pos v
  intro h
  rw [Json.compact, String.ofList_eq_empty_iff] at h
  rw [h] at hpos
  exact Nat.lt_irrefl 0 hpos

/-- An object's text is not what its messages are. -/
theorem compact_ne_joinTexts (first : String × Json) (rest : List (String × Json)) :
    (Json.obj (first :: rest)).compact
      ≠ Text.joinTexts ";" (Json.obj (first :: rest)).messages := by
  have hlt := Json.length_join_messages_lt (first :: rest)
  rw [← Json.length_compactChars_obj (List.cons_ne_nil first rest)] at hlt
  intro h
  have hchars := String.ofList_injective h
  rw [hchars] at hlt
  exact Nat.lt_irrefl _ hlt

/-- The first member decides for all of them. -/
theorem faultMessage?_cons (key : String) (first : Json) (rest : List (String × Json)) :
    faultMessage? (.obj ((key, first) :: rest)) =
      if (first.get? "message").isSome then
        some (Text.joinTexts ";" (Json.obj ((key, first) :: rest)).messages)
      else none := by
  have hmessages : (first :: rest.map (·.2)).filterMap (Json.textAt? "message")
      = (Json.obj ((key, first) :: rest)).messages := by
    rw [Json.messages, ← List.map_cons (f := Prod.snd) (a := (key, first)), List.filterMap_map]
    rfl
  rw [faultMessage?, hmessages]

theorem told_eq_empty_iff {v : Json} : told v = "" ↔ v.messages = [""] := by
  unfold told
  split_ifs with hnone
  · simp [compact_ne_empty, hnone]
  · rw [Text.joinTexts_eq_empty_iff (by decide), or_iff_right hnone]

/-- What is said of a value. -/
def said (v : Json) : String := (faultMessage? v).getD v.compact

/-- Where nothing misleads, what is said is what is to be said. -/
theorem said_of_not_misled {v : Json} (h : ¬Misled v) : said v = told v := by
  match v with
  | .obj ((key, first) :: rest) =>
    have hfirst : ¬(first.get? "message").isSome = true ↔
        (Json.obj ((key, first) :: rest)).messages = [] :=
      not_iff.mp fun hfirst => h ⟨key, first, rest, rfl, hfirst⟩
    rw [said, told, faultMessage?_cons]
    split_ifs with hmessage hnone hnone
    · exact absurd hmessage (hfirst.mpr hnone)
    · rfl
    · rfl
    · exact absurd (hfirst.mp hmessage) hnone
  | .obj [] => rfl
  | .null | .bool _ | .number _ | .str _ | .arr _ => rfl

/-- Otherwise nothing is said or, where there are messages, everything. -/
theorem said_of_misled {v : Json} (h : Misled v) :
    said v = if v.messages = [] then "" else v.compact := by
  obtain ⟨key, first, rest, rfl, hfirst⟩ := h
  rw [said, faultMessage?_cons]
  split_ifs with hmessage hnone hnone
  · rw [hnone]
    rfl
  · exact absurd (hfirst.mp hmessage) hnone
  · exact absurd (hfirst.mpr hnone) hmessage
  · rfl

theorem told_ne_of_misled {v : Json} (h : Misled v) : said v ≠ told v := by
  rw [said_of_misled h, told]
  split_ifs with hnone
  · exact (compact_ne_empty v).symm
  · obtain ⟨key, first, rest, rfl, -⟩ := h
    exact compact_ne_joinTexts (key, first) rest

end Body

/-- A failed response whose body is JSON says what it is to say, unless its first member has a
message exactly if none of its members has a text for one. Then it says nothing if it has no
messages, and otherwise all of its body. -/
theorem error_message_told_iff {r : Response} {v : Json} (hstatus : r.status ≠ 204)
    (htype : Body.typeMentions r "json" = true) (hread : Json.readBytes? r.body = some v) :
    (∀ members, v = .obj members → Ascending.Sorted members) ∧
      (Body.told v = "" ↔ v.messages = [""]) ∧
      (Body.errorMessage r = Body.told v ↔ ¬Body.Misled v) ∧
      (Body.Misled v →
        Body.errorMessage r = if v.messages = [] then "" else v.compact) := by
  have hsaid : Body.errorMessage r = Body.said v := by
    rw [Body.errorMessage, Body.ofResponse_of_readBytes? hstatus htype hread]
    rfl
  refine ⟨?_, Body.told_eq_empty_iff, ?_, fun h => hsaid.trans (Body.said_of_misled h)⟩
  · rintro members rfl
    obtain ⟨d, -, hd⟩ := Option.bind_eq_some_iff.mp hread
    cases Json.readable_of_toJson? d hd with
    | obj hsorted _ => exact hsorted
  · rw [hsaid]
    exact ⟨fun h hmisled => Body.told_ne_of_misled hmisled h, Body.said_of_not_misled⟩

namespace Sample

/-- The answer to a bad request, whose body is a value. -/
def faulty (v : Json) : Response :=
  ⟨400, .ofList [("content-type", "application/json")], v.compact.toUTF8⟩

/-- Faults of some kinds, each with a message. -/
def faults (messages : List (String × Json)) : Json :=
  .object (messages.map fun (kind, message) => (kind, .object [("message", message)]))

theorem readBytes?_faulty {messages : List (String × Json)}
    (h : ∀ m ∈ messages, m.2 = .null ∨ ∃ text, m.2 = .str text) :
    Json.readBytes? (faulty (faults messages)).body = some (faults messages) := by
  have hparts : ∀ m ∈ messages, Json.Readable 0 m.2 ∧ m.2.numbers = [] := by
    intro m hm
    obtain hnull | ⟨text, htext⟩ := h m hm
    · exact hnull ▸ ⟨.null, rfl⟩
    · exact htext ▸ ⟨.str text, rfl⟩
  have hreadable : Json.Readable 2 (faults messages) := by
    refine Json.readable_object fun m hm => ?_
    obtain ⟨part, hpart, rfl⟩ := List.mem_map.mp hm
    exact Json.readable_object (List.forall_mem_singleton.mpr (hparts part hpart).1)
  have hnumbers : (faults messages).numbers = [] := by
    refine Json.numbers_object fun m hm => ?_
    obtain ⟨part, hpart, rfl⟩ := List.mem_map.mp hm
    exact Json.numbers_object (List.forall_mem_singleton.mpr (hparts part hpart).2)
  exact Json.readBytes?_of_numbers_eq_nil (hreadable.mono (by decide)) hnumbers

/-- Two faults that have a message each. -/
def twoFaults : Json := faults [("overLimit", .str "quota"), ("badRequest", .str "flavor")]

/-- A fault whose message is null. -/
def nullFault : Json := faults [("badRequest", .null)]

end Sample

/-- Two messages are told in the order of the keys. -/
theorem error_message_told_twice :
    (Sample.faulty Sample.twoFaults).status ≠ 204 ∧
      Body.typeMentions (Sample.faulty Sample.twoFaults) "json" = true ∧
      Json.readBytes? (Sample.faulty Sample.twoFaults).body = some Sample.twoFaults ∧
      ¬Body.Misled Sample.twoFaults ∧
      Body.errorMessage (Sample.faulty Sample.twoFaults) = "flavor;quota" := by
  have htype : Body.typeMentions (Sample.faulty Sample.twoFaults) "json" = true := by
    decide +kernel
  have hread : Json.readBytes? (Sample.faulty Sample.twoFaults).body = some Sample.twoFaults :=
    Sample.readBytes?_faulty (by simp)
  have hmessages : Sample.twoFaults.messages = ["flavor", "quota"] := by decide +kernel
  have htold : Body.told Sample.twoFaults = "flavor;quota" := by
    rw [Body.told, hmessages]
    decide
  have hled : ¬Body.Misled Sample.twoFaults := by
    have hobj : Sample.twoFaults = .obj [("badRequest", .object [("message", .str "flavor")]),
        ("overLimit", .object [("message", .str "quota")])] := by rfl
    rintro ⟨key, first, rest, heq, hfirst⟩
    cases hobj.symm.trans heq
    rw [hmessages] at hfirst
    exact nomatch hfirst.mp rfl
  obtain ⟨-, -, hsaid, -⟩ := error_message_told_iff (by decide) htype hread
  exact ⟨by decide, htype, hread, hled, (hsaid.mpr hled).trans htold⟩

/-- Of a fault whose message is null nothing is said, though its body has a text. -/
theorem null_message_said :
    (Sample.faulty Sample.nullFault).isSuccess = false ∧
      (Sample.faulty Sample.nullFault).status ≠ 204 ∧
      Body.typeMentions (Sample.faulty Sample.nullFault) "json" = true ∧
      Json.readBytes? (Sample.faulty Sample.nullFault).body = some Sample.nullFault ∧
      Sample.nullFault.messages = [] ∧
      Body.errorMessage (Sample.faulty Sample.nullFault) = "" ∧
      Sample.nullFault.compact ≠ "" := by
  have htype : Body.typeMentions (Sample.faulty Sample.nullFault) "json" = true := by
    decide +kernel
  have hread : Json.readBytes? (Sample.faulty Sample.nullFault).body = some Sample.nullFault :=
    Sample.readBytes?_faulty (by simp)
  have hsaid : Body.errorMessage (Sample.faulty Sample.nullFault) = "" := by
    rw [Body.errorMessage, Body.ofResponse_of_readBytes? (by decide) htype hread]
    rfl
  exact ⟨rfl, by decide, htype, hread, rfl, hsaid, Body.compact_ne_empty _⟩

end CloudSession
