/-
What a `call` command does. Its header arguments are read before anything else is
done; of the arguments that name one header the last one counts (`get?_given`). If
they can be read and the method is known, the command is one call of its client
(`run_call`), and its request has the given headers in place of all defaults and the
given body (`carries_call`). It ends well if the call brings a successful response
whose body can be shown (`fault_responseReport`).
-/
import CloudSession.Command.Run
import CloudSession.Proofs.Fleet.Basic
import CloudSession.Proofs.Session.Overlay
import CloudSession.Proofs.Session.Reported
import CloudSession.Proofs.Text.Part

namespace CloudSession

theorem Method.ofName?_eq_none_iff {text : String} :
    ofName? text = none ↔ ∀ m : Method, m.name ≠ text.toUpper := by
  have hall : ∀ m : Method, m ∈ all := fun m => by cases m <;> decide
  rw [ofName?, List.find?_eq_none]
  simp [hall]

namespace Command

variable {texts : List String} {name value : String}

-- =================================================================== arguments

/-- A header argument gives a value under a name, in any case: the name stands
before its first colon and the value behind it, blanks around both aside. -/
def Gives (text name value : String) : Prop :=
  ∃ before after, text.toList = before ++ ':' :: after ∧ ':' ∉ before ∧
    Headers.sameName (Text.trim (String.ofList before)) name = true ∧
    Text.trim (String.ofList after) = value

/-- Of the arguments that name a header the last one gives a value. -/
def GivesLast (texts : List String) (name value : String) : Prop :=
  ∃ before text after, texts = before ++ text :: after ∧ Gives text name value ∧
    ∀ other ∈ after, ∀ v, ¬Gives other name v

/-- The value that an argument gives under a name. -/
def given? (name text : String) : Option String :=
  (header? text).bind fun pair => if Headers.sameName pair.1 name then some pair.2 else none

theorem given?_eq_some_iff {text : String} :
    given? name text = some value ↔ Gives text name value := by
  simp only [given?, header?, Option.bind_eq_some_iff, Option.map_eq_some_iff,
    Option.ite_none_right_eq_some, Option.some.injEq, Prod.exists, Text.splitFirst_eq_some_iff,
    Gives]
  constructor
  · rintro ⟨_, _, ⟨before, after, ⟨htext, hbefore⟩, hpair⟩, hname, rfl⟩
    obtain ⟨rfl, rfl⟩ := Prod.mk.inj hpair
    exact ⟨before, after, htext, hbefore, hname, rfl⟩
  · rintro ⟨before, after, htext, hbefore, hname, rfl⟩
    exact ⟨_, _, ⟨before, after, ⟨htext, hbefore⟩, rfl⟩, hname, rfl⟩

/-- Arguments that all have a colon are read, each by itself. -/
theorem headers_eq_ok (h : ∀ text ∈ texts, ':' ∈ text.toList) :
    headers texts = .ok (texts.filterMap header?) := by
  induction texts with
  | nil => rfl
  | cons text rest ih =>
    obtain ⟨htext, hrest⟩ := List.forall_mem_cons.mp h
    obtain ⟨before, after, hsplit, hbefore⟩ := List.eq_append_cons_of_mem htext
    have hread : header? text
        = some (Text.trim (String.ofList before), Text.trim (String.ofList after)) := by
      rw [header?, hsplit, Text.splitFirst_append hbefore]
      rfl
    rw [headers, hread, ih hrest, List.filterMap_cons_some hread]
    rfl

theorem headers_eq_error (h : ∃ text ∈ texts, ':' ∉ text.toList) :
    ∃ fault, headers texts = .error fault := by
  induction texts with
  | nil => simp at h
  | cons text rest ih =>
    rw [headers]
    cases hread : header? text with
    | none => exact ⟨_, rfl⟩
    | some pair =>
      have htext : ':' ∈ text.toList := by
        by_contra hcolon
        rw [header?, Text.splitFirst_of_notMem hcolon] at hread
        exact nomatch hread
      obtain ⟨fault, hfault⟩ := ih (by simpa [htext] using h)
      exact ⟨fault, by rw [hfault]; rfl⟩

theorem given?_eq_none_iff {text : String} :
    given? name text = none ↔ ∀ value, ¬Gives text name value := by
  simp only [← given?_eq_some_iff, Option.eq_none_iff_forall_ne_some, ne_eq]

/-- The headers that arguments give. -/
def givenHeaders (texts : List String) : Headers := .ofList (texts.filterMap header?)

theorem distinct_givenHeaders (texts : List String) : (givenHeaders texts).Distinct :=
  Headers.distinct_ofList _

/-- The last of the arguments that name a header counts. -/
theorem get?_given :
    (givenHeaders texts).get? name = some value ↔ GivesLast texts name value := by
  have hlast : (givenHeaders texts).get? name = texts.reverse.findSome? (given? name) := by
    rw [givenHeaders, Headers.ofList, Headers.get?_setAll_last,
      show Headers.empty.get? name = none from rfl, Option.or_none, ← List.filterMap_reverse,
      ← List.head?_filterMap, List.filterMap_filterMap, List.head?_filterMap]
    rfl
  rw [hlast, findSome?_reverse_eq_some_iff]
  simp only [given?_eq_some_iff, given?_eq_none_iff]
  rfl

-- ===================================================================== calls

/-- No call is made for a method that there is not, or for a header argument that has
no colon. -/
def Refused (method : String) (texts : List String) : Prop :=
  (∀ m : Method, m.name ≠ method.toUpper) ∨ ∃ text ∈ texts, ':' ∉ text.toList

/-- The report of a call. -/
def callReport : Except SessionError Response → Report
  | .ok r => responseReport r
  | .error e => .failed (.session e)

theorem run_reporting (action : Action Response) (s : Scene) :
    (reporting action responseReport).run s
      = (callReport (action.outcome s).1, (action.outcome s).2) := by
  rw [reporting, StateT.run_bind, Action.outcome]
  rcases action.run.run s with ⟨e | r, s'⟩ <;> rfl

/-- A call ends well if it brings a response whose body can be decoded. -/
theorem fault_callReport {result : Except SessionError Response} :
    (callReport result).fault = none ↔
      ∃ r, result = .ok r ∧ ∃ body, Body.ofResponse r = .ok body := by
  cases result with
  | error e => simp [callReport, Report.failed]
  | ok r =>
    simp only [callReport, responseReport, Except.ok.injEq, exists_eq_left']
    cases Body.ofResponse r with
    | error e => simp
    | ok body => cases body <;> simp

section Calls

variable {c : Client} {path method : String} {data : Option String} {s : Scene}

theorem run_refused (h : Refused method texts) :
    ∃ fault, (run c (.call path method data texts)).run s = (.failed fault, s) := by
  show ∃ fault, (runCall c path method data texts).run s = (.failed fault, s)
  unfold runCall
  rcases h with hmethod | hcolon
  · rw [Method.ofName?_eq_none_iff.mpr hmethod]
    exact ⟨_, rfl⟩
  · obtain ⟨fault, hheaders⟩ := headers_eq_error hcolon
    rw [hheaders]
    cases Method.ofName? method <;> exact ⟨_, rfl⟩

/-- A command that is not refused is one call. -/
theorem run_call (h : ¬Refused method texts) :
    ∃ m : Method, m.name = method.toUpper ∧
      (run c (.call path method data texts)).run s =
        (callReport ((c.call path m (givenHeaders texts)
          (data.map String.toUTF8)).outcome s).1,
        ((c.call path m (givenHeaders texts) (data.map String.toUTF8)).outcome s).2) := by
  simp only [Refused, not_or, not_exists, not_and, not_not, not_forall] at h
  obtain ⟨hmethod, hcolon⟩ := h
  cases hname : Method.ofName? method with
  | none =>
    obtain ⟨m, hm⟩ := hmethod
    exact absurd hm (Method.ofName?_eq_none_iff.mp hname m)
  | some m =>
    have hm : m.name = method.toUpper := by simpa using List.find?_some hname
    refine ⟨m, hm, ?_⟩
    show (runCall c path method data texts).run s = _
    simp only [runCall, hname, headers_eq_ok hcolon]
    exact run_reporting _ s

/-- A request is as a command line gives it: what its header arguments give takes the
place of all defaults. -/
structure Carries (m : Method) (texts : List String) (data : Option String) (r : Request) :
    Prop where
  method : r.method = m
  headers : ∀ name value, GivesLast texts name value → r.headers.get? name = some value
  body : r.body = data.map String.toUTF8

theorem carries_requestOf (c : Client) (path : String) (m : Method) (texts : List String)
    (data : Option String) (token : String) (connection : Connection) :
    Carries m texts data
      (c.requestOf path m (givenHeaders texts) (data.map String.toUTF8) token connection) where
  method := rfl
  headers name value hgives := by
    show (c.requestHeaders m token _).get? name = some value
    rw [Client.requestHeaders_eq, Headers.get?_extend _ (distinct_givenHeaders _),
      get?_given.mpr hgives]
    rfl
  body := rfl

/-- A command line that is refused fails, and nothing is done for it. Any other makes one
call, which sends at most one request to the service. What the header arguments give and
the body are in that request as they were given, and the command ends well if and only if
a successful response came back whose body can be decoded. -/
theorem call_handled (c : Client) (path method : String) (data : Option String)
    (texts : List String) (s : Scene) :
    (Refused method texts →
      ∃ fault, (run c (.call path method data texts)).run s = (.failed fault, s)) ∧
    (¬Refused method texts → ∃ (m : Method) (caller : Headers)
        (result : Except SessionError Response) (s' : Scene) (new : List Event),
      m.name = method.toUpper ∧
      (∀ name value, caller.get? name = some value ↔ GivesLast texts name value) ∧
      (c.call path m caller (data.map String.toUTF8)).outcome s = (result, s') ∧
      (run c (.call path method data texts)).run s = (callReport result, s') ∧
      s'.outside.log = s.outside.log ++ new ∧ new.countP Event.isService ≤ 1 ∧
      (∀ r answer, .exchange .service r answer ∈ new → Carries m texts data r) ∧
      ((callReport result).fault = none ↔ ∃ r, Client.Answers new r ∧ r.isSuccess = true ∧
        ∃ body, Body.ofResponse r = .ok body)) := by
  refine ⟨run_refused, fun h => ?_⟩
  obtain ⟨m, hm, hrun⟩ := run_call h
  obtain ⟨new, hnew, hreports⟩ :=
    c.reports_call path m (givenHeaders texts) (data.map String.toUTF8) s
  obtain ⟨sent, hlog, hsent⟩ :=
    c.call_requests path m (givenHeaders texts) (data.map String.toUTF8) s
  obtain rfl := List.append_cancel_left (hlog.symm.trans hnew)
  have hreported := Client.reported_of_reports hreports
  have hends : (callReport ((c.call path m (givenHeaders texts)
      (data.map String.toUTF8)).outcome s).1).fault = none ↔
      ∃ r, Client.Answers sent r ∧ r.isSuccess = true ∧ ∃ body, Body.ofResponse r = .ok body := by
    simp only [fault_callReport, hreported.ok, and_assoc]
  refine ⟨m, givenHeaders texts, _, _, sent, hm, fun name value => get?_given,
    (Prod.eta _).symm, hrun, hnew, hreported.once, fun r answer hr => ?_, hends⟩
  -- Every request of the call is made of the headers given, so none is sent without them.
  obtain ⟨current, connection, -, rfl⟩ := hsent r answer hr
  exact carries_requestOf c path m texts data _ _

end Calls

end Command

namespace Sample

/-- Nothing done yet. A token is going to be granted, and a request answered. -/
def waiting : Scene :=
  ⟨.initial, ⟨⟨1893456000, 0⟩,
    ⟨[grant "T" "2999-01-01T00:00:00Z" (.arr []), status 200], []⟩, none, []⟩⟩

/-- Arguments that name a header twice, and one that a request has by default. -/
def twice : List String := ["x-trace: 1", "accept:text/plain", "x-trace : a:b "]

end Sample

open Command in
/-- Of a header that is given twice the request has the second value, with its colon. -/
theorem call_handled_twice :
    (Refused "post" ["X-Trace"] ∧ ∃ fault,
      (run (Sample.client none) (.call "/servers" "post" none ["X-Trace"])).run Sample.waiting
        = (.failed fault, Sample.waiting)) ∧
    (¬Refused "post" Sample.twice ∧ ∃ m r answer, .exchange .service r answer ∈
        ((run (Sample.client (some "https://api.example.com"))
          (.call "/servers" "post" (some "[]") Sample.twice)).run Sample.waiting).2.outside.log ∧
      Carries m Sample.twice (some "[]") r ∧ r.headers.get? "X-TRACE" = some "a:b") := by
  have hrefused : Refused "post" ["X-Trace"] := .inr ⟨_, List.mem_singleton_self _, by decide⟩
  have hpost : ¬Refused "post" Sample.twice := by
    rintro (hmethod | ⟨text, htext, hcolon⟩)
    · exact hmethod .post (by decide +kernel)
    · have hall : ∀ text ∈ Sample.twice, ':' ∈ text.toList := by decide +kernel
      exact hcolon (hall text htext)
  have hname : Headers.sameName "x-trace" "X-TRACE" = true := by
    rw [Headers.sameName_iff, ← String.toList_inj]
    show (String.map Char.toLower _).toList = (String.map Char.toLower _).toList
    rw [String.toList_map, String.toList_map]
    decide +kernel
  have htrim : Text.trim (String.ofList "x-trace ".toList) = "x-trace" := by decide +kernel
  have hlast : GivesLast Sample.twice "X-TRACE" "a:b" :=
    ⟨["x-trace: 1", "accept:text/plain"], "x-trace : a:b ", [], rfl,
      ⟨"x-trace ".toList, " a:b ".toList, by decide +kernel, by decide +kernel,
        htrim ▸ hname, by decide +kernel⟩, nofun⟩
  refine ⟨⟨hrefused, (call_handled _ _ _ _ _ _).1 hrefused⟩, hpost, ?_⟩
  obtain ⟨m, caller, result, s', new, -, -, -, hrun, hlog, -, hcarries, -⟩ :=
    (call_handled (Sample.client (some "https://api.example.com")) "/servers" "post" (some "[]")
      Sample.twice Sample.waiting).2 hpost
  have hsent : (((run (Sample.client (some "https://api.example.com"))
      (.call "/servers" "post" (some "[]") Sample.twice)).run Sample.waiting).2.outside.log).any
        Event.isService = true := by decide +kernel
  rw [hrun] at hsent ⊢
  obtain ⟨e, he, hservice⟩ := List.any_eq_true.mp hsent
  have hnew : s'.outside.log = new := hlog
  cases e with
  | exchange purpose r answer =>
    cases purpose with
    | service =>
      have hr := hcarries r answer (hnew ▸ he)
      exact ⟨m, r, answer, he, hr, hr.headers _ _ hlast⟩
    | _ => exact nomatch hservice
  | _ => exact nomatch hservice

end CloudSession
