/-
Task documents of JSON. What is reported is the member `task` of a document, or the document
itself if it has none (`reported`). So nothing is changed by wrapping a document, while a
status beside a member `task` is never seen (`task_status_alone`).
-/
import CloudSession.Proofs.Json.Compact
import CloudSession.Task.Status

namespace CloudSession
namespace Task

variable {r : Response} {document : Json} {state : State}

-- ===================================================================== statuses

/-- The part of a document that is reported. -/
def reported (document : Json) : Json := (document.get? "task").getD document

/-- The state that a value has a status word for. -/
def stateOf? (v : Json) : Option State := (v.textAt? "status").bind State.ofWord?

/-- What is reported decides about the answer. -/
theorem parseStatus_eq (hread : Json.readBytes? r.body = some document) :
    parseStatus .json r =
      match (reported document).textAt? "status" with
      | none => .error (.response .noTaskStatus)
      | some word =>
        match State.ofWord? word with
        | some state => .ok ⟨state, jsonMessage? (reported document)⟩
        | none => .error (.response (.taskStatus word)) := by
  simp only [parseStatus, report, hread, jsonReport, reported]
  cases ((document.get? "task").getD document).textAt? "status" <;> rfl

theorem parseStatus_of_state (hread : Json.readBytes? r.body = some document)
    (hstate : stateOf? (reported document) = some state) :
    parseStatus .json r = .ok ⟨state, jsonMessage? (reported document)⟩ := by
  obtain ⟨word, hword, hstate⟩ := Option.bind_eq_some_iff.mp hstate
  simp only [parseStatus_eq hread, hword, hstate]

theorem parseStatus_of_no_state (hread : Json.readBytes? r.body = some document)
    (hstate : stateOf? (reported document) = none) :
    ∃ fault, parseStatus .json r = .error (.response fault) := by
  rw [parseStatus_eq hread]
  cases hword : (reported document).textAt? "status" with
  | none => exact ⟨.noTaskStatus, rfl⟩
  | some word =>
    rw [stateOf?, hword, Option.bind_some] at hstate
    exact ⟨.taskStatus word, by simp only [hstate]⟩

-- ===================================================================== wrappers

theorem reported_of_no_task (htask : document.get? "task" = none) :
    reported document = document := by
  rw [reported, htask, Option.getD_none]

theorem reported_of_task {task : Json} (htask : document.get? "task" = some task) :
    reported document = task := by
  rw [reported, htask, Option.getD_some]

/-- A document that is wrapped reports what it reports by itself. -/
theorem parseStatus_wrapped {wrapped : Response} (hread : Json.readBytes? r.body = some document)
    (htask : document.get? "task" = none)
    (hwrapped : Json.readBytes? wrapped.body = some (.obj [("task", document)])) :
    parseStatus .json wrapped = parseStatus .json r := by
  have hinner : reported (.obj [("task", document)]) = reported document :=
    (reported_of_task rfl).trans (reported_of_no_task htask).symm
  rw [parseStatus_eq hread, parseStatus_eq hwrapped, hinner]

/-- Without a state there is none to be reported, nor if a member `task` hides it. -/
theorem stateOf?_reported_eq_none (hinner : (document.get? "task").bind stateOf? = none)
    (houter : stateOf? document = none ∨ document.get? "task" ≠ none) :
    stateOf? (reported document) = none := by
  cases htask : document.get? "task" with
  | none =>
    rw [reported_of_no_task htask]
    exact houter.resolve_right (fun hsome => hsome htask)
  | some task =>
    rw [htask, Option.bind_some] at hinner
    rw [reported_of_task htask, hinner]

end Task

/-- A document without a member `task` may be wrapped in one. The state that a document has
of its own is reported, where that member has none, if and only if there is no such member;
and where neither has a state, the response is malformed. -/
theorem task_status_alone {r : Response} {document : Json}
    (hread : Json.readBytes? r.body = some document) :
    (document.get? "task" = none → ∀ wrapped : Response,
      Json.readBytes? wrapped.body = some (.obj [("task", document)]) →
      Task.parseStatus .json wrapped = Task.parseStatus .json r) ∧
    ((document.get? "task").bind Task.stateOf? = none → ∀ state,
      Task.stateOf? document = some state →
      ((∃ message, Task.parseStatus .json r = .ok ⟨state, message⟩) ↔
        document.get? "task" = none)) ∧
    ((document.get? "task").bind Task.stateOf? = none →
      Task.stateOf? document = none ∨ document.get? "task" ≠ none →
      ∃ fault, Task.parseStatus .json r = .error (.response fault)) := by
  have hmalformed (hinner : (document.get? "task").bind Task.stateOf? = none)
      (houter : Task.stateOf? document = none ∨ document.get? "task" ≠ none) :
      ∃ fault, Task.parseStatus .json r = .error (.response fault) :=
    Task.parseStatus_of_no_state hread (Task.stateOf?_reported_eq_none hinner houter)
  refine ⟨fun htask wrapped hwrapped => Task.parseStatus_wrapped hread htask hwrapped,
    fun hinner state hstate => ⟨?_, fun htask => ?_⟩, hmalformed⟩
  · rintro ⟨message, hparse⟩
    by_contra htask
    obtain ⟨fault, hfault⟩ := hmalformed hinner (.inr htask)
    exact nomatch hparse.symm.trans hfault
  · rw [← Task.reported_of_no_task htask] at hstate
    exact ⟨_, Task.parseStatus_of_state hread hstate⟩

namespace Sample

/-- A document whose members are texts. -/
def texts (members : List (String × String)) : Json :=
  .object (members.map fun (key, text) => (key, .str text))

theorem readable_texts (members : List (String × String)) : Json.Readable 1 (texts members) := by
  refine Json.readable_object fun m hm => ?_
  obtain ⟨part, -, rfl⟩ := List.mem_map.mp hm
  exact .str part.2

theorem numbers_texts (members : List (String × String)) : (texts members).numbers = [] := by
  refine Json.numbers_object fun m hm => ?_
  obtain ⟨part, -, rfl⟩ := List.mem_map.mp hm
  rfl

/-- A response whose body is a value. -/
def saying (v : Json) : Response := ⟨200, .empty, v.compact.toUTF8⟩

theorem readBytes?_saying {v : Json} (hreadable : Json.Readable 2 v) (hnumbers : v.numbers = []) :
    Json.readBytes? (saying v).body = some v :=
  Json.readBytes?_of_numbers_eq_nil (hreadable.mono (by decide)) hnumbers

/-- A task that runs. -/
def running : Json := texts [("status", "running"), ("progress", "40")]

/-- A task that has succeeded, whose document gives its name under `task`. -/
def named : Json := texts [("status", "success"), ("task", "deploy-42")]

end Sample

/-- A document reports the same by itself and wrapped. -/
theorem task_status_alone_running :
    Json.readBytes? (Sample.saying Sample.running).body = some Sample.running ∧
      Sample.running.get? "task" = none ∧ Task.stateOf? Sample.running = some .running ∧
      (∃ message, Task.parseStatus .json (Sample.saying Sample.running)
        = .ok ⟨.running, message⟩) ∧
      Task.parseStatus .json (Sample.saying (.obj [("task", Sample.running)]))
        = Task.parseStatus .json (Sample.saying Sample.running) := by
  have hreadable : Json.Readable 1 Sample.running := Sample.readable_texts _
  have hnumbers : Sample.running.numbers = [] := Sample.numbers_texts _
  have hread := Sample.readBytes?_saying (hreadable.mono (by decide)) hnumbers
  have hwrapped := Sample.readBytes?_saying (v := .obj [("task", Sample.running)])
    (.obj (List.pairwise_singleton _ _) (List.forall_mem_singleton.mpr hreadable))
    (by rw [Json.numbers, Json.memberNumbers, hnumbers]; rfl)
  have htask : Sample.running.get? "task" = none := by decide +kernel
  have hstate : Task.stateOf? Sample.running = some .running := by decide +kernel
  obtain ⟨hwrap, halone, -⟩ := task_status_alone hread
  exact ⟨hread, htask, hstate, (halone (by rw [htask]; rfl) _ hstate).mpr htask,
    hwrap htask _ hwrapped⟩

/-- A state beside a member `task` is not reported, even if that is a mere name. -/
theorem named_task_malformed :
    Json.readBytes? (Sample.saying Sample.named).body = some Sample.named ∧
      Task.stateOf? Sample.named = some .success ∧
      Sample.named.get? "task" = some (.str "deploy-42") ∧
      Task.parseStatus .json (Sample.saying Sample.named)
        = .error (.response .noTaskStatus) := by
  have hread : Json.readBytes? (Sample.saying Sample.named).body = some Sample.named :=
    Sample.readBytes?_saying ((Sample.readable_texts _).mono (by decide)) (Sample.numbers_texts _)
  have hstate : Task.stateOf? Sample.named = some .success := by decide +kernel
  refine ⟨hread, hstate, rfl, ?_⟩
  rw [Task.parseStatus_eq hread]
  rfl

end CloudSession
