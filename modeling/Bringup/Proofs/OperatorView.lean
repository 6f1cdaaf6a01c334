import Bringup.Program.Inquiry
import Bringup.Proofs.Encoding
import Bringup.Proofs.Rereading
import Bringup.Proofs.Launching

namespace Bringup

/-! What an operator is shown of readiness.

The answer of the server comes through both programs unharmed: its JSON is written, sent, read,
laid out and printed, and still tells the same (`Inquiry.launch_tells_readiness`). -/

/-! ## Readiness as JSON -/

namespace Slot

def named? (name : String) : Option Slot := all.find? fun slot => slot.name = name

theorem named?_name (slot : Slot) : named? slot.name = some slot := by
  cases slot <;> decide

def ofJson? : Json → Option Slot
  | .text name => named? name
  | _ => none

end Slot

namespace StepStatus

/-- The status that an object tells, whose members stand in the order of their keys. -/
def ofJson? : Json → Option StepStatus
  | .object [("completed", .flag completed), ("name", .text name)] => some ⟨name, completed⟩
  | _ => none

def told (status : StepStatus) : Json :=
  .object [("completed", .flag status.completed), ("name", .text status.name)]

theorem sorted_toJson (status : StepStatus) : status.toJson.sorted = status.told := by
  have before : "completed" < "name" := by decide
  simp [toJson, told, Json.sorted, Json.sortMembers, Json.insertMember, before]

theorem sorted_told (status : StepStatus) : status.told.sorted = status.told := by
  have after : ¬ "name" < "completed" := by decide
  simp [told, Json.sorted, Json.sortMembers, Json.insertMember, after]

theorem readable_toJson {room : Nat} (status : StepStatus) :
    status.toJson.Readable (room + 1) := by
  apply Json.Readable.object
  · simp [Json.embeddingKey]
  · intro member among
    simp only [List.mem_cons, List.not_mem_nil, or_false] at among
    rcases among with rfl | rfl
    · exact .text status.name
    · exact .flag status.completed

theorem readable_told {room : Nat} (status : StepStatus) : status.told.Readable (room + 1) := by
  apply Json.Readable.object
  · simp [Json.embeddingKey]
  · intro member among
    simp only [List.mem_cons, List.not_mem_nil, or_false] at among
    rcases among with rfl | rfl
    · exact .flag status.completed
    · exact .text status.name

end StepStatus

theorem mapM_map {α β : Type} (read : β → Option α) (write : α → β)
    (undone : ∀ value, read (write value) = some value) (values : List α) :
    (values.map write).mapM read = some values := by
  induction values with
  | nil => rfl
  | cons value rest induction =>
      rw [List.map_cons, List.mapM_cons, undone, induction]
      rfl

namespace Readiness

/-- The readiness that an object tells by these members and no others. -/
def ofJson? : Json → Option Readiness
  | .object [("components", .list components), ("ready", .flag isReady),
      ("steps", .list steps)] => do
      return {
        isReady
        steps := ← steps.mapM StepStatus.ofJson?
        components := ← components.mapM Slot.ofJson? }
  | _ => none

def told (readiness : Readiness) : Json :=
  .object [
    ("components", .list (readiness.components.map fun slot => .text slot.name)),
    ("ready", .flag readiness.isReady),
    ("steps", .list (readiness.steps.map StepStatus.told))]

theorem ofJson?_told (readiness : Readiness) : ofJson? readiness.told = some readiness := by
  have steps := mapM_map StepStatus.ofJson? StepStatus.told (fun _ => rfl) readiness.steps
  have components := mapM_map Slot.ofJson? (fun slot => .text slot.name) Slot.named?_name
    readiness.components
  simp only [told, ofJson?, steps, components]
  rfl

theorem sorted_toJson (readiness : Readiness) : readiness.toJson.sorted = readiness.told := by
  have steps : Json.sortItems (readiness.steps.map StepStatus.toJson) =
      readiness.steps.map StepStatus.told := by
    rw [Json.sortItems_map]
    exact List.map_congr_left fun status _ => status.sorted_toJson
  have last : ¬ "steps" < "ready" := by decide
  have first : "components" < "ready" := by decide
  simp [toJson, told, Json.sorted, Json.sortMembers, Json.insertMember, steps,
    Json.sortItems_map, last, first]

theorem sorted_told (readiness : Readiness) : readiness.told.sorted = readiness.told := by
  have steps : Json.sortItems (readiness.steps.map StepStatus.told) =
      readiness.steps.map StepStatus.told := by
    rw [Json.sortItems_map]
    exact List.map_congr_left fun status _ => status.sorted_told
  have second : ¬ "ready" < "components" := by decide
  have third : ¬ "steps" < "components" ∧ ¬ "steps" < "ready" := by decide
  simp [told, Json.sorted, Json.sortMembers, Json.insertMember, steps, Json.sortItems_map,
    second, third]

theorem readable_slots {room : Nat} (slots : List Slot) :
    (Json.list (slots.map fun slot => .text slot.name)).Readable (room + 1) :=
  Json.Readable.list_map (fun slot => .text slot.name) slots

theorem readable_toJson (readiness : Readiness) :
    readiness.toJson.Readable Json.depthLimit := by
  change Json.Readable (124 + 1 + 1 + 1) _
  apply Json.Readable.object
  · simp [Json.embeddingKey]
  · intro member among
    simp only [List.mem_cons, List.not_mem_nil, or_false] at among
    rcases among with rfl | rfl | rfl
    · exact .flag readiness.isReady
    · exact .list_map StepStatus.readable_toJson readiness.steps
    · exact readable_slots readiness.components

theorem readable_told (readiness : Readiness) : readiness.told.Readable Json.depthLimit := by
  change Json.Readable (124 + 1 + 1 + 1) _
  apply Json.Readable.object
  · simp [Json.embeddingKey]
  · intro member among
    simp only [List.mem_cons, List.not_mem_nil, or_false] at among
    rcases among with rfl | rfl | rfl
    · exact readable_slots readiness.components
    · exact .flag readiness.isReady
    · exact .list_map StepStatus.readable_told readiness.steps

end Readiness

/-! ## The exchange -/

namespace Inquiry

theorem layOut_readiness (readiness : Readiness) :
    ∃ value, Json.read? (layOut readiness.toJson.compact ++ "\n") = some value ∧
      Readiness.ofJson? value = some readiness := by
  rw [layOut, Json.read?_compact readiness.readable_toJson, readiness.sorted_toJson]
  refine ⟨readiness.told, ?_, readiness.ofJson?_told⟩
  rw [Json.read?_pretty readiness.readable_told, readiness.sorted_told]

theorem exchange_readiness {target : String} {url : Url} (read : Url.read target = .ok url)
    {responder : Responder} (reached : reaches url responder = true) {readiness : Readiness}
    (status : responder.status = readiness.status)
    (body : responder.body = Bytes.encode readiness.toJson.compact) :
    (exchange (some responder) target).1 = some (readiness.status, readiness.toJson.compact) := by
  have ordinary : Http.isBodiless readiness.status = false ∧
      Http.isStatus readiness.status = true ∧ Http.isInterim readiness.status = false := by
    cases told : readiness.isReady <;> simp [Readiness.status, told] <;> decide
  simp only [exchange, read, reached, if_true, status, body, ordinary, Bool.false_eq_true, if_false,
    Bool.not_false, Bool.and_self, Bytes.decodeLenient_encode]

/-- Whatever the bookkeeping and the context are, an operator who asks for the status is told the
readiness that the server answers with, and the exit code is that of success exactly when the
service is ready. -/
theorem launch_tells_readiness {arguments : List String} {base : String}
    (read : Question.read arguments = .ok ⟨base, .readiness⟩) {url : Url}
    (target : Url.read (base ++ Endpoint.readiness.path) = .ok url) {responder : Responder}
    (reached : reaches url responder = true) {manager : Manager} {context : Context}
    {request : HttpRequest} (asks : request.Asks .readiness)
    (status : responder.status = (Http.respond manager context request).status)
    (body : responder.body = Bytes.encode (Http.respond manager context request).body) :
    ((launch (some responder) arguments).1.code = 0 ↔ manager.ready = true) ∧
      ∃ value, Json.read? (launch (some responder) arguments).1.output = some value ∧
        Readiness.ofJson? value =
          some ⟨manager.ready, manager.status, context.components⟩ := by
  rw [Http.respond_of_asks asks] at status body
  have answered := exchange_readiness target reached status body
  rcases exchanged : exchange (some responder) (base ++ Endpoint.readiness.path) with
    ⟨response, requests⟩
  rw [exchanged] at answered
  cases answered
  have launched : (launch (some responder) arguments).1 =
      report (Readiness.of manager context).status
        (Readiness.of manager context).toJson.compact := by
    simp only [launch, read, Question.target, exchanged]
  rw [launched]
  refine ⟨?_, layOut_readiness (Readiness.of manager context)⟩
  have flag : (Readiness.of manager context).isReady = manager.ready := rfl
  cases told : manager.ready <;> simp [report, Readiness.status, flag, told, Http.isSuccess]

theorem launch_tells_quoted_step : ∃ (manager : Manager) (responder : Responder),
    manager.status = [⟨"\"\\\n\x01é", false⟩] ∧
      (launch (some responder) ["-u", "http://127.0.0.1:8080", "status"]).1.code ≠ 0 ∧
      ∃ value, Json.read?
          (launch (some responder) ["-u", "http://127.0.0.1:8080", "status"]).1.output =
            some value ∧
        Readiness.ofJson? value = some ⟨false, manager.status, []⟩ := by
  let manager : Manager := {
    steps := [{ name := "\"\\\n\x01é", action := .plain fun _ => .succeed }] }
  let response := Http.respond manager {} { target := "/readyz" }
  let responder : Responder := {
    address := { ip := .v4 [127, 0, 0, 1], port := 8080 }
    status := response.status
    body := Bytes.encode response.body }
  have read : Question.read ["-u", "http://127.0.0.1:8080", "status"] =
      .ok ⟨"http://127.0.0.1:8080", .readiness⟩ := rfl
  let url : Url := {
    scheme := "http", host := some (.address (.v4 [127, 0, 0, 1])), port := some 8080
    path := "/readyz" }
  have found : (Url.read ("http://127.0.0.1:8080" ++ Endpoint.readiness.path)).toOption =
      some url := by decide +kernel
  have target : Url.read ("http://127.0.0.1:8080" ++ Endpoint.readiness.path) = .ok url := by
    cases outcome : Url.read ("http://127.0.0.1:8080" ++ Endpoint.readiness.path) with
    | error fault =>
        rw [outcome] at found
        cases found
    | ok other =>
        rw [outcome] at found
        cases found
        rfl
  have reached : reaches url responder = true := by decide +kernel
  have asks : HttpRequest.Asks { target := "/readyz" } .readiness :=
    ⟨rfl, by decide, by decide, by decide⟩
  have told : (_ ↔ manager.ready = true) ∧ _ :=
    launch_tells_readiness read target reached asks rfl rfl
  refine ⟨manager, responder, rfl, fun success => ?_, told.2⟩
  exact absurd (told.1.mp success) (by decide)

end Inquiry

end Bringup
