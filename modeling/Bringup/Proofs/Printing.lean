import Mathlib
import Bringup.Program.Inquiry
import Bringup.Proofs.Encoding
import Bringup.Proofs.Nesting

namespace Bringup

/-! How an answer is printed.

A body that is a document is laid out: what is printed tells the same, and is printed again as it
is. Anything else is printed unchanged. The exit code and the message about the status take no
account of the body (`Inquiry.launch_prints_faithfully`).

An object that begins with the reserved key stands for what it quotes. The key may also come to
stand in front because keys are printed in order, and what is printed is then no longer what was
read (`Inquiry.reserved_key_misprinted`). -/

namespace Inquiry

open Json

def answered (responder : Responder) (arguments : List String) (text : String) : Exit :=
  (launch (some { responder with body := Bytes.encode text }) arguments).1

/-- What is printed of a body tells a value, also when it is read again, and is printed again as
it is, with the end of its line or without. -/
structure Retells (run : String → Exit) (body : String) (value : Json) : Prop where
  spelled : SpellsPadded (run body).output.toList value
  reread : read? (run body).output = some value
  again : ∀ printed : String,
    printed = (run body).output ∨ printed ++ "\n" = (run body).output →
      (run printed).output = (run body).output

/-- How a body is reported that came with a status. What is printed of a document is settled where
its numbers are whole ones of 64 bits and no object begins with the reserved key, neither as it is
written nor in the order of its keys. -/
structure Reports (status : Nat) (run : String → Exit) (body : String) : Prop where
  exit : (run body).code = 0 ↔ 200 ≤ status ∧ status < 300
  message : (toString status).toList <:+: (run body).errorOutput.toList ↔
    ¬ (200 ≤ status ∧ status < 300)
  unread : read? body = none → (run body).output = body ++ "\n"
  foreign : (∀ document, ¬ SpellsPadded body.toList document) → read? body = none
  deep : ∀ document, SpellsPadded body.toList document → depthLimit < document.depth →
    read? body = none
  accepted : ∀ document, SpellsPadded body.toList document →
    document.isIntegral = true → document.isDirect = true →
      read? body = if document.depth ≤ depthLimit then some document.sorted else none
  told : ∀ document, SpellsPadded body.toList document →
    document.isIntegral = true → document.isDirect = true → document.sorted.isDirect = true →
      document.depth ≤ depthLimit →
        Tells document document.sorted ∧ Retells run body document.sorted
  retold : ∀ value, read? body = some value →
    value.isIntegral = true → value.isDirect = true → value.depth ≤ depthLimit →
      Retells run body value

theorem isSuccess_iff {status : Nat} :
    Http.isSuccess status = true ↔ 200 ≤ status ∧ status < 300 := by
  simp [Http.isSuccess]

theorem report_code (status : Nat) (body : String) :
    (report status body).code = 0 ↔ 200 ≤ status ∧ status < 300 := by
  rw [← isSuccess_iff]
  cases success : Http.isSuccess status <;> simp [report, success]

theorem report_message (status : Nat) (body : String) :
    (toString status).toList <:+: (report status body).errorOutput.toList ↔
      ¬ (200 ≤ status ∧ status < 300) := by
  rw [← isSuccess_iff]
  cases success : Http.isSuccess status with
  | true =>
      have silent : (report status body).errorOutput = "" := by simp [report, success]
      refine iff_of_false (fun inside => ?_) (not_not_intro rfl)
      rw [silent, Nat.toString_eq_ofList_toDigits, String.toList_ofList] at inside
      exact Nat.toDigits_ne_nil (List.infix_nil.mp inside)
  | false =>
      have message : (report status body).errorOutput = "Error: service returned status " ++
          (toString status ++ " " ++ (Http.reasons.lookup status).getD "<unknown status code>") ++
            "\n" := by simp [report, success, Http.writeStatus]
      refine iff_of_true ⟨"Error: service returned status ".toList,
        (" " ++ (Http.reasons.lookup status).getD "<unknown status code>" ++ "\n").toList, ?_⟩ nofun
      simp [message]

theorem read?_layOut {body : String} {value : Json} (read : read? body = some value)
    (integral : value.isIntegral = true) (direct : value.isDirect = true)
    (fits : value.depth ≤ depthLimit) {after : List Char} (blank : IsBlanks after) :
    SpellsPadded (layOut body ++ String.ofList after).toList value ∧
      read? (layOut body ++ String.ofList after) = some value := by
  have sorted := sorted_eq (exists_document read).1
  have written : layOut body = String.ofList (Layout.spread.write 0 value) := by
    rw [layOut, read, Layout.write_spread]
    rfl
  rw [written, ← String.ofList_append]
  refine ⟨Layout.isBlank_spread.spells_written integral blank, ?_⟩
  rw [Layout.isBlank_spread.read?_write integral direct fits blank, sorted]

theorem report_retells {status : Nat} {body : String} {value : Json}
    (read : read? body = some value) (integral : value.isIntegral = true)
    (direct : value.isDirect = true) (fits : value.depth ≤ depthLimit) :
    Retells (report status) body value := by
  have ended : IsBlanks ['\n'] := by
    simp [IsBlanks, isBlank]
  rcases read?_layOut read integral direct fits ended with ⟨spelled, reread⟩
  refine ⟨spelled, reread, fun printed same => ?_⟩
  have told : read? printed = some value := by
    rcases same with rfl | same
    · exact reread
    · have bare := (read?_layOut read integral direct fits isBlanks_nil).2
      have same : printed = layOut body := (String.append_left_inj "\n").mp same
      rwa [String.ofList_nil, String.append_empty, ← same] at bare
  simp only [report, layOut, told, read]

theorem reports_report (status : Nat) (body : String) : Reports status (report status) body where
  exit := report_code status body
  message := report_message status body
  unread missing := by rw [report, layOut, missing]
  foreign none := by
    cases read : read? body with
    | none => rfl
    | some value =>
        rcases (exists_document read).2 with ⟨document, spelled⟩
        exact absurd spelled (none document)
  deep document spelled nested := by
    cases read : read? body with
    | none => rfl
    | some value => exact absurd (spelled.depth_le read) (Nat.not_le.mpr nested)
  accepted _ spelled integral direct := spelled.read?_eq integral direct
  told document spelled integral direct sortedDirect fits := by
    have read := spelled.read?_eq integral direct
    rw [if_pos fits] at read
    exact ⟨tells_sorted document, report_retells read (isIntegral_sorted integral) sortedDirect
      (Nat.le_trans (depth_sorted_le document) fits)⟩
  retold _ read integral direct fits := report_retells read integral direct fits

theorem answered_eq {arguments : List String} {question : Question}
    (read : Question.read arguments = .ok question) {url : Url}
    (target : Url.read question.target = .ok url) {responder : Responder}
    (reached : reaches url responder = true) (isStatus : Http.isStatus responder.status = true)
    (final : Http.isInterim responder.status = false)
    (bodied : Http.isBodiless responder.status = false) :
    answered responder arguments = report responder.status := by
  funext body
  have reached : reaches url { responder with body := Bytes.encode body } = true := reached
  simp only [answered, launch, read, exchange, target, reached, isStatus, final, bodied, if_true,
    Bool.false_eq_true, if_false, Bool.not_false, Bool.and_self, Bytes.decodeLenient_encode]

/-- Whatever text a reached server sends with a final status, it is printed faithfully. -/
theorem launch_prints_faithfully {arguments : List String} {question : Question}
    (read : Question.read arguments = .ok question) {url : Url}
    (target : Url.read question.target = .ok url) {responder : Responder}
    (reached : reaches url responder = true) (isStatus : Http.isStatus responder.status = true)
    (final : Http.isInterim responder.status = false)
    (bodied : Http.isBodiless responder.status = false) (body : String) :
    Reports responder.status (answered responder arguments) body := by
  rw [answered_eq read target reached isStatus final bodied]
  exact reports_report responder.status body

theorem prints_repeated_key : ∃ (responder : Responder) (document : Json),
    responder.status = 503 ∧
      document = .object [("b", .null), ("a", .list [.whole (-1), .text "\n\x01é"]),
        ("b", .object [])] ∧
      document.sorted = .object [("a", .list [.whole (-1), .text "\n\x01é"]),
        ("b", .object [])] ∧
      (answered responder ["-u", "http://127.0.0.1:8080", "status"] document.compact).code ≠ 0 ∧
      Tells document document.sorted ∧
      Retells (answered responder ["-u", "http://127.0.0.1:8080", "status"])
        document.compact document.sorted := by
  let responder : Responder := {
    address := { ip := .v4 [127, 0, 0, 1], port := 8080 }
    status := 503
    body := [] }
  let document : Json := .object [("b", .null),
    ("a", .list [.whole (-1), .text "\n\x01é"]), ("b", .object [])]
  have read : Question.read ["-u", "http://127.0.0.1:8080", "status"] =
      .ok ⟨"http://127.0.0.1:8080", .readiness⟩ := rfl
  let url : Url := {
    scheme := "http", host := some (.address (.v4 [127, 0, 0, 1])), port := some 8080
    path := "/readyz" }
  have target : Url.read ("http://127.0.0.1:8080" ++ Endpoint.readiness.path) = .ok url := by
    have found : (Url.read ("http://127.0.0.1:8080" ++ Endpoint.readiness.path)).toOption =
        some url := by decide +kernel
    cases outcome : Url.read ("http://127.0.0.1:8080" ++ Endpoint.readiness.path) with
    | error fault =>
        rw [outcome] at found
        cases found
    | ok other =>
        rw [outcome] at found
        cases found
        rfl
  have reached : reaches url responder = true := by decide +kernel
  have spelled : SpellsPadded document.compact.toList document := by
    have written := Layout.isBlank_narrow.spells_written (by decide : document.isIntegral = true)
      isBlanks_nil
    rwa [List.append_nil, Layout.write_narrow] at written
  have reports := launch_prints_faithfully read target reached (by decide) (by decide) (by decide)
    document.compact
  have told := reports.told document spelled (by decide) (by decide) (by decide +kernel)
    (by decide)
  refine ⟨responder, document, rfl, rfl, ?_, fun success => ?_, told⟩
  · cbv
  · exact absurd (reports.exit.mp success) (by decide)

theorem reserved_key_misprinted : ∃ (responder : Responder) (document value : Json),
    responder.status = 200 ∧
      document = .object [("a", .object [(embeddingKey, .text "1")]), (embeddingKey, .text "2")] ∧
      SpellsPadded document.compact.toList document ∧ document.isIntegral = true ∧
      read? document.compact = some value ∧ value.isIntegral = true ∧ ¬ Tells document value ∧
      (answered responder ["-u", "http://127.0.0.1:8080", "status"] document.compact).output =
        value.pretty ++ "\n" ∧
      SpellsPadded (value.pretty ++ "\n").toList value ∧
      read? (value.pretty ++ "\n") = none := by
  let responder : Responder := {
    address := { ip := .v4 [127, 0, 0, 1], port := 8080 }
    status := 200
    body := [] }
  let document : Json := .object
    [("a", .object [(embeddingKey, .text "1")]), (embeddingKey, .text "2")]
  let value : Json := .object [(embeddingKey, .text "2"), ("a", .whole 1)]
  have spelled : SpellsPadded document.compact.toList document := by
    have written := Layout.isBlank_narrow.spells_written (by rfl : document.isIntegral = true)
      isBlanks_nil
    rwa [List.append_nil, Layout.write_narrow] at written
  have printed : SpellsPadded (value.pretty ++ "\n").toList value := by
    have ended : IsBlanks ['\n'] := by simp [IsBlanks, isBlank]
    have written := Layout.isBlank_spread.spells_written (by decide : value.isIntegral = true)
      ended
    rwa [Layout.write_spread, String.ofList_append] at written
  have read : read? document.compact = some value := by cbv
  have apart : ¬ Tells
      (.object [("a", .object [(embeddingKey, .text "1")]), (embeddingKey, .text "2")])
      (.object [(embeddingKey, .text "2"), ("a", .whole 1)]) := by
    intro tells
    cases tells with
    | object _ last =>
        have first : Option.Rel Tells (some (.object [(embeddingKey, .text "1")]))
          (some (.whole 1)) := by simpa [List.lookup_cons, embeddingKey] using last "a"
        cases first with
        | some told => cases told
  refine ⟨responder, document, value, rfl, rfl, spelled, rfl, read, by decide, apart, ?_, printed,
    ?_⟩
  · decide +kernel
  · decide +kernel

end Inquiry

end Bringup
