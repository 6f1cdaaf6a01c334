import Bringup.Journal

namespace Bringup

/-! What is measured, read off a journal. -/

namespace Metrics

structure Measure where
  metric : String
  labels : List (String × String)
  total : Nat
deriving DecidableEq, Repr

def outcomeName (success : Bool) : String := if success then "success" else "failure"

def counterName : String := "bootstrap_steps_total"

def timerName : String := "bootstrap_step_duration_seconds"

def gaugeName : String := "bootstrap_ready"

def outcomes (journal : Journal) (step : String) : List Measure :=
  [true, false].filterMap fun success =>
    let total := journal.count step success
    if total = 0 then none
    else some ⟨counterName, [("step", step), ("outcome", outcomeName success)], total⟩

def measures (journal : Journal) : List Measure :=
  journal.measuredSteps.flatMap fun step =>
    ⟨timerName, [("step", step)], journal.timings step⟩ :: outcomes journal step

/-! ## As a table -/

def Measure.key (measure : Measure) : List String :=
  measure.metric ::
    (measure.labels.map fun label => label.1 ++ "=" ++ label.2).mergeSort

def table (journal : Journal) : List (List String × Nat) :=
  ((measures journal).map fun measure => (measure.key, measure.total)).mergeSort
    fun first second => !(List.lex second.1 first.1 fun left right => decide (left < right))

/-! ## As lines for a scraper -/

/-- The value of a label between its quotes, given whether a backslash is held
back. A backslash before a quote or another backslash is taken to escape it, and
one that escapes nothing is written twice. -/
def escapeLabel (isHeld : Bool) : List Char → List Char
  | [] => if isHeld then ['\\', '\\'] else []
  | '\n' :: rest => '\\' :: 'n' :: escapeLabel isHeld rest
  | '"' :: rest => '\\' :: '"' :: escapeLabel false rest
  | '\\' :: rest =>
      if isHeld then '\\' :: '\\' :: escapeLabel false rest else escapeLabel true rest
  | character :: rest =>
      if isHeld then '\\' :: '\\' :: character :: escapeLabel false rest
      else character :: escapeLabel false rest

def Measure.line (measure : Measure) : String :=
  let name := if measure.metric = timerName then timerName ++ "_count" else measure.metric
  let labels := measure.labels.map fun label =>
    label.1 ++ "=\"" ++ String.ofList (escapeLabel false label.2.toList) ++ "\""
  name ++ "\x7b" ++ String.intercalate "," labels ++ "\x7d " ++ toString measure.total

/-- The lines that a scraper of an address reads, sorted. Nothing that happened
before the exporter was installed is in them. -/
def scrape (journal : Journal) (address : SocketAddress) : List String :=
  match journal.exported? with
  | none => []
  | some (exporter, since) =>
      if !exporter.covers address then []
      else
        let gauge := match since.gauge? with
          | some isReady => [gaugeName ++ " " ++ (if isReady then "1" else "0")]
          | none => []
        (gauge ++ (measures since).map Measure.line).mergeSort

end Metrics

end Bringup
