namespace Bringup

/-! The environment of a process: named texts, of which the first under a name
counts. -/

structure Variable where
  name : String
  value : String
deriving DecidableEq, Repr

namespace Variable

def valueIn? (environment : List Variable) (name : String) : Option String :=
  (environment.find? fun assigned => assigned.name = name).map Variable.value

end Variable

/-- The first assignment of an environment that is no text. -/
structure Foreign where
  /-- How many variables come before it. -/
  before : Nat
  /-- What is no text in it, as developers see it. -/
  shown : String
deriving DecidableEq, Repr

namespace Foreign

def message (foreign : Foreign) : String :=
  "called \x60Result::unwrap()\x60 on an \x60Err\x60 value: " ++ foreign.shown

end Foreign

end Bringup
