import Bringup.CommandLine.Arguments

namespace Bringup

/-! How a program ends. -/

/-- The exit code of a program and what it wrote besides its log. -/
structure Exit where
  code : Nat
  output : String := ""
  errorOutput : String := ""
deriving DecidableEq, Repr

namespace Exit

def success : Exit := { code := 0 }

def failure : Exit := { code := 1 }

/-- A panic that nothing catches ends a program with a code of its own. Where in the
program it arose is left out of what is said. -/
def panicked (message : String) : Exit where
  code := 101
  errorOutput := "thread 'main' panicked:\n" ++ message ++ "\n"

def ofNotice (notice : CommandLine.Notice) : Exit where
  code := notice.exitCode
  output := notice.output
  errorOutput := notice.errorOutput

end Exit

end Bringup
