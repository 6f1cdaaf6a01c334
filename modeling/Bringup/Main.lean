import Bringup.Program.Inquiry
import Bringup.Program.Serving

namespace Bringup

/-! The two programs at work on what this process finds around it: its arguments,
its environment and its configuration file.

Sockets are not opened here. Both programs meet a network on which nothing can be
reached. -/

namespace Main

/-- The name and the value of an assignment. A name has at least one byte, which may be
the sign that ends every other name. -/
def splitAssignment? : List UInt8 → Option (List UInt8 × List UInt8)
  | [] => none
  | first :: rest =>
      match rest.span (· ≠ 0x3D) with
      | (name, _ :: value) => some (first :: name, value)
      | (_, []) => none

/-- Bytes between quotes, as developers see them, given how many bytes belong to a
character that has been written. -/
def describe : Nat → List UInt8 → List Char
  | _, [] => []
  | skip + 1, _ :: rest => describe skip rest
  | 0, byte :: rest =>
      match Bytes.pieces 0 ((byte :: rest).take 4) with
      | some character :: _ =>
          Quoted.escape character ++
            describe ((Bytes.encode (String.singleton character)).length - 1) rest
      | _ =>
          ['\\', 'x'] ++ (Nat.toDigits 16 (byte.toNat + 0x100)).tail.map Char.toUpper ++
            describe 0 rest

def readVariables : List (List UInt8 × List UInt8) → List Variable × Option Foreign
  | [] => ([], none)
  | (name, value) :: rest =>
      let (readable, foreign) := readVariables rest
      match Bytes.decode? name, Bytes.decode? value with
      | some name, some value =>
          (⟨name, value⟩ :: readable,
            foreign.map fun later => { later with before := later.before + 1 })
      | some _, none => (readable, some ⟨0, String.ofList ('"' :: describe 0 value ++ ['"'])⟩)
      | none, _ => (readable, some ⟨0, String.ofList ('"' :: describe 0 name ++ ['"'])⟩)

example : readVariables [([0x41], [0x62]), ([0x42], [0xE9, 0x7A])] =
    ([⟨"A", "b"⟩], some ⟨1, "\"\\xE9z\""⟩) := by decide +kernel

def environment : IO (List Variable × Option Foreign) := do
  try
    let block ← IO.FS.readBinFile "/proc/self/environ"
    return readVariables ((block.toList.splitOn 0).filterMap splitAssignment?)
  catch _ => return ([], none)

def fileAt (path : String) : IO Files := do
  try
    let content ← IO.FS.readBinFile path
    return Files.write [] path (.contents content.toList)
  catch _ => return []

def conclude (exit : Exit) : IO UInt32 := do
  (← IO.getStdout).putStr exit.output
  (← IO.getStderr).putStr exit.errorOutput
  return exit.code.toUInt32

def serve (arguments : List String) : IO UInt32 := do
  let path := match Serving.Options.read arguments with
    | .ok options => options.configPath
    | .error _ => Serving.defaultPath
  let (readable, foreign) ← environment
  let files ← fileAt path
  let clock := (← IO.monoMsNow) / 1000
  let world : World := { files, environment := readable, foreign, clock }
  let run := Serving.launch world arguments []
  for line in run.world.journal.lines do
    IO.println line.write
  conclude run.exit

def ask (arguments : List String) : IO UInt32 := conclude (Inquiry.launch none arguments).1

end Main

end Bringup

def main (arguments : List String) : IO UInt32 := do
  if (← IO.appPath).fileName = some Bringup.Inquiry.command.path then
    Bringup.Main.ask arguments
  else Bringup.Main.serve arguments
