import NodeWarden.Launch.Ending
import NodeWarden.Simulation.Machine

/-!
# The command line program

Reads the arguments, the environment and the settings file, runs the program, and writes
what it leaves behind. The program is not told here how to reach a cluster, so it evaluates
once or ends with that error.
-/

namespace NodeWarden

/-- The variables of the environment that the program looks at. -/
def readEnvironment : IO Environment := do
  let names := ["NODE_NAME", "MODE", "NVIDIA_VISIBLE_DEVICES", "GNSA_LOG_LEVEL",
      "GNSA_LOG_JSON", "RUST_LOG"]
  names.filterMapM fun name => return (← IO.getEnv name).map (name, ·)

/-- Reads the settings file. -/
def readSettings (path : String) : IO SettingsFile := do
  try
    return .text (← IO.FS.readFile path)
  catch
    | .noFileOrDirectory .. => return .absent
    | e => return .unreadable (toString e)

/-- Writes what a run has left behind, and answers its exit code. -/
def Ending.write (jsonLogs : Bool) (e : Ending) : IO UInt32 := do
  e.output.forM IO.println
  e.entries.forM fun x => IO.println (if jsonLogs then x.json.compact else x.line)
  e.errors.forM IO.eprintln
  return e.exitCode.toUInt32

/-- Runs the program once the arguments are known. -/
def runCommand (env : Environment) (args : Arguments) : IO UInt32 := do
  let file ← readSettings args.config
  let machine := MemoryMachine.create ⟨some ScriptedNetwork.disconnected, [], []⟩ false none
  match Launch.run args file 0 machine Yaml.Node.ofText? with
  | some (r, m) => (Ending.ofRun env args m.log r).write args.logJson
  | none => return 1

end NodeWarden

open NodeWarden in
def main (args : List String) : IO UInt32 := do
  let env ← readEnvironment
  match Arguments.parse env args with
  | .error fault => fault.ending.write false
  | .ok args => runCommand env args
