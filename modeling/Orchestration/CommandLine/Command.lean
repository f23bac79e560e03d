import Orchestration.CommandLine.Arguments
import Orchestration.Json.Reader
import Orchestration.Report

namespace Orchestration.Command

structure Output where
  exitCode : Nat
  stdout : String
  stderr : String
  deriving DecidableEq, Repr

inductive Breakdown where
  | malformedCases
  | tooDeep
  | payload (fault : Json.DumpFault)
  | unwritable
  deriving DecidableEq, Repr

inductive Outcome where
  | stopped (stop : Arguments.Stop)
  | finished (output : Output)
  | broken (breakdown : Breakdown)
  deriving DecidableEq, Repr

def failed (message : String) : Output := ⟨1, "", "Error: " ++ message ++ "\n"⟩

def printed (text : String) : Output := ⟨0, text ++ "\n", ""⟩

def chainOutput (f : Flow) : Noted Outcome :=
  (f.toGraph.toChain (f.name?.getD "")).map fun
    | .error fault => .broken (.payload fault)
    | .ok c =>
        if c.isWritable then .finished (printed (Json.render .record c.encode))
        else .broken .unwritable

def reportOutput (json : Bool) (f : Flow) : Output :=
  let report := Report.ofFlow f
  printed (if json then Json.render .report report.encode else report.text)

def output (request : Arguments.Request) (f : Flow) : Noted Outcome :=
  if request.chain then chainOutput f else .quiet (.finished (reportOutput request.json f))

def unreadable (reason : String) : Output := failed ("could not read flow file: " ++ reason)

def readRefusal (fault : Json.ReadFault) : Outcome :=
  match fault with
  | .malformed => .finished (unreadable "<json>")
  | .tooDeep => .broken .tooDeep
  | fault => .finished (unreadable fault.message)

-- A file that cannot be read as a flow.
def refusal (fault : Orchestrator.ImportFault) : Outcome :=
  match fault with
  | .rejected ⟨_, .malformedCases⟩ => .broken .malformedCases
  | .build (.rejected ⟨_, .malformedCases⟩) => .broken .malformedCases
  | fault => .finished (unreadable fault.message)

-- What the file holds: nothing if there is none. Where a text is not JSON, `<json>` stands
-- for what is wrong with it.
def run (args : List String) (file : String → Option String) (s : Supply) : Noted Outcome :=
  match Arguments.parse args with
  | .error stop => .quiet (.stopped stop)
  | .ok request =>
      match file request.file with
      | none => .quiet (.finished (failed ("flow file not found: " ++ request.file)))
      | some text =>
          match Json.parse text with
          | .error fault => .quiet (readRefusal fault)
          | .ok document =>
              (Flow.load document s).bind fun
                | .error fault => .quiet (refusal fault)
                | .ok (f, _) => output request f

end Orchestration.Command
