import FlowRouting.Run.Plan

/-!
# Transcripts

What a command has to say: lines for the standard output, and, if it fails, an error with the chain
of its causes for the standard error.
-/

namespace FlowRouting.CommandLine

/-- What a command has to say. -/
structure Transcript where
  lines : List String := []
  /-- The error and its causes, the outermost first. -/
  failure : List String := []
  /-- The milliseconds that the command took by the clock of its run. -/
  elapsed : Nat := 0

/-- The transcript with lines before it. -/
def Transcript.behind (lines : List String) (t : Transcript) : Transcript :=
  { t with lines := lines ++ t.lines }

/-- A transcript that ends with an error. -/
def Transcript.failed (failure : List String) : Transcript :=
  { failure }

/-- The lines of a text that is moved to the right: what stands before its first line, and before
all others. -/
def indent (first others : String) (s : String) : List String :=
  match s.pieces '\n' with
  | [] => [first]
  | line :: lines => (first ++ line) :: lines.map (others ++ ·)

/-- The lines of causes; several are numbered. -/
def causeLines : List String → List String
  | [] => []
  | [cause] => indent "    " "    " cause
  | causes =>
    (causes.mapIdx fun i cause ↦
      let number := toString i
      indent ("".pushn ' ' (5 - number.length) ++ number ++ ": ") "       " cause).flatten

/-- The lines for the standard error. -/
def Transcript.errorLines (t : Transcript) : List String :=
  match t.failure with
  | [] => []
  | [error] => indent "Error: " "" error
  | error :: causes => indent "Error: " "" error ++ ["", "Caused by:"] ++ causeLines causes

/-- The exit code of a command that was carried out. -/
def Transcript.exitCode (t : Transcript) : Nat :=
  if t.failure.isEmpty then 0 else 1

/-! ## Causes -/

/-- An error and the causes it tells of. -/
def workflowFailure (e : WorkflowError) : List String :=
  match e with
  | .condition (.invalidClause _ source) => [e.message, source.message]
  | _ => [e.message]

def runFailure (e : RunError) : List String :=
  match e with
  | .node error => [e.message, error.message]
  | .workflow error => e.message :: workflowFailure error
  | .routing _ error => [e.message, error.message]
  | .nodeFailed .. | .cancelled => [e.message]

end FlowRouting.CommandLine
