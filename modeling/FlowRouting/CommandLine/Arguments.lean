/-!
# Arguments of the command line

A command is named by the first argument. Behind it stand options in any order, in a long form
whose value may follow an equals sign, or as single letters which may be joined; and operands. An
option is given at most once. Behind two hyphens everything is an operand.
-/

namespace FlowRouting.CommandLine

/-! ## What commands take -/

/-- What an option takes. -/
inductive ValueKind where
  | nothing
  | text
  /-- A path of a file, which is not empty. -/
  | path
deriving DecidableEq, Repr

/-- An option of a command. -/
structure OptionSpec where
  long : String
  short : Option Char
  kind : ValueKind

/-- What a command takes. -/
structure CommandSpec where
  options : List OptionSpec
  /-- Whether the command takes one operand, a path; otherwise it takes none. -/
  hasOperand : Bool

/-- Why no command comes out of the arguments. -/
inductive Refusal where
  /-- Help is wanted. -/
  | help
  /-- The arguments are not those of any command. -/
  | usage
deriving DecidableEq, Repr

/-- The options and operands that were given. -/
structure Given where
  options : List (String × String) := []
  operands : List String := []

namespace Given

def value? (g : Given) (long : String) : Option String :=
  g.options.lookup long

def has (g : Given) (long : String) : Bool :=
  (g.value? long).isSome

/-- Takes up an option with its value. -/
def put (g : Given) (o : OptionSpec) (value : String) : Except Refusal Given :=
  if g.has o.long || (o.kind = .path && value.isEmpty) then .error .usage
  else .ok { g with options := (o.long, value) :: g.options }

/-- Takes up an operand. -/
def putOperand (g : Given) (spec : CommandSpec) (operand : String) : Except Refusal Given :=
  if !spec.hasOperand || !g.operands.isEmpty || operand.isEmpty then .error .usage
  else .ok { g with operands := [operand] }

end Given

/-! ## Reading -/

/-- Whether an argument has the form of options, so that it is no value of the one before it. -/
def isOptionLike : List Char → Bool
  | '-' :: _ :: _ => true
  | _ => false

/-- The option that a long form without its hyphens names. Help is wanted only if no value is given
with it. -/
def CommandSpec.long? (spec : CommandSpec) (cs : List Char) : Except Refusal OptionSpec :=
  match spec.options.find? (·.long.toList == cs.takeWhile (· != '=')) with
  | some o => .ok o
  | none => .error (if cs = "help".toList then .help else .usage)

/-- The option with a letter. -/
def CommandSpec.short? (spec : CommandSpec) (letter : Char) : Except Refusal OptionSpec :=
  match spec.options.find? (·.short == some letter) with
  | some o => .ok o
  | none => .error (if letter = 'h' then .help else .usage)

/-- What an argument comes to: what was given so far, and an option that waits for the next
argument as its value. -/
abbrev Pending := Given × Option OptionSpec

/-- Takes up joined letters; the last one may have a value behind it. -/
def scanLetters (spec : CommandSpec) (g : Given) : List Char → Except Refusal Pending
  | [] => .ok (g, none)
  | letter :: rest => do
    let o ← spec.short? letter
    if o.kind = .nothing then scanLetters spec (← g.put o "") rest
    else
      match rest with
      | [] => return (g, some o)
      | '=' :: value => return (← g.put o (String.ofList value), none)
      | value => return (← g.put o (String.ofList value), none)

/-- Takes up a long option without its hyphens. -/
def scanLong (spec : CommandSpec) (g : Given) (cs : List Char) : Except Refusal Pending := do
  let o ← spec.long? cs
  match cs.dropWhile (· != '='), o.kind with
  | [], .nothing => return (← g.put o "", none)
  | [], _ => return (g, some o)
  | _ :: _, .nothing => throw .usage
  | _ :: value, _ => return (← g.put o (String.ofList value), none)

def scanArguments (spec : CommandSpec) : Pending → List String → Except Refusal Given
  | (g, none), [] => .ok g
  | (_, some _), [] => .error .usage
  | (g, some o), arg :: args => do
    if isOptionLike arg.toList then throw .usage
    scanArguments spec (← g.put o arg, none) args
  | (g, none), arg :: args => do
    match arg.toList with
    | ['-', '-'] => args.foldlM (fun g operand ↦ g.putOperand spec operand) g
    | '-' :: '-' :: cs => scanArguments spec (← scanLong spec g cs) args
    | '-' :: c :: cs => scanArguments spec (← scanLetters spec g (c :: cs)) args
    | _ => scanArguments spec (← g.putOperand spec arg, none) args

/-! ## Commands -/

/-- A command with what it was given. -/
inductive Command where
  /-- Run the workflow of a file. -/
  | run (file : String) (input : Option String) (lenient : Bool) (config : Option String)
  /-- Check the workflow of a file. -/
  | validate (file : String)
  /-- List the types of nodes. -/
  | nodes
  /-- List the references that a node can use. -/
  | variables (file : String) (node : String)
  /-- Write an example. -/
  | init (output : String)
deriving DecidableEq, Repr

namespace Command

/-- What each command takes. -/
def specs : List (String × CommandSpec) :=
  [("run",
      ⟨[⟨"file", some 'f', .path⟩, ⟨"input", some 'i', .text⟩, ⟨"lenient", none, .nothing⟩,
        ⟨"verbose", some 'v', .nothing⟩, ⟨"config", some 'c', .path⟩], false⟩),
    ("validate", ⟨[], true⟩),
    ("nodes", ⟨[], false⟩),
    ("vars", ⟨[⟨"file", some 'f', .path⟩, ⟨"node", some 'n', .text⟩], false⟩),
    ("init", ⟨[⟨"output", some 'o', .path⟩], false⟩)]

/-- The file that the example is written to unless another one is named. -/
def defaultOutput : String :=
  "workflow.json"

/-- The command with a name, if it was given all that it needs. -/
def ofGiven? (name : String) (g : Given) : Option Command :=
  match name with
  | "run" => do
    return .run (← g.value? "file") (g.value? "input") (g.has "lenient") (g.value? "config")
  | "validate" => g.operands.head?.map .validate
  | "nodes" => some .nodes
  | "vars" => do return .variables (← g.value? "file") (← g.value? "node")
  | "init" => some (.init ((g.value? "output").getD defaultOutput))
  | _ => none

/-- Reads the arguments that ask for help about the commands, or about one of them. -/
def helpRefusal : List String → Refusal
  | [] => .help
  | [name] => if name = "help" || (specs.lookup name).isSome then .help else .usage
  | _ => .usage

/-- Whether an argument in place of a command asks for help. Letters may be joined, and the first
one decides. -/
def isHelpOption (arg : String) : Bool :=
  arg == "--help" || ['-', 'h'].isPrefixOf arg.toList

def ofArguments : List String → Except Refusal Command
  | [] => .error .usage
  | name :: args =>
    if name = "help" then .error (helpRefusal args)
    else if isHelpOption name then .error .help
    else
      match specs.lookup name with
      | none => .error .usage
      | some spec => do
        let g ← scanArguments spec ({}, none) args
        match ofGiven? name g with
        | some command => return command
        | none => throw .usage

end Command

end FlowRouting.CommandLine
