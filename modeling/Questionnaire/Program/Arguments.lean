/-!
Arguments of the program.

Options may stand in front of the command and behind it. Of an option that is given in both places the
one behind the command counts; an option that is given twice in one place is refused.
-/

namespace Questionnaire.Program

inductive Format
  | text
  | json
deriving DecidableEq, Repr, Inhabited

def Format.ofName? : String → Option Format
  | "text" => some text
  | "json" => some json
  | _ => none

structure Options where
  format : Format := .text
  config : Option String := none
  quiet : Bool := false
  verbose : Bool := false
deriving DecidableEq, Repr, Inhabited

inductive Task
  | validate (script : String)
  | execute (script : String) (answers : Option String)
  | template (script : String)
  | interview (script : String)
deriving DecidableEq, Repr, Inhabited

inductive Invocation
  | version
  | perform (options : Options) (task : Task)
deriving DecidableEq, Repr, Inhabited

inductive Argument
  | flag (name : String)
  | option (name value : String)
  | word (s : String)
deriving DecidableEq, Repr, Inhabited

def valued : List String := ["--output", "--config", "--answers"]

/-- Splits an option from the value behind its equals sign. -/
def splitOption (s : String) : String × Option String :=
  match s.toList.span (· ≠ '=') with
  | (name, _ :: value) => (String.ofList name, some (String.ofList value))
  | (name, []) => (String.ofList name, none)

/-- The forms of arguments; `literal` tells that two dashes came before, after which all are words. -/
def classify : (literal : Bool) → List String → Option (List Argument)
  | _, [] => some []
  | true, s :: rest => (classify true rest).map (.word s :: ·)
  | false, s :: rest =>
    if s = "--" then classify true rest
    else if !s.startsWith "-" || s = "-" then (classify false rest).map (.word s :: ·)
    else
      match splitOption s with
      | (name, some value) =>
        if valued.contains name then (classify false rest).map (.option name value :: ·) else none
      | (name, none) =>
        if valued.contains name then
          match rest with
          | value :: rest =>
            if value.startsWith "-" && value != "-" then none
            else (classify false rest).map (.option name value :: ·)
          | [] => none
        else (classify false rest).map (.flag name :: ·)

/-- What the arguments have given so far. `used` are the options of the present place. -/
structure Given where
  options : Options := {}
  command : Option String := none
  script : Option String := none
  answers : Option String := none
  used : List String := []
deriving Inhabited

namespace Given

/-- Notes that an option is used, which it may be once in a place. -/
def use (g : Given) (name : String) : Option Given :=
  if g.used.contains name then none else some { g with used := name :: g.used }

def take (g : Given) : Argument → Option Given
  | .flag "--quiet" => (g.use "--quiet").map fun g =>
    { g with options := { g.options with quiet := true } }
  | .flag "--verbose" | .flag "-v" => (g.use "--verbose").map fun g =>
    { g with options := { g.options with verbose := true } }
  | .flag _ => none
  | .option "--output" value => do
    let format ← Format.ofName? value
    let g ← g.use "--output"
    return { g with options := { g.options with format } }
  | .option "--config" value => (g.use "--config").map fun g =>
    { g with options := { g.options with config := some value } }
  | .option "--answers" value =>
    if g.command = some "execute" then
      (g.use "--answers").map fun g => { g with answers := some value }
    else none
  | .option _ _ => none
  | .word s =>
    match g.command, g.script with
    | none, _ => some { g with command := some s, used := [] }
    | some _, none => some { g with script := some s }
    | some _, some _ => none

def task? (g : Given) : Option Task :=
  match g.command, g.script with
  | some "validate", some script => some (.validate script)
  | some "execute", some script => some (.execute script g.answers)
  | some "template", some script => some (.template script)
  | some "interview", some script => some (.interview script)
  | _, _ => none

end Given

/-- Takes arguments one after the other. The version is asked for in front of a command. -/
def Invocation.ofArguments (g : Given) : List Argument → Option Invocation
  | [] => g.task?.map (.perform g.options)
  | a :: rest =>
    if g.command.isNone && (a = .flag "--version" || a = .flag "-V") then some .version
    else (g.take a).bind fun g => ofArguments g rest

def Invocation.ofStrings (args : List String) : Option Invocation :=
  (classify false args).bind (ofArguments {})

end Questionnaire.Program
