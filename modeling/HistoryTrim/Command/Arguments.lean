import HistoryTrim.Event
import HistoryTrim.Text.Number

/-! # Command lines

Arguments name a command, with options before or after it. Some options belong to every command:
the configuration file, and how much is told about a run. An option of every command may stand on
both sides of the command; the file after the command counts.
-/

namespace HistoryTrim

/-- What the program is asked to do. -/
inductive Command where
  /-- Run as a service. -/
  | start
  | config (json : Bool)
  | validate
  | version
  /-- Run a single opportunity, at a given height or at the current one. -/
  | once (height : Option Height)
  /-- Show how each table can be trimmed. -/
  | probe
  deriving Repr, DecidableEq

/-- A command with the options that belong to every command. -/
structure Invocation where
  command : Command
  configFile : Option String := none
  verbose : Bool := false
  quiet : Bool := false
  deriving Repr, DecidableEq

/-- The least level of events that are told; quiet wins over verbose. -/
def Invocation.threshold (i : Invocation) : Level :=
  if i.quiet then .warn else if i.verbose then .debug else .info

inductive Request where
  | run (invocation : Invocation)
  | showVersion
  /-- The arguments are not understood. -/
  | misuse
  deriving Repr, DecidableEq

namespace Arguments

/-- Where an option stands: before the command, or after one. -/
inductive Scope where
  | top
  | start
  | config
  | validate
  | version
  | once
  | probe
  deriving Repr, DecidableEq

def Scope.ofName? : String → Option Scope
  | "start" => some start
  | "config" => some config
  | "validate" => some validate
  | "version" => some version
  | "once" => some once
  | "probe" => some probe
  | _ => none

structure Options where
  configFile : Option String := none
  verbose : Bool := false
  quiet : Bool := false
  json : Bool := false
  height : Option Height := none

/-- A request that is not to run a command. -/
abbrev Parsing (α : Type) := Except Request α

def misuse {α : Type} : Parsing α := .error .misuse

def height? (text : String) : Option Height :=
  let (negative, digits) := Text.takeSign text.toList
  if digits.isEmpty || !digits.all Char.isDigit then none
  else
    let n : Int := Text.digitsValue digits
    int64? (if negative then -n else n)

/-- Set an option that has no value. -/
def setFlag (scope : Scope) (o : Options) (name : String) : Parsing Options :=
  match name with
  | "verbose" => if o.verbose then misuse else .ok { o with verbose := true }
  | "quiet" => if o.quiet then misuse else .ok { o with quiet := true }
  | "json" => if scope = .config && !o.json then .ok { o with json := true } else misuse
  | "version" => if scope = .top then .error .showVersion else misuse
  | _ => misuse

def takesValue (scope : Scope) (name : String) : Bool :=
  name == "config" || (scope = .once && name == "height")

/-- Set an option that has a value; none may be set twice. -/
def setValue (o : Options) (name value : String) : Parsing Options :=
  if value.isEmpty then misuse
  else if name = "config" then
    if o.configFile.isSome then misuse else .ok { o with configFile := some value }
  else
    match o.height, height? value with
    | none, some h => .ok { o with height := some h }
    | _, _ => misuse

/-- Set the options of a group of single letters. -/
def setLetters (scope : Scope) (o : Options) : List Char → Parsing Options
  | [] => .ok o
  | c :: cs => do
    let name ← match c with
      | 'v' => .ok "verbose"
      | 'q' => .ok "quiet"
      | 'V' => .ok "version"
      | _ => misuse
    setLetters scope (← setFlag scope o name) cs

/-- A word that can be the value of the option before it. -/
def isValue (word : String) : Bool :=
  match word.toList with
  | '-' :: _ :: _ => false
  | _ => true

/-- The options of one scope, and what follows them from the first other word on. -/
def takeOptions (scope : Scope) (o : Options) : List String → Parsing (Options × List String)
  | [] => .ok (o, [])
  | word :: words =>
    match word.toList with
    | ['-', '-'] => if words.isEmpty then .ok (o, []) else misuse
    | '-' :: '-' :: cs =>
      let name := String.ofList (cs.takeWhile (· != '='))
      if cs.contains '=' then
        if takesValue scope name then do
          let value := String.ofList ((cs.dropWhile (· != '=')).drop 1)
          takeOptions scope (← setValue o name value) words
        else misuse
      else if takesValue scope name then
        match words with
        | [] => misuse
        | value :: words =>
          if isValue value then do takeOptions scope (← setValue o name value) words else misuse
      else do takeOptions scope (← setFlag scope o name) words
    | '-' :: c :: cs => do takeOptions scope (← setLetters scope o (c :: cs)) words
    | _ => .ok (o, word :: words)

def commandOf (o : Options) : Scope → Command
  | .top | .start => .start
  | .config => .config o.json
  | .validate => .validate
  | .version => .version
  | .once => .once o.height
  | .probe => .probe

/-- The command that arguments name, with the options on both sides of it. -/
def invocation (arguments : List String) : Parsing Invocation := do
  let (before, words) ← takeOptions .top {} arguments
  match words with
  | [] =>
    return { command := .start, configFile := before.configFile, verbose := before.verbose
             quiet := before.quiet }
  | word :: words =>
    match Scope.ofName? word with
    | none => misuse
    | some scope =>
      let (after, words) ← takeOptions scope {} words
      if !words.isEmpty then misuse
      return { command := commandOf after scope
               configFile := after.configFile.or before.configFile
               verbose := before.verbose || after.verbose
               quiet := before.quiet || after.quiet }

end Arguments

def Request.ofArguments (arguments : List String) : Request :=
  match Arguments.invocation arguments with
  | .ok i => .run i
  | .error r => r

end HistoryTrim
