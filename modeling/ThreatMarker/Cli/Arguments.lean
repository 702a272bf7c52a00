/-
# Command-line arguments

The words after the program's name are read from left to right into an invocation.  Commands nest;
each level has its own options, and three options are known at every level, where the innermost one
counts.

The value of an option is checked when the next option or operand of its level begins, or when the
level ends, so that of two faults the one that was noticed first is reported.
-/

namespace ThreatMarker.Cli

set_option autoImplicit false

/-! ## Invocations -/

/-- How results are written. -/
inductive Output where
  | text
  | json
  deriving Repr, DecidableEq

def Output.ofText? : String → Option Output
  | "text" => some .text
  | "json" => some .json
  | _ => none

/-- What is to be done. -/
inductive Command where
  | process (rawDir sampleDir rulesDir : Option String)
  | check (lines : List String) (rulesDir : Option String)
  | listRules (rulesDir : Option String)
  | validateRules (path : String)
  | validateConfig
  | showConfig (part : Option String)
  deriving Repr, DecidableEq

/-- The configuration file where none is named. -/
def defaultConfigPath : String := "accesswatch.toml"

/-- The directory of rule files where none is named. -/
def defaultRulesPath : String := "rules"

/-- A command and what holds for all commands. -/
structure Invocation where
  config : String := defaultConfigPath
  logLevel : Option String := none
  output : Output := .text
  command : Command
  deriving Repr, DecidableEq

/-! ## Faults -/

/-- Why the words are no invocation.  Requests for help and for the version count as faults. -/
inductive UsageFault where
  | help
  | version
  | nothingGiven
  | missingCommand
  | unknownCommand
  | unknownArgument
  | invalidValue
  | surplusValue
  | repeatedOption
  deriving Repr, DecidableEq

namespace UsageFault

def message : UsageFault → String
  | .help => "usage: accesswatch [OPTIONS] <COMMAND>"
  | .version => "accesswatch 0.1.0"
  | .nothingGiven => "usage: accesswatch [OPTIONS] <COMMAND>"
  | .missingCommand => "a command is required"
  | .unknownCommand => "unknown command"
  | .unknownArgument => "unexpected argument"
  | .invalidValue => "invalid or missing value"
  | .surplusValue => "unexpected value for an option that takes none"
  | .repeatedOption => "an option is given more than once"

def exitCode : UsageFault → Nat
  | .help => 0
  | .version => 0
  | _ => 2

end UsageFault

/-! ## Grammar -/

/-- The options that have a value. -/
inductive Setting where
  | config
  | logLevel
  | output
  | rawDir
  | sampleDir
  | rulesDir
  | part
  deriving Repr, DecidableEq

namespace Setting

def long : Setting → String
  | .config => "config"
  | .logLevel => "log-level"
  | .output => "output"
  | .rawDir => "raw-dir"
  | .sampleDir => "sample-dir"
  | .rulesDir => "rules-dir"
  | .part => "section"

def short? : Setting → Option Char
  | .config => some 'c'
  | _ => none

/-- Whether a value is allowed.  Paths are not empty. -/
def accepts (s : Setting) (value : String) : Bool :=
  match s with
  | .config | .rawDir | .sampleDir | .rulesDir => value ≠ ""
  | .output => (Output.ofText? value).isSome
  | .logLevel | .part => true

end Setting

/-- The levels of commands. -/
inductive Level where
  | top
  | process
  | check
  | rules
  | rulesList
  | rulesValidate
  | config
  | configValidate
  | configShow
  deriving Repr, DecidableEq

namespace Level

/-- The commands of a level by name. -/
def commands : Level → List (String × Level)
  | .top => [("process", .process), ("check", .check), ("rules", .rules), ("config", .config)]
  | .rules => [("list", .rulesList), ("validate", .rulesValidate)]
  | .config => [("validate", .configValidate), ("show", .configShow)]
  | _ => []

/-- Whether a level is only a way to its commands. -/
def hasCommands (l : Level) : Bool := !l.commands.isEmpty

def command? (l : Level) (name : String) : Option Level :=
  (l.commands.find? (fun c => c.1 == name)).map (·.2)

/-- A level with commands has one more, which explains the others. -/
def helpCommand : String := "help"

/-- The options of a level. -/
def settings (l : Level) : List Setting :=
  [.config, .logLevel, .output] ++
    match l with
    | .process => [.rawDir, .sampleDir, .rulesDir]
    | .check => [.rulesDir]
    | .rulesList => [.rulesDir]
    | .configShow => [.part]
    | _ => []

def setting? (l : Level) (name : String) : Option Setting :=
  l.settings.find? (fun s => s.long == name)

def shortSetting? (l : Level) (c : Char) : Option Setting :=
  l.settings.find? (fun s => s.short? == some c)

/-- Only the top level tells the version. -/
def hasVersion (l : Level) : Bool := l == .top

/-- Whether one more operand fits after `n`. -/
def hasRoom (l : Level) (n : Nat) : Bool :=
  match l with
  | .check => true
  | .rulesValidate => n == 0
  | _ => false

/-- Whether an operand is allowed. -/
def acceptsOperand (l : Level) (value : String) : Bool :=
  match l with
  | .rulesValidate => value ≠ ""
  | _ => true

end Level

/-! ## Words -/

/-- What a word before the end of the options looks like. -/
inductive Word where
  | endOfOptions
  | long (name : String) (value : Option String)
  | short (first : Char) (rest : List Char)
  | plain
  deriving Repr, DecidableEq

/-- The text before the first equals sign and the text after it. -/
def splitValue (cs : List Char) : String × Option String :=
  match cs.dropWhile (· != '=') with
  | [] => (String.ofList cs, none)
  | _ :: value => (String.ofList (cs.takeWhile (· != '=')), some (String.ofList value))

def Word.ofText (word : String) : Word :=
  match word.toList with
  | ['-', '-'] => .endOfOptions
  | '-' :: '-' :: cs => let (name, value) := splitValue cs; .long name value
  | '-' :: c :: cs => .short c cs
  | _ => .plain

/-! ## Reading -/

/-- What was begun but not checked. -/
inductive Pending where
  | setting (s : Setting) (value : Option String)
  | operand (value : String)
  deriving Repr, DecidableEq

/-- What is known of a level. -/
structure Draft where
  settings : List (Setting × String) := []
  operands : List String := []
  pending : Option Pending := none
  deriving Repr, DecidableEq

namespace Draft

/-- Take the value of an option. -/
def assign (d : Draft) (s : Setting) (value : String) : Except UsageFault Draft :=
  if d.settings.any (fun given => given.1 == s) then .error .repeatedOption
  else if s.accepts value then .ok { d with settings := d.settings ++ [(s, value)] }
  else .error .invalidValue

/-- Check what is pending. -/
def settle (d : Draft) (l : Level) : Except UsageFault Draft :=
  let done := { d with pending := none }
  match d.pending with
  | none => .ok done
  | some (.setting _ none) => .error .invalidValue
  | some (.setting s (some value)) => done.assign s value
  | some (.operand value) =>
      if l.acceptsOperand value then .ok { done with operands := d.operands ++ [value] }
      else .error .invalidValue

/-- The option that waits for its value in the next word. -/
def awaiting? (d : Draft) : Option Setting :=
  match d.pending with
  | some (.setting s none) => some s
  | _ => none

/-- How many operands were begun. -/
def operandCount (d : Draft) : Nat :=
  d.operands.length +
    match d.pending with
    | some (.operand _) => 1
    | _ => 0

/-- Begin an operand. -/
def beginOperand (d : Draft) (l : Level) (word : String) : Except UsageFault Draft :=
  (d.settle l).map fun d => { d with pending := some (.operand word) }

/-- Begin an option, or take it with the value that is attached to it. -/
def beginSetting (d : Draft) (l : Level) (s : Setting) (value : Option String) :
    Except UsageFault Draft :=
  match d.settle l with
  | .error f => .error f
  | .ok d =>
      match value with
      | some value => d.assign s value
      | none => .ok { d with pending := some (.setting s none) }

/-- What asking for help or for the version comes to. -/
def interrupt (d : Draft) (l : Level) (request : UsageFault) : UsageFault :=
  match d.settle l with
  | .error f => f
  | .ok _ => request

/-- Read an option by its long name. -/
def readLong (d : Draft) (l : Level) (name : String) (value : Option String) :
    Except UsageFault Draft :=
  match l.setting? name with
  | some s => d.beginSetting l s value
  | none =>
      let request :=
        if name = "help" then some UsageFault.help
        else if name = "version" && l.hasVersion then some UsageFault.version
        else none
      match request with
      | none => .error .unknownArgument
      | some request =>
          if value.isSome then .error .surplusValue else .error (d.interrupt l request)

/-- Read an option by its letter.  A value may follow at once or after an equals sign. -/
def readShort (d : Draft) (l : Level) (first : Char) (rest : List Char) :
    Except UsageFault Draft :=
  match l.shortSetting? first with
  | some s =>
      let value := match rest with
        | [] => none
        | '=' :: value => some (String.ofList value)
        | value => some (String.ofList value)
      d.beginSetting l s value
  | none =>
      if first = 'h' then .error (d.interrupt l .help)
      else if first = 'V' && l.hasVersion then .error (d.interrupt l .version)
      else .error .unknownArgument

end Draft

/-- The fault of a word for which a level has no place. -/
def Level.strangeWord (l : Level) (trailing : Bool) (word : String) : UsageFault :=
  if !l.hasCommands then .unknownArgument
  else if trailing && ((l.command? word).isSome || word == Level.helpCommand) then .unknownArgument
  else .unknownCommand

/-- What asking for help about the command of a path comes to. -/
def Level.helpAbout : Level → List String → UsageFault
  | _, [] => .help
  | l, name :: rest =>
      match l.command? name with
      | some inner => inner.helpAbout rest
      | none =>
          if l.hasCommands && name == helpCommand && rest.isEmpty then .help else .unknownCommand

/-- What was read: the options from the outermost level to the innermost, and the innermost level with
its operands. -/
structure Reading where
  settings : List (Setting × String)
  level : Level
  operands : List String
  deriving Repr, DecidableEq

/-- End a level after what is inside it. -/
def Draft.finish (d : Draft) (l : Level) (inner : Option Reading) : Except UsageFault Reading :=
  match d.settle l with
  | .error f => .error f
  | .ok d =>
      match inner with
      | some r => .ok { r with settings := d.settings ++ r.settings }
      | none =>
          if !l.hasCommands then .ok ⟨d.settings, l, d.operands⟩
          else if d.settings.isEmpty then .error .nothingGiven
          else .error .missingCommand

/-- Read the words of a level.  `trailing` says that the options have ended. -/
def readLevel (l : Level) (d : Draft) (trailing : Bool) : List String → Except UsageFault Reading
  | [] => d.finish l none
  | word :: rest =>
      let operand : Except UsageFault Draft :=
        if l.hasRoom d.operandCount then d.beginOperand l word
        else .error (l.strangeWord trailing word)
      if trailing then
        match operand with
        | .error f => .error f
        | .ok d => readLevel l d true rest
      else if d.awaiting?.isNone && l.hasCommands && word == Level.helpCommand then
        .error (l.helpAbout rest)
      else
        match if d.awaiting?.isNone then l.command? word else none with
        | some inner =>
            match readLevel inner {} false rest with
            | .error f => .error f
            | .ok r => d.finish l (some r)
        | none =>
            match Word.ofText word with
            | .endOfOptions => readLevel l d true rest
            | .long name value =>
                match d.readLong l name value with
                | .error f => .error f
                | .ok d => readLevel l d false rest
            | .short first more =>
                match d.readShort l first more with
                | .error f => .error f
                | .ok d => readLevel l d false rest
            | .plain =>
                match d.awaiting? with
                | some s =>
                    readLevel l { d with pending := some (.setting s (some word)) } false rest
                | none =>
                    match operand with
                    | .error f => .error f
                    | .ok d => readLevel l d false rest

namespace Reading

/-- The value of an option; the innermost one counts. -/
def value? (r : Reading) (s : Setting) : Option String :=
  (r.settings.reverse.find? (fun given => given.1 == s)).map (·.2)

def command? (r : Reading) : Option Command :=
  match r.level with
  | .process => some (.process (r.value? .rawDir) (r.value? .sampleDir) (r.value? .rulesDir))
  | .check => some (.check r.operands (r.value? .rulesDir))
  | .rulesList => some (.listRules (r.value? .rulesDir))
  | .rulesValidate => some (.validateRules (r.operands.head?.getD defaultRulesPath))
  | .configValidate => some .validateConfig
  | .configShow => some (.showConfig (r.value? .part))
  | .top | .rules | .config => none

end Reading

/-- Read the words after the program's name. -/
def Invocation.ofWords (words : List String) : Except UsageFault Invocation :=
  match readLevel .top {} false words with
  | .error f => .error f
  | .ok r =>
      match r.command? with
      | none => .error .missingCommand
      | some command =>
          .ok {
            config := (r.value? .config).getD defaultConfigPath
            logLevel := r.value? .logLevel
            output := ((r.value? .output).bind Output.ofText?).getD .text
            command }

end ThreatMarker.Cli
