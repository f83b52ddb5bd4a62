import RtlLiterals.Path
import RtlLiterals.Report

/-!
# RtlLiterals.Command.Arguments -- the command line

The program takes a path and options with values. A value follows its option as the next argument,
or after an equals sign; after the letter of an option it may also follow at once. Two dashes end
the options. Only the next argument shows whether an option has its value, so an option is kept
aside with its value until then, and what is wrong with it is found when it is settled.
-/

namespace RtlLiterals

/-- What a value on the command line is for. -/
inductive Parameter where
  | path
  | strategy
  | language
  | format
  | settings
deriving DecidableEq, Repr

/-- The parameter as messages show it. -/
def Parameter.shown : Parameter → String
  | path => "[PATH]"
  | strategy => "--strategy <STRATEGY>"
  | language => "--language <LANG>"
  | format => "--format <FORMAT>"
  | settings => "--config <FILE>"

/-- What is wrong with a command line. -/
inductive Misuse where
  | unknown (argument : Text)
  | noValue (p : Parameter)
  | unknownFormat (value : Text)
  | repeated (p : Parameter)
  | surplusValue (option value : Text)
deriving DecidableEq, Repr

/-- The wording of a misuse. -/
def Misuse.message : Misuse → Text
  | unknown argument =>
    Text.ofString "unexpected argument '" ++ argument ++ Text.ofString "' found"
  | noValue p =>
    Text.ofString "a value is required for '" ++ Text.ofString p.shown ++
      Text.ofString "' but none was supplied"
  | unknownFormat value =>
    Text.ofString "invalid value '" ++ value ++ Text.ofString "' for '" ++
      Text.ofString Parameter.format.shown ++ ['\x27']
  | repeated p =>
    Text.ofString "the argument '" ++ Text.ofString p.shown ++
      Text.ofString "' cannot be used multiple times"
  | surplusValue option value =>
    Text.ofString "unexpected value '" ++ value ++ Text.ofString "' for '" ++ option ++
      Text.ofString "' found; no more were expected"

/-- Why the program stops at its command line. -/
inductive Halt where
  | help (detailed : Bool)
  | version
  | misuse (m : Misuse)
deriving DecidableEq, Repr

/-- What a command line says. -/
structure Arguments where
  path : Option Path
  strategy : Option Text
  language : Option Text
  format : Option Report.Format
  settings : Option Path
deriving DecidableEq, Repr

namespace Arguments

/-- Nothing is said. -/
def empty : Arguments := ⟨none, none, none, none, none⟩

/-- The parameter has a value. -/
def has (a : Arguments) : Parameter → Bool
  | .path => a.path.isSome
  | .strategy => a.strategy.isSome
  | .language => a.language.isSome
  | .format => a.format.isSome
  | .settings => a.settings.isSome

/-- The format with a name. -/
def formatNamed? (t : Text) : Option Report.Format :=
  if t = Text.ofString "text" then some .text
  else if t = Text.ofString "json" then some .json
  else none

/-- The arguments with a value for a parameter. Paths and formats are not empty. -/
def set (a : Arguments) (p : Parameter) (value : Text) : Except Halt Arguments :=
  match p with
  | .strategy => .ok { a with strategy := some value }
  | .language => .ok { a with language := some value }
  | .path =>
    if value = [] then .error (.misuse (.noValue p)) else .ok { a with path := some value }
  | .settings =>
    if value = [] then .error (.misuse (.noValue p)) else .ok { a with settings := some value }
  | .format =>
    if value = [] then .error (.misuse (.noValue p))
    else
      match formatNamed? value with
      | some f => .ok { a with format := some f }
      | none => .error (.misuse (.unknownFormat value))

end Arguments

/-- The form of an argument. -/
inductive ArgumentForm where
  | endOfOptions
  /-- Two dashes with a name, and a value after an equals sign. -/
  | named (name : Text) (value : Option Text)
  /-- A dash with a letter and what follows it. -/
  | letter (c : Char) (rest : Text)
  /-- Anything else, a single dash too. -/
  | plain
deriving DecidableEq, Repr

/-- The form of an argument. -/
def ArgumentForm.of (t : Text) : ArgumentForm :=
  match t with
  | ['-', '-'] => .endOfOptions
  | '-' :: '-' :: word =>
    .named (word.takeWhile (· != '='))
      (if word.contains '=' then some ((word.dropWhile (· != '=')).drop 1) else none)
  | '-' :: c :: rest => .letter c rest
  | _ => .plain

/-- What is known of a command line up to an argument. -/
structure CommandLine where
  arguments : Arguments
  /-- The parameter that is kept aside, with its value if it was there. -/
  pending : Option (Parameter × Option Text)
deriving DecidableEq, Repr

namespace CommandLine

/-- Settles the parameter that is kept aside. -/
def settle (c : CommandLine) : Except Halt CommandLine :=
  match c.pending with
  | none => .ok c
  | some (p, none) => .error (.misuse (.noValue p))
  | some (p, some value) =>
    if c.arguments.has p then .error (.misuse (.repeated p))
    else (c.arguments.set p value).map fun a => ⟨a, none⟩

/-- Keeps a parameter aside that has its value still to come. -/
def await (c : CommandLine) (p : Parameter) : Except Halt CommandLine := do
  let c ← c.settle
  .ok { c with pending := some (p, none) }

/-- Settles a parameter with its value at once. -/
def attach (c : CommandLine) (p : Parameter) (value : Text) : Except Halt CommandLine := do
  let c ← c.settle
  { c with pending := some (p, some value) }.settle

/-- Stops, unless something is wrong before. -/
def stop (c : CommandLine) (h : Halt) : Except Halt CommandLine := do
  let _ ← c.settle
  .error h

/-- The parameter with a name. -/
def parameterNamed? (name : Text) : Option Parameter :=
  if name = Text.ofString "strategy" then some .strategy
  else if name = Text.ofString "language" then some .language
  else if name = Text.ofString "format" then some .format
  else if name = Text.ofString "config" then some .settings
  else none

/-- What an option without a value asks for. -/
def requestNamed? (name : Text) : Option Halt :=
  if name = Text.ofString "help" then some (.help true)
  else if name = Text.ofString "version" then some .version
  else none

/-- Reads an option with a name. -/
def readNamed (c : CommandLine) (name : Text) (value : Option Text) : Except Halt CommandLine :=
  match parameterNamed? name, requestNamed? name, value with
  | some p, _, some v => c.attach p v
  | some p, _, none => c.await p
  | none, some _, some v => .error (.misuse (.surplusValue ('-' :: '-' :: name) v))
  | none, some request, none => c.stop request
  | none, none, _ => .error (.misuse (.unknown ('-' :: '-' :: name)))

/-- The parameter with a letter. -/
def parameterLettered? (letter : Char) : Option Parameter :=
  match letter with
  | 's' => some .strategy
  | 'l' => some .language
  | 'f' => some .format
  | _ => none

/-- Reads an option with a letter. -/
def readLetter (c : CommandLine) (letter : Char) (rest : Text) : Except Halt CommandLine :=
  match parameterLettered? letter, rest with
  | some p, [] => c.await p
  | some p, '=' :: value => c.attach p value
  | some p, value => c.attach p value
  | none, _ =>
    if letter = 'h' then c.stop (.help false)
    else if letter = 'V' then c.stop .version
    else .error (.misuse (.unknown ['-', letter]))

/-- A path was given. -/
def hasPath (c : CommandLine) : Bool :=
  c.arguments.path.isSome || c.pending.any (·.1 == .path)

/-- Reads an argument that is no option: the value of the option before it, or the path. -/
def readPlain (c : CommandLine) (trailing : Bool) (t : Text) : Except Halt CommandLine :=
  match trailing, c.pending with
  | false, some (p, none) => .ok { c with pending := some (p, some t) }
  | _, _ =>
    if c.hasPath then .error (.misuse (.unknown t))
    else do
      let c ← c.settle
      .ok { c with pending := some (.path, some t) }

/-- Reads arguments; `trailing` says that the options have ended. -/
def read (trailing : Bool) (c : CommandLine) : List Text → Except Halt CommandLine
  | [] => c.settle
  | t :: ts =>
    if trailing then do
      let c ← c.readPlain true t
      read true c ts
    else
      match ArgumentForm.of t with
      | .endOfOptions => read true c ts
      | .named name value => do
        let c ← c.readNamed name value
        read false c ts
      | .letter letter rest => do
        let c ← c.readLetter letter rest
        read false c ts
      | .plain => do
        let c ← c.readPlain false t
        read false c ts

end CommandLine

/-- What a command line says. -/
def Arguments.parse (args : List Text) : Except Halt Arguments :=
  (CommandLine.read false ⟨.empty, none⟩ args).map CommandLine.arguments

end RtlLiterals
