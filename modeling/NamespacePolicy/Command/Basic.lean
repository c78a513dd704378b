import NamespacePolicy.Files.Path

/-!
Command lines.  An option has a long name and may have a short one; short options may share a
hyphen, and a value may be attached to its option or follow it.
-/

namespace NamespacePolicy

inductive OutputFormat where
  | text
  | json
  | compact
deriving DecidableEq, Repr

inductive Command where
  | check (folder : Path) (dependencies : Path) (format : OutputFormat)
  | showConfig (folder : Path)
  | init (force : Bool)
deriving DecidableEq, Repr

inductive Refusal where
  | help
  | misuse
deriving DecidableEq, Repr

namespace Command

structure Switch where
  long : String
  short : Option Char := none
  takesValue : Bool := false
deriving DecidableEq, Repr

structure Arguments where
  options : List (String × String) := []
  words : List String := []
deriving DecidableEq, Repr

def Arguments.has (a : Arguments) (long : String) : Bool := (a.options.lookup long).isSome

def verbose : Switch := { long := "verbose", short := some 'v' }

def help : Switch := { long := "help", short := some 'h' }

def version : Switch := { long := "version", short := some 'V' }

/-- Whether a word is an option and not a value; a single hyphen is a value. -/
def looksLikeOption (word : String) : Bool := word.toList.head? = some '-' && word ≠ "-"

/-- Adds an option, which may not be given twice.  Whoever asks for help or for the version gets no
command, whatever follows on the line. -/
def addOption (switch : Switch) (value : String) (a : Arguments) : Except Refusal Arguments :=
  if switch = help ∨ switch = version then .error .help
  else if a.has switch.long then .error .misuse
  else .ok { a with options := (switch.long, value) :: a.options }

/-- Reads short options behind one hyphen; the value of the last one may follow as a word of its
own. -/
def readShorts (switches : List Switch) : List Char → List String → Arguments →
    Except Refusal (Arguments × List String)
  | [], rest, a => .ok (a, rest)
  | c :: more, rest, a =>
      match switches.find? (·.short = some c) with
      | none => .error .misuse
      | some switch =>
          if !switch.takesValue then do readShorts switches more rest (← addOption switch "" a)
          else
            match more, rest with
            | '=' :: value, rest => do
                return (← addOption switch (String.ofList value) a, rest)
            | c :: value, rest => do
                return (← addOption switch (String.ofList (c :: value)) a, rest)
            | [], value :: rest =>
                if looksLikeOption value then .error .misuse
                else do return (← addOption switch value a, rest)
            | [], [] => .error .misuse

def readLong (switches : List Switch) (text : List Char) (rest : List String) (a : Arguments) :
    Except Refusal (Arguments × List String) :=
  let name := String.ofList (text.takeWhile (· ≠ '='))
  match switches.find? (·.long = name), text.dropWhile (· ≠ '=') with
  | none, _ => .error .misuse
  | some switch, '=' :: value =>
      if switch.takesValue then do return (← addOption switch (String.ofList value) a, rest)
      else .error .misuse
  | some switch, _ =>
      if !switch.takesValue then do return (← addOption switch "" a, rest)
      else
        match rest with
        | value :: rest =>
            if looksLikeOption value then .error .misuse
            else do return (← addOption switch value a, rest)
        | [] => .error .misuse

/-- Reads options and words.  After two hyphens all are words; where a first word ends the options,
all that follows it is left, and two hyphens before it leave nothing that could be meant. -/
def readArguments (switches : List Switch) (firstWordEnds : Bool) :
    (fuel : Nat) → List String → Arguments → Except Refusal Arguments
  | 0, _, a => .ok a
  | _, [], a => .ok a
  | fuel + 1, word :: rest, a =>
      match word.toList with
      | ['-', '-'] =>
          if firstWordEnds then .error .misuse else .ok { a with words := a.words ++ rest }
      | '-' :: '-' :: text => do
          let (a, rest) ← readLong switches text rest a
          readArguments switches firstWordEnds fuel rest a
      | '-' :: c :: text => do
          let (a, rest) ← readShorts switches (c :: text) rest a
          readArguments switches firstWordEnds fuel rest a
      | _ =>
          if firstWordEnds then .ok { a with words := word :: rest }
          else readArguments switches firstWordEnds fuel rest { a with words := a.words ++ [word] }

def readAll (switches : List Switch) (words : List String) : Except Refusal Arguments :=
  readArguments switches false words.length words {}

def path (text : String) : Except Refusal Path :=
  if text = "" then .error .misuse else .ok ⟨text⟩

/-- The only word, which is the project folder; without it that is the current one. -/
def folder (words : List String) : Except Refusal Path :=
  match words with
  | [] => .ok ⟨"."⟩
  | [word] => path word
  | _ => .error .misuse

def format : Option String → Except Refusal OutputFormat
  | none => .ok .text
  | some "text" => .ok .text
  | some "json" => .ok .json
  | some "compact" => .ok .compact
  | some _ => .error .misuse

/-- The command in some arguments.  The list of dependencies may also be named by a variable of the
environment. -/
def parseNamed (dependencies? : Option String) (name : String) (words : List String) :
    Except Refusal Command :=
  match name with
  | "check" => do
      let a ← readAll
        [verbose, help, { long := "deps", short := some 'd', takesValue := true },
          { long := "format", short := some 'f', takesValue := true }] words
      let folder ← folder a.words
      let format ← format (a.options.lookup "format")
      match a.options.lookup "deps" <|> dependencies? with
      | some dependencies => return .check folder (← path dependencies) format
      | none => throw .misuse
  | "show-config" => do
      let a ← readAll [verbose, help] words
      return .showConfig (← folder a.words)
  | "init" => do
      let a ← readAll [verbose, help, { long := "force" }] words
      if a.words.isEmpty then return .init (a.has "force") else throw .misuse
  | "help" =>
      if words.all (["check", "show-config", "init", "help"].contains ·) && words.length ≤ 1 then
        .error .help
      else .error .misuse
  | _ => .error .misuse

def parse (words : List String) (dependencies? : Option String) : Except Refusal Command := do
  let a ← readArguments [verbose, help, version] true words.length words {}
  match a.words with
  | name :: rest => parseNamed dependencies? name rest
  | [] => throw .misuse

end Command

end NamespacePolicy
