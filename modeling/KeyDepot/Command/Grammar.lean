import KeyDepot.Text.Natural

namespace KeyDepot.Command

/-- Why a command line asks for nothing to be done. -/
inductive Stop where
  | help
  | version
  /-- The line cannot be understood. -/
  | bad
  deriving DecidableEq, Repr, Inhabited

/-- The code with which a program ends that was stopped by its command line. -/
def Stop.code : Stop → Nat
  | help | version => 0
  | bad => 2

/-- An option: its long name, its letter, whether it may be given more than once, and the values it
takes. -/
structure Parameter where
  long : String
  letter : Option Char := none
  repeated : Bool := false
  accepts : String → Bool := fun _ => true

/-- What may stand on a command line: options, a number of words, or one of the subcommands, after
which another line begins. -/
structure Grammar where
  parameters : List Parameter := []
  words : Nat := 0
  commands : List String := []
  /-- Whether the line may ask for the version. -/
  versioned : Bool := false

/-- What stands on a command line. -/
structure Given where
  /-- The options in their order. -/
  values : List (String × String) := []
  words : List String := []
  /-- The subcommand, and the line after it. -/
  command : Option (String × List String) := none
  deriving DecidableEq, Repr, Inhabited

namespace Given

/-- The value of an option. -/
def value? (long : String) (given : Given) : Option String :=
  given.values.lookup long

/-- All values of an option that may be repeated. -/
def allValues (long : String) (given : Given) : List String :=
  (given.values.filter fun entry => entry.1 == long).map Prod.snd

end Given

/-- What one piece of a line is. -/
inductive Piece where
  /-- `--` -/
  | escape
  /-- An option, with its value when that is attached. -/
  | option (parameter : Parameter) (attached : Option String)
  | stop (reason : Stop)
  | word (text : String)

namespace Grammar

/-- Reads what follows two dashes. -/
def longPiece (grammar : Grammar) (text : List Char) : Piece :=
  let name := String.ofList (text.takeWhile (· ≠ '='))
  let attached := match text.dropWhile (· ≠ '=') with
    | [] => none
    | _ :: value => some (String.ofList value)
  match grammar.parameters.find? fun parameter => parameter.long == name with
  | some parameter => .option parameter attached
  | none =>
    if attached.isSome then .stop .bad
    else if name = "help" then .stop .help
    else if name = "version" ∧ grammar.versioned then .stop .version
    else .stop .bad

/-- Reads what follows one dash. -/
def shortPiece (grammar : Grammar) (letter : Char) (rest : List Char) : Piece :=
  match grammar.parameters.find? fun parameter => parameter.letter == some letter with
  | some parameter =>
    let attached := match rest with
      | [] => none
      | '=' :: value => some (String.ofList value)
      | value => some (String.ofList value)
    .option parameter attached
  | none =>
    if letter = 'h' then .stop .help
    else if letter = 'V' ∧ grammar.versioned then .stop .version
    else .stop .bad

/-- A dash alone is a word. -/
def piece (grammar : Grammar) (text : String) : Piece :=
  match text.toList with
  | ['-', '-'] => .escape
  | '-' :: '-' :: name => grammar.longPiece name
  | '-' :: letter :: rest => grammar.shortPiece letter rest
  | _ => .word text

/-- Records the value of an option. -/
def addValue (parameter : Parameter) (value : String) (given : Given) : Except Stop Given :=
  if !parameter.accepts value then .error .bad
  else if !parameter.repeated && (given.value? parameter.long).isSome then .error .bad
  else .ok { given with values := given.values ++ [(parameter.long, value)] }

def addWord (grammar : Grammar) (word : String) (given : Given) : Except Stop Given :=
  if given.words.length < grammar.words then
    .ok { given with words := given.words ++ [word] }
  else .error .bad

def addWords (grammar : Grammar) : List String → Given → Except Stop Given
  | [], given => .ok given
  | word :: rest, given => do addWords grammar rest (← grammar.addWord word given)

/-- Asking for help on a subcommand. -/
def helpOn (grammar : Grammar) : List String → Stop
  | [] => .help
  | [name] => if grammar.commands.contains name || name == "help" then .help else .bad
  | _ => .bad

/-- Reads a line whose last option may wait for its value. -/
def readFrom (grammar : Grammar) (waiting : Option Parameter) (given : Given) :
    List String → Except Stop Given
  | [] => if waiting.isSome then .error .bad else .ok given
  | text :: rest =>
    if waiting.isNone && grammar.commands.contains text then
      .ok { given with command := some (text, rest) }
    else if waiting.isNone && !grammar.commands.isEmpty && text == "help" then
      .error (grammar.helpOn rest)
    else
      match grammar.piece text, waiting with
      | .word value, some parameter => do
        readFrom grammar none (← addValue parameter value given) rest
      | .word word, none => do readFrom grammar none (← grammar.addWord word given) rest
      | _, some _ => .error .bad
      | .escape, none => grammar.addWords rest given
      | .stop reason, none => .error reason
      | .option parameter (some value), none => do
        readFrom grammar none (← addValue parameter value given) rest
      | .option parameter none, none => readFrom grammar (some parameter) given rest

/-- Reads a line. All words must be there, and a subcommand where there are any. -/
def read (grammar : Grammar) (line : List String) : Except Stop Given := do
  let given ← grammar.readFrom none {} line
  if given.words.length < grammar.words then .error .bad
  else if given.command.isNone && !grammar.commands.isEmpty then .error .bad
  else .ok given

end Grammar

/-- A number of up to 64 bits. -/
def number? (text : String) : Option Nat :=
  Text.natural? Text.maxWord text.toList

/-- A number of 8 bits; a zero may have a minus sign. -/
def octet? (text : String) : Option UInt8 :=
  let value := match text.toList with
    | '-' :: digits => (Text.digits? 10 Text.decimalDigit? digits).filter (· == 0)
    | signed => Text.natural? 255 signed
  value.map UInt8.ofNat

end KeyDepot.Command
