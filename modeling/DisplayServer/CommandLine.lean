import DisplayServer.Bytes
import DisplayServer.Geometry
import DisplayServer.PixelFormat
import DisplayServer.SocketAddress
import DisplayServer.Text.Decimal

/-! # The command line

Options take their value from the next argument, from after an equals sign, or, for a short option,
from the rest of its argument. A value that comes as an argument of its own is only read when the
next option starts or the arguments end, so the order in which errors are found depends on how
values are given; `parse` keeps such a value waiting in its state.
-/

namespace DisplayServer.CommandLine

/-- Why a value of an option is refused. -/
inductive ValueError where
  /-- A format is given by exactly four bytes. -/
  | notFourCharacters (text : String)
  /-- No format has this code. -/
  | unrecognizedFormat (code : UInt32)
  /-- A size has its width and height around an `x`. -/
  | noSeparator (text : String)
  /-- Not an integer in range. -/
  | number (cause : Text.NumberError)
  /-- Both dimensions of a window are positive. -/
  | notPositive (size : Size)
  | socketAddress
deriving DecidableEq, Repr

def ValueError.message : ValueError → String
  | notFourCharacters text => "`" ++ text ++ "` is not a four character code"
  | unrecognizedFormat code => PixelFormat.unrecognizedText code
  | noSeparator text => "`" ++ text ++ "` is not of the form WIDTHxHEIGHT"
  | number cause => cause.message
  | notPositive size =>
    "window size " ++ toString size.w ++ "x" ++ toString size.h ++ " must be positive"
  | socketAddress => "invalid socket address syntax"

/-- The code that four bytes spell, the first in the lowest byte. -/
def codeOfBytes? : Bytes → Option UInt32
  | [a, b, c, d] => some (Bytes.ofFour a b c d)
  | _ => none

/-- A pixel format, given by its four characters. -/
def parseFormat (text : String) : Except ValueError PixelFormat :=
  match codeOfBytes? text.toUTF8.data.toList with
  | none => .error (.notFourCharacters text)
  | some code =>
    match PixelFormat.ofCode? code with
    | none => .error (.unrecognizedFormat code)
    | some format => .ok format

/-- The parts of a text before and after the first `x`. -/
def splitAtCross : List Char → Option (List Char × List Char)
  | [] => none
  | c :: rest =>
    if c = 'x' then some ([], rest) else (splitAtCross rest).map fun (w, h) => (c :: w, h)

/-- A window size, given as its width, an `x` and its height. -/
def parseSize (text : String) : Except ValueError Size :=
  match splitAtCross text.toList with
  | none => .error (.noSeparator text)
  | some (width, height) => do
    let w ← (Text.readInt32 width).mapError .number
    let h ← (Text.readInt32 height).mapError .number
    let size : Size := ⟨w, h⟩
    if size.isPositive then .ok size else .error (.notPositive size)

def parseAddress (text : String) : Except ValueError SocketAddress :=
  match SocketAddress.parse? text with
  | none => .error .socketAddress
  | some address => .ok address

/-- A number of milliseconds. -/
def parseInterval (text : String) : Except ValueError UInt64 :=
  (Text.readUInt64 text.toList).mapError .number

/-- What the arguments ask for. -/
structure Arguments where
  /-- The name of the listening socket. -/
  socket : Option String := none
  /-- The extra pixel formats, in the order given. -/
  formats : List PixelFormat := []
  /-- The size suggested in the first configuration of a window. -/
  defaultSize : Option Size := none
  /-- The address on which committed buffers are broadcast. -/
  broadcast : Option SocketAddress := none
  /-- The time between two presentations, in milliseconds. -/
  frameInterval : Option UInt64 := none
deriving Repr

namespace Arguments

/-- The suggested size, `800x600` unless given. -/
def windowSize (arguments : Arguments) : Size := arguments.defaultSize.getD ⟨800, 600⟩

/-- The frame interval, 16 milliseconds unless given. -/
def interval (arguments : Arguments) : UInt64 := arguments.frameInterval.getD 16

end Arguments

/-- The options that take a value. -/
inductive ValueOption where
  | socket
  | format
  | defaultSize
  | broadcast
  | frameInterval
deriving DecidableEq, Repr

/-- Everything that can be asked for by name. -/
inductive OptionName where
  | value (option : ValueOption)
  | help
  | version
deriving DecidableEq, Repr

/-- Options by their long names. -/
def ofLongName? : List Char → Option OptionName := fun name =>
  match String.ofList name with
  | "socket" => some (.value .socket)
  | "format" => some (.value .format)
  | "default-size" => some (.value .defaultSize)
  | "broadcast" => some (.value .broadcast)
  | "frame-interval" => some (.value .frameInterval)
  | "help" => some .help
  | "version" => some .version
  | _ => none

/-- Options by their short names. -/
def ofShortName? : Char → Option OptionName
  | 's' => some (.value .socket)
  | 'f' => some (.value .format)
  | 'h' => some .help
  | 'V' => some .version
  | _ => none

/-- Why the arguments are not carried out. -/
inductive UsageError where
  /-- An option without its value. -/
  | missingValue
  /-- A flag that does not exist, or an argument that belongs to nothing. -/
  | unknownArgument
  /-- An option given twice that may be given once. -/
  | givenTwice
  /-- A value attached to a flag that takes none. -/
  | unneededValue
  | helpRequested
  | versionRequested
  | invalidValue (cause : ValueError)
deriving DecidableEq, Repr

/-- Enters a value for a single-valued option that must still be free. -/
def enterOnce {α : Type} (current : Option α) (value : Except ValueError α) :
    Except UsageError (Option α) :=
  if current.isSome then .error .givenTwice
  else (value.mapError .invalidValue).map some

/-- Reads the value of an option and enters it. -/
def enter (arguments : Arguments) (option : ValueOption) (text : String) :
    Except UsageError Arguments :=
  match option with
  | .socket => do
    let socket ← enterOnce arguments.socket (.ok text)
    return { arguments with socket }
  | .format => do
    let format ← (parseFormat text).mapError .invalidValue
    return { arguments with formats := arguments.formats ++ [format] }
  | .defaultSize => do
    let defaultSize ← enterOnce arguments.defaultSize (parseSize text)
    return { arguments with defaultSize }
  | .broadcast => do
    let broadcast ← enterOnce arguments.broadcast (parseAddress text)
    return { arguments with broadcast }
  | .frameInterval => do
    let frameInterval ← enterOnce arguments.frameInterval (parseInterval text)
    return { arguments with frameInterval }

/-- An option whose value is given by an argument of its own: the argument may still be missing. -/
structure Waiting where
  option : ValueOption
  /-- Its value, once that argument was seen. -/
  text : Option String := none
deriving DecidableEq, Repr

/-- What was read so far, and the option still to be entered. -/
structure State where
  /-- What was entered. -/
  arguments : Arguments := {}
  /-- The option that waits. -/
  waiting : Option Waiting := none
deriving Repr

/-- Enters the option that waits. -/
def State.settle (state : State) : Except UsageError Arguments :=
  match state.waiting with
  | none => .ok state.arguments
  | some ⟨_, none⟩ => .error .missingValue
  | some ⟨option, some text⟩ => enter state.arguments option text

/-- Takes up an option, with the value attached to it if there is one. -/
def State.take (state : State) (option : ValueOption) (attached : Option String) :
    Except UsageError State := do
  let arguments ← state.settle
  match attached with
  | some text => return { arguments := ← enter arguments option text }
  | none => return { arguments, waiting := some { option } }

/-- Answers a request for help or for the version, after what was given before it. -/
def State.request (state : State) (answer : UsageError) : Except UsageError State := do
  let _ ← state.settle
  .error answer

/-- A long option, `name` or `name=value`. -/
def longOption (state : State) (text : List Char) : Except UsageError State :=
  let name := text.takeWhile (· ≠ '=')
  let attached :=
    match text.dropWhile (· ≠ '=') with
    | [] => none
    | _ :: value => some (String.ofList value)
  match ofLongName? name, attached with
  | some (.value option), _ => state.take option attached
  | some .help, none => state.request .helpRequested
  | some .version, none => state.request .versionRequested
  | some _, some _ => .error .unneededValue
  | none, _ => .error .unknownArgument

/-- A short option, with the rest of its argument. -/
def shortOption (state : State) (name : Char) (rest : List Char) : Except UsageError State :=
  match ofShortName? name with
  | some (.value option) =>
    state.take option <|
      match rest with
      | [] => none
      | '=' :: value => some (String.ofList value)
      | value => some (String.ofList value)
  | some .help => state.request .helpRequested
  | some .version => state.request .versionRequested
  | none => .error .unknownArgument

/-- An argument that is no option: the value of the option that waits for one. -/
def plainArgument (state : State) (text : String) : Except UsageError State :=
  match state.waiting with
  | some ⟨option, none⟩ => .ok { state with waiting := some ⟨option, some text⟩ }
  | _ => .error .unknownArgument

/-- Reads arguments one after another. After `--` nothing is an option any more, and as no argument
stands for itself, nothing may follow it. -/
def readArguments (state : State) : List String → Except UsageError State
  | [] => .ok state
  | argument :: rest => do
    match argument.toList with
    | ['-', '-'] => if rest.isEmpty then .ok state else .error .unknownArgument
    | '-' :: '-' :: text => readArguments (← longOption state text) rest
    | '-' :: name :: text => readArguments (← shortOption state name text) rest
    | _ => readArguments (← plainArgument state argument) rest

/-- What the arguments ask for, or why they cannot be carried out. -/
def parse (arguments : List String) : Except UsageError Arguments := do
  (← readArguments {} arguments).settle

end DisplayServer.CommandLine
