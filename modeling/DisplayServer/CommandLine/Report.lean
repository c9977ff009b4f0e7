import DisplayServer.CommandLine
import DisplayServer.Frontend

/-! # What the program says

The program answers its command line with a configuration that it starts from, with the texts that
were asked for, or with what is wrong (`UsageError.text`).
-/

namespace DisplayServer.CommandLine

/-- The configuration of the server that the arguments ask for. -/
def Arguments.config (arguments : Arguments) : Config where
  formats := arguments.formats
  defaultWindowSize := arguments.windowSize

def helpText : String :=
  "Headless display server core\n\n" ++
  "Options:\n" ++
  "  -s, --socket <SOCKET>                  Name of the listening socket\n" ++
  "  -f, --format <FORMATS>                 Extra pixel format to advertise, such as AB24\n" ++
  "      --default-size <DEFAULT_SIZE>      Size suggested to every window [default: 800x600]\n" ++
  "      --broadcast <BROADCAST>            Stream committed buffers to clients of this address\n" ++
  "      --frame-interval <FRAME_INTERVAL>  Milliseconds between two frames [default: 16]\n" ++
  "  -h, --help                             Print help\n" ++
  "  -V, --version                          Print version"

def versionText : String := "0.1.0"

namespace UsageError

/-- Whether a text was asked for, and nothing is wrong. -/
def isRequest : UsageError → Bool
  | helpRequested | versionRequested => true
  | missingValue | unknownArgument | givenTwice | unneededValue | invalidValue _ => false

/-- What is said instead of starting. -/
def text : UsageError → String
  | missingValue => "a value is required but none was supplied"
  | unknownArgument => "unexpected argument found"
  | givenTwice => "an argument cannot be used multiple times"
  | unneededValue => "an argument takes no value but one was supplied"
  | helpRequested => helpText
  | versionRequested => versionText
  | invalidValue cause => "invalid value: " ++ cause.message

end UsageError

/-- What is said of a server that started: the formats it supports and the size it suggests. -/
def summary (server : Server) : List String :=
  let size := server.config.defaultWindowSize
  [String.intercalate " " ("formats" :: server.formats.map PixelFormat.name),
    "window size " ++ toString size.w ++ "x" ++ toString size.h]

end DisplayServer.CommandLine
