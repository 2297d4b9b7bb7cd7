-- Why the command line ends early, and what is said about it.
import ProcessMonitor.CommandLine.Argument
import ProcessMonitor.CommandLine.Help
import ProcessMonitor.Text.Plain

namespace ProcessMonitor.CommandLine

/-- An end of the command line before its last argument was taken. -/
inductive Refusal where
  | help
  | version
  | invalidValue (setting : Setting) (value reason : String)
  | missingValue (setting : Setting)
  /-- With the option that may be meant and the options given before. -/
  | unknownArgument (argument : String) (meant : Option Argument) (given : List Argument)
  | repeated (shown : String)
  /-- With the options given before. -/
  | unwantedValue (flag : Flag) (value : String) (given : List Argument)
deriving DecidableEq, Repr

namespace Refusal

/-- The end of every error message. -/
def hint : String := "\n\nFor more information, try '" ++ Text.styled "--help" ++ "'.\n"

/-- The usage with the options given; without any it is the usage of all. -/
def usageOf (given : List String) : String :=
  if given.isEmpty then usage
  else "Usage: " ++ commandName ++ " " ++ String.intercalate " " given

/-- The settings as one choice. -/
def choice : String :=
  "<" ++ String.intercalate "|" (Argument.settings.map Argument.shown) ++ ">"

/-- What the usage shows behind a flag with a value: once settings were given,
all of them stand together behind the flags that are none. -/
def usageBehind (flag : Flag) (given : List Argument) : List String :=
  if given.isEmpty then [flag.shown]
  else (if Argument.settings.contains (.inr flag) then [] else [flag.shown]) ++ [choice]

/-- The message with its styles. What the command line gives stands in a style of
its own, so that no sequence in it goes on behind it. -/
def styledMessage : Refusal → String
  | .help => helpText
  | .version => versionText
  | .invalidValue setting value reason =>
    "error: invalid value '" ++ Text.styled value ++ "' for '" ++ setting.shown ++ "': " ++ reason
      ++ hint
  | .missingValue setting =>
    "error: a value is required for '" ++ setting.shown ++ "' but none was supplied" ++ hint
  | .unknownArgument argument meant given =>
    let tip := match meant with
      | none => ""
      | some meant => "\n\n  tip: a similar argument exists: '--" ++ meant.name ++ "'"
    let given := given ++ meant.toList.filter (!given.contains ·)
    "error: unexpected argument '" ++ Text.styled argument ++ "' found" ++ tip ++ "\n\n"
      ++ usageOf (given.map Argument.shown) ++ hint
  | .repeated shown =>
    "error: the argument '" ++ shown ++ "' cannot be used multiple times\n\n" ++ usage ++ hint
  | .unwantedValue flag value given =>
    "error: unexpected value '" ++ Text.styled value ++ "' for '" ++ flag.shown
      ++ "' found; no more were expected\n\n" ++ usageOf (usageBehind flag given) ++ hint

/-- The message as it is read. -/
def message (refusal : Refusal) : String := Text.plain refusal.styledMessage

/-- The exit code: help and version are no errors. -/
def exitCode : Refusal → Nat
  | .help => 0
  | .version => 0
  | _ => 2

end Refusal

end ProcessMonitor.CommandLine
