import NfvCatalog.Onboard.Error
import NfvCatalog.Translation.Error

/-! # Results of commands

A command prints text, may print text about errors, leaves files behind, and ends with an exit code
or with an error.
-/

namespace NfvCatalog.CommandLine

/-- What is wrong with the value of an input on the command line. -/
inductive InputFault where
  | notPair
  | emptyName
deriving DecidableEq, Repr, Inhabited

/-- The wording of an input fault. -/
def InputFault.message : InputFault → String
  | .notPair => "expected NAME=VALUE"
  | .emptyName => "empty name"

/-- Why a command fails. -/
inductive CommandError where
  | failure (error : Failure)
  | translation (error : Translation.TranslationError)
  | onboarding (error : OnboardError)
  | descriptorsNotLoaded (error : Failure)
  | templateNotLoaded (path : String) (error : Tosca.TemplateError)
  | notTranslated (path : String) (error : Translation.TranslationError)
  | unknownFormat (name : String)
  | badInput (written : String) (fault : InputFault)
  | notRead (path : String) (error : FileError)
  | notParsed (path : String) (error : DocumentError)
  | notWritten (path : String) (error : FileError)
  | notOneDescriptor (path : String) (nsds vnfds : Nat)
  | unknownKind (name : String)
  | accountNotOpened (name : String) (error : Failure)
deriving DecidableEq, Repr

/-- The wording of a template error, followed by that of its cause if something else caused it. -/
def templateErrorText (error : Tosca.TemplateError) : String :=
  match error with
  | .unreadable cause => error.message ++ ": " ++ cause.message
  | .malformed cause => error.message ++ ": " ++ cause.message
  | _ => error.message

/-- The wording of a translation error, followed by that of its cause. -/
def translationErrorText : Translation.TranslationError → String
  | .template error => templateErrorText error
  | error => error.message

/-- The wording of a command error. -/
def CommandError.message : CommandError → String
  | .failure error => error.message
  | .translation error => translationErrorText error
  | .onboarding error => error.message
  | .descriptorsNotLoaded error => "Failed to load descriptors: " ++ error.message
  | .templateNotLoaded path error => "Failed to load " ++ path ++ ": " ++ templateErrorText error
  | .notTranslated path error =>
    "Failed to translate " ++ path ++ ": " ++ translationErrorText error
  | .unknownFormat name => "Unknown output format '" ++ name ++ "' (expected yaml or json)"
  | .badInput written fault => "Invalid input '" ++ written ++ "': " ++ fault.message
  | .notRead path error => "Failed to read " ++ path ++ ": " ++ error.message
  | .notParsed path error =>
    "Failed to parse " ++ path ++ ": " ++ (Failure.malformed error).message
  | .notWritten path error => "Failed to write " ++ path ++ ": " ++ error.message
  | .notOneDescriptor path nsds vnfds =>
    path ++ " must hold exactly one descriptor (found " ++ toString nsds ++ " NSD(s), " ++
      toString vnfds ++ " VNFD(s))"
  | .unknownKind name =>
    "Unknown resource kind '" ++ name ++ "' (" ++
      Text.join ", " (ResourceKind.deletionOrder.map ResourceKind.name) ++ ")"
  | .accountNotOpened name error =>
    "Failed to open cloud account '" ++ name ++ "': " ++ error.message

/-- The exit code of a command that fails. -/
def failureCode : Nat := 1

/-- The exit code of a command that is not used as it must be. -/
def usageCode : Nat := 2

/-- The exit code for something that is or is not in order. -/
def verdictCode (good : Bool) : Nat := if good then 0 else 1

/-- Lines, each with its end. -/
def linesText (lines : List String) : String := String.join (lines.map (· ++ "\n"))

/-- What became of a command: an exit code or an error, and the lines that it printed. -/
structure Printed where
  result : Except CommandError Nat
  output : List String := []
  errors : List String := []
deriving Repr

namespace Printed

/-- A command that fails without having printed anything. -/
def failed (error : CommandError) : Printed := { result := .error error }

/-- A command that is refused with an explanation. -/
def refused (explanation : String) : Printed :=
  { result := .ok usageCode, errors := ["error: " ++ explanation] }

/-- The exit code: that of the command, or that of failure. -/
def exitCode (printed : Printed) : Nat :=
  match printed.result with
  | .ok code => code
  | .error _ => failureCode

/-- The text of the printed lines. -/
def outputText (printed : Printed) : String := linesText printed.output

/-- The text about errors, with the error that the command ended with. -/
def errorText (printed : Printed) : String :=
  linesText (match printed.result with
    | .ok _ => printed.errors
    | .error error => printed.errors ++ ["error: " ++ error.message])

end Printed

end NfvCatalog.CommandLine
