/-!
# Failures of file operations

Why an operation on the file system can fail. A failure that comes from the host has a number and a
text there; one that is noticed before the host is asked has a text only.
-/

set_option autoImplicit false

namespace EmulatorScout

/-- Why a file operation failed. -/
inductive FileError where
  /-- A name on the way, or at its end, does not exist. -/
  | notFound
  /-- What was to be made exists. -/
  | alreadyExists
  /-- A name that has to be a directory is something else. -/
  | notADirectory
  /-- A name that must not be a directory is one. -/
  | isADirectory
  /-- A name or a whole path is longer than the host allows. -/
  | nameTooLong
  /-- More links than the host follows. -/
  | tooManyLinks
  /-- A path ends in a dot, two dots or the root where a name has to stand. -/
  | busy
  /-- A directory that has to be empty is not. -/
  | notEmpty
  /-- A directory was to be moved into itself. -/
  | intoItself
  /-- A path contains a zero byte. -/
  | zeroByte
  deriving DecidableEq, Repr

namespace FileError

/-- The kind under which a failure is reported. -/
def kind : FileError → String
  | notFound => "NotFound"
  | alreadyExists => "AlreadyExists"
  | notADirectory => "NotADirectory"
  | isADirectory => "IsADirectory"
  | nameTooLong => "InvalidFilename"
  | tooManyLinks => "FilesystemLoop"
  | busy => "ResourceBusy"
  | notEmpty => "DirectoryNotEmpty"
  | intoItself => "InvalidInput"
  | zeroByte => "InvalidInput"

def text : FileError → String
  | notFound => "No such file or directory"
  | alreadyExists => "File exists"
  | notADirectory => "Not a directory"
  | isADirectory => "Is a directory"
  | nameTooLong => "File name too long"
  | tooManyLinks => "Too many levels of symbolic links"
  | busy => "Device or resource busy"
  | notEmpty => "Directory not empty"
  | intoItself => "Invalid argument"
  | zeroByte => "file name contained an unexpected NUL byte"

/-- The host's number for a failure, if it comes from the host. -/
def hostCode? : FileError → Option Nat
  | notFound => some 2
  | alreadyExists => some 17
  | notADirectory => some 20
  | isADirectory => some 21
  | nameTooLong => some 36
  | tooManyLinks => some 40
  | busy => some 16
  | notEmpty => some 39
  | intoItself => some 22
  | zeroByte => none

/-- The message of a failure: its text, with the host's number where there is one. -/
def message (error : FileError) : String :=
  match error.hostCode? with
  | some code => error.text ++ " (os error " ++ toString code ++ ")"
  | none => error.text

/-- A failure with all its parts, as diagnostics show it. -/
def diagnostic (error : FileError) : String :=
  match error.hostCode? with
  | some code =>
    "Os \x7b code: " ++ toString code ++ ", kind: " ++ error.kind ++ ", message: \"" ++ error.text
      ++ "\" \x7d"
  | none => "Error \x7b kind: " ++ error.kind ++ ", message: \"" ++ error.text ++ "\" \x7d"

end FileError

end EmulatorScout
