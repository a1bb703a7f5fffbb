/-!
What a disk refuses, and the wording of each refusal.
-/

namespace ClientGen

/-- Why something on a disk could not be done. -/
inductive DiskError where
  | noEntry
  | denied
  | busy
  | exists
  | notDirectory
  | isDirectory
  | brokenPipe
  | nameTooLong
  | invalid
  | tooManyLinks
  | notEmpty
  /-- A path holds the character that ends paths. -/
  | zeroInPath
  deriving DecidableEq

/-- What is said about an error, and the number that the system gives it. -/
def DiskError.description : DiskError → String × Option Nat
  | .noEntry => ("No such file or directory", some 2)
  | .denied => ("Permission denied", some 13)
  | .busy => ("Device or resource busy", some 16)
  | .exists => ("File exists", some 17)
  | .notDirectory => ("Not a directory", some 20)
  | .isDirectory => ("Is a directory", some 21)
  | .invalid => ("Invalid argument", some 22)
  | .brokenPipe => ("Broken pipe", some 32)
  | .nameTooLong => ("File name too long", some 36)
  | .tooManyLinks => ("Too many levels of symbolic links", some 40)
  | .notEmpty => ("Directory not empty", some 39)
  | .zeroInPath => ("file name contained an unexpected NUL byte", none)

def DiskError.message (e : DiskError) : String :=
  match e.description with
  | (text, some number) => text ++ " (os error " ++ toString number ++ ")"
  | (text, none) => text

/-- Why a text could not be read from a file. -/
inductive ReadError where
  | disk (error : DiskError)
  | notText
  deriving DecidableEq

def ReadError.message : ReadError → String
  | .disk error => error.message
  | .notText => "stream did not contain valid UTF-8"

end ClientGen
