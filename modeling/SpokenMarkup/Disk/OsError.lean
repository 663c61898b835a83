set_option autoImplicit false

namespace SpokenMarkup

inductive OsError where
  | notFound
  | argumentTooLong
  | execFormat
  | permissionDenied
  | alreadyExists
  | notDirectory
  | isDirectory
  | brokenPipe
  | nameTooLong
  /-- A path that is to be opened holds a NUL. -/
  | nulInPath
  /-- A program or one of its arguments holds a NUL. -/
  | nulInCommand
  /-- Only regular files are copied. -/
  | notRegular
  /-- Any other refusal, with its number. -/
  | other (text : String) (number : Nat)
deriving DecidableEq, Repr

namespace OsError

def message : OsError → String
  | notFound => "No such file or directory (os error 2)"
  | argumentTooLong => "Argument list too long (os error 7)"
  | execFormat => "Exec format error (os error 8)"
  | permissionDenied => "Permission denied (os error 13)"
  | alreadyExists => "File exists (os error 17)"
  | notDirectory => "Not a directory (os error 20)"
  | isDirectory => "Is a directory (os error 21)"
  | brokenPipe => "Broken pipe (os error 32)"
  | nameTooLong => "File name too long (os error 36)"
  | nulInPath => "file name contained an unexpected NUL byte"
  | nulInCommand => "nul byte found in provided data"
  | notRegular => "the source path is neither a regular file nor a symlink to a regular file"
  | other text number => text ++ " (os error " ++ toString number ++ ")"

end OsError

end SpokenMarkup
