/-!
# StaticDns.Host.SystemError — what the host refuses

The causes for which the host turns down an operation on files or sockets, and their wording.
-/

namespace StaticDns

/-- Why the host refuses an operation. -/
inductive SystemError where
  | noSuchFile
  | fileExists
  | notDirectory
  | isDirectory
  | nameTooLong
  | nulInName
  | notEmpty
  | permissionDenied
  | noDevice
  | invalidArgument
  | messageTooLong
  | familyUnsupported
  | addressUnavailable
  | networkUnreachable
  | other (text : String)
  deriving DecidableEq, Repr

/-- The wording of a refusal, with the number that the host has for it. -/
def SystemError.message : SystemError → String
  | .noSuchFile => "No such file or directory (os error 2)"
  | .permissionDenied => "Permission denied (os error 13)"
  | .fileExists => "File exists (os error 17)"
  | .noDevice => "No such device (os error 19)"
  | .notDirectory => "Not a directory (os error 20)"
  | .isDirectory => "Is a directory (os error 21)"
  | .invalidArgument => "Invalid argument (os error 22)"
  | .nameTooLong => "File name too long (os error 36)"
  | .notEmpty => "Directory not empty (os error 39)"
  | .nulInName => "file name contained an unexpected NUL byte"
  | .messageTooLong => "Message too long (os error 90)"
  | .familyUnsupported => "Address family not supported by protocol (os error 97)"
  | .addressUnavailable => "Cannot assign requested address (os error 99)"
  | .networkUnreachable => "Network is unreachable (os error 101)"
  | .other text => text

end StaticDns
