import MenuLine.Text.Basic

/-!
# Failures of reading and writing
-/

namespace MenuLine

/-- What the system answers when a path cannot be used. -/
inductive PathFault where
  | notFound
  | notDirectory
  | isDirectory
  | nameTooLong
deriving DecidableEq, Repr

namespace PathFault

def message : PathFault → Text
  | notFound => "No such file or directory (os error 2)".toList
  | notDirectory => "Not a directory (os error 20)".toList
  | isDirectory => "Is a directory (os error 21)".toList
  | nameTooLong => "File name too long (os error 36)".toList

end PathFault

inductive IoError where
  | path (fault : PathFault)
  | nulInPath
  | notUtf8
  /-- The reader of a relay is gone. -/
  | relayClosed
  /-- A broken pipe that something else reports. -/
  | brokenPipe (message : Text)
  | other (message : Text)
deriving DecidableEq, Repr

namespace IoError

def message : IoError → Text
  | path fault => fault.message
  | nulInPath => "file name contained an unexpected NUL byte".toList
  | notUtf8 => "stream did not contain valid UTF-8".toList
  | relayClosed => "relay reader closed".toList
  | brokenPipe m => m
  | other m => m

/-- Whoever writes to a reader that has seen enough has not failed. -/
def isBrokenPipe : IoError → Bool
  | relayClosed | brokenPipe _ => true
  | _ => false

end IoError

end MenuLine
