import PoolServer.Text.Decimal
/-!
# Operating-system errors

The errors a system call can report here, with their numbers and descriptions, and the errors of
input and output: a failed system call, a connection reset by the peer, a pipe the peer stopped
reading, and a path with a NUL byte, which no system call can take.

A failed system call is written as its description and its number, as in
`No such file or directory (os error 2)`.
-/
namespace PoolServer

/-- An error number of a failed system call. -/
inductive Errno where
  /-- The path names nothing. -/
  | noEntry
  /-- The device failed to transfer data. -/
  | io
  /-- The file is not in a format the system can run. -/
  | execFormat
  /-- The file's mode bits refuse the access. -/
  | access
  /-- A directory was needed where a file was found. -/
  | notDir
  /-- A file was needed where a directory was found. -/
  | isDir
  /-- A path component is longer than a name may be. -/
  | nameTooLong
  /-- Following symbolic links went round too many times. -/
  | loop
  /-- No process has the given number. -/
  | noProcess
  /-- The device behind the file is not there. -/
  | noDevice
  /-- The descriptor is not open, or not open for this. -/
  | badDescriptor
  /-- The file exists already. -/
  | exists
  /-- The device has no space left. -/
  | noSpace
  /-- Another socket holds the address. -/
  | addrInUse
  /-- No route leads to the network. -/
  | netUnreachable
  deriving DecidableEq, Repr

namespace Errno

/-- The error number. -/
def code : Errno → Nat
  | .noEntry => 2
  | .io => 5
  | .execFormat => 8
  | .access => 13
  | .notDir => 20
  | .noProcess => 3
  | .noDevice => 6
  | .badDescriptor => 9
  | .exists => 17
  | .noSpace => 28
  | .isDir => 21
  | .nameTooLong => 36
  | .loop => 40
  | .addrInUse => 98
  | .netUnreachable => 101

/-- The system's description of the error. -/
def description : Errno → String
  | .noEntry => "No such file or directory"
  | .io => "Input/output error"
  | .execFormat => "Exec format error"
  | .access => "Permission denied"
  | .notDir => "Not a directory"
  | .isDir => "Is a directory"
  | .noProcess => "No such process"
  | .noDevice => "No such device or address"
  | .badDescriptor => "Bad file descriptor"
  | .exists => "File exists"
  | .noSpace => "No space left on device"
  | .nameTooLong => "File name too long"
  | .loop => "Too many levels of symbolic links"
  | .addrInUse => "Address already in use"
  | .netUnreachable => "Network is unreachable"

end Errno

/-- A failed input or output operation. -/
inductive IoError where
  /-- A system call failed. -/
  | os (e : Errno)
  /-- The peer reset the connection. -/
  | connectionReset (message : String)
  /-- The peer no longer reads what is written. -/
  | brokenPipe (message : String)
  /-- A path held a NUL byte, so it was never handed to the system. -/
  | nulInPath
  /-- A program's path, argument or environment held a NUL byte, so it was never started. -/
  | nulInArgument
  deriving DecidableEq, Repr

namespace IoError

/-- The text of the error. -/
def message : IoError → String
  | .os e => e.description ++ " (os error " ++ Decimal.text e.code ++ ")"
  | .connectionReset m => m
  | .brokenPipe m => m
  | .nulInPath => "file name contained an unexpected NUL byte"
  | .nulInArgument => "nul byte found in provided data"

/-- Whether the error is a refusal by the mode bits. -/
def isPermissionDenied : IoError → Bool
  | .os .access => true
  | _ => false

example : (os .noEntry).message = "No such file or directory (os error 2)" := by decide

end IoError

end PoolServer
