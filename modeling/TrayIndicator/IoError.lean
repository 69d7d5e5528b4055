/-!
# Failures of the operating system

Starting a program or touching a file fails with a numbered error of the
system, or with one found before the system was asked. Every failure has a
kind and a text; the text of a numbered one is the system's, with the number.
-/

namespace TrayIndicator

/-- The kinds of failure that are told apart. -/
inductive IoKind where
  | addrInUse | addrNotAvailable | alreadyExists | argumentListTooLong | brokenPipe
  | connectionAborted | connectionRefused | connectionReset | crossesDevices | deadlock
  | directoryNotEmpty | executableFileBusy | fileTooLarge | filesystemLoop | hostUnreachable
  | inProgress | inputOutputError | interrupted | invalidData | invalidFilename | invalidInput
  | isADirectory
  | networkDown | networkUnreachable | notADirectory | notConnected | notFound | notSeekable
  | other | outOfMemory | permissionDenied | quotaExceeded | readOnlyFilesystem | resourceBusy
  | staleNetworkFileHandle | storageFull | timedOut | tooManyLinks | tooManyOpenFiles
  | uncategorized | unexpectedEof | unsupported | wouldBlock | writeZero
  deriving DecidableEq, Repr

namespace IoKind

/-- The name of a kind. -/
def name : IoKind → String
  | .addrInUse => "AddrInUse"
  | .addrNotAvailable => "AddrNotAvailable"
  | .alreadyExists => "AlreadyExists"
  | .argumentListTooLong => "ArgumentListTooLong"
  | .brokenPipe => "BrokenPipe"
  | .connectionAborted => "ConnectionAborted"
  | .connectionRefused => "ConnectionRefused"
  | .connectionReset => "ConnectionReset"
  | .crossesDevices => "CrossesDevices"
  | .deadlock => "Deadlock"
  | .directoryNotEmpty => "DirectoryNotEmpty"
  | .executableFileBusy => "ExecutableFileBusy"
  | .fileTooLarge => "FileTooLarge"
  | .filesystemLoop => "FilesystemLoop"
  | .hostUnreachable => "HostUnreachable"
  | .inProgress => "InProgress"
  | .inputOutputError => "InputOutputError"
  | .interrupted => "Interrupted"
  | .invalidData => "InvalidData"
  | .invalidFilename => "InvalidFilename"
  | .invalidInput => "InvalidInput"
  | .isADirectory => "IsADirectory"
  | .networkDown => "NetworkDown"
  | .networkUnreachable => "NetworkUnreachable"
  | .notADirectory => "NotADirectory"
  | .notConnected => "NotConnected"
  | .notFound => "NotFound"
  | .notSeekable => "NotSeekable"
  | .other => "Other"
  | .outOfMemory => "OutOfMemory"
  | .permissionDenied => "PermissionDenied"
  | .quotaExceeded => "QuotaExceeded"
  | .readOnlyFilesystem => "ReadOnlyFilesystem"
  | .resourceBusy => "ResourceBusy"
  | .staleNetworkFileHandle => "StaleNetworkFileHandle"
  | .storageFull => "StorageFull"
  | .timedOut => "TimedOut"
  | .tooManyLinks => "TooManyLinks"
  | .tooManyOpenFiles => "TooManyOpenFiles"
  | .uncategorized => "Uncategorized"
  | .unexpectedEof => "UnexpectedEof"
  | .unsupported => "Unsupported"
  | .wouldBlock => "WouldBlock"
  | .writeZero => "WriteZero"

/-- What is said of a failure of which nothing but the kind is known. -/
def description : IoKind → String
  | .addrInUse => "address in use"
  | .addrNotAvailable => "address not available"
  | .alreadyExists => "entity already exists"
  | .argumentListTooLong => "argument list too long"
  | .brokenPipe => "broken pipe"
  | .connectionAborted => "connection aborted"
  | .connectionRefused => "connection refused"
  | .connectionReset => "connection reset"
  | .crossesDevices => "cross-device link or rename"
  | .deadlock => "deadlock"
  | .directoryNotEmpty => "directory not empty"
  | .executableFileBusy => "executable file busy"
  | .fileTooLarge => "file too large"
  | .filesystemLoop => "filesystem loop or indirection limit (e.g. symlink loop)"
  | .hostUnreachable => "host unreachable"
  | .inProgress => "in progress"
  | .inputOutputError => "input/output error"
  | .interrupted => "operation interrupted"
  | .invalidData => "invalid data"
  | .invalidFilename => "invalid filename"
  | .invalidInput => "invalid input parameter"
  | .isADirectory => "is a directory"
  | .networkDown => "network down"
  | .networkUnreachable => "network unreachable"
  | .notADirectory => "not a directory"
  | .notConnected => "not connected"
  | .notFound => "entity not found"
  | .notSeekable => "seek on unseekable file"
  | .other => "other error"
  | .outOfMemory => "out of memory"
  | .permissionDenied => "permission denied"
  | .quotaExceeded => "quota exceeded"
  | .readOnlyFilesystem => "read-only filesystem or storage medium"
  | .resourceBusy => "resource busy"
  | .staleNetworkFileHandle => "stale network file handle"
  | .storageFull => "no storage space"
  | .timedOut => "timed out"
  | .tooManyLinks => "too many links"
  | .tooManyOpenFiles => "too many open files"
  | .uncategorized => "uncategorized error"
  | .unexpectedEof => "unexpected end of file"
  | .unsupported => "unsupported"
  | .wouldBlock => "operation would block"
  | .writeZero => "write zero"

/-- Every kind. -/
def all : List IoKind := [
  .addrInUse, .addrNotAvailable, .alreadyExists, .argumentListTooLong, .brokenPipe,
  .connectionAborted, .connectionRefused, .connectionReset, .crossesDevices, .deadlock,
  .directoryNotEmpty, .executableFileBusy, .fileTooLarge, .filesystemLoop, .hostUnreachable,
  .inProgress, .inputOutputError, .interrupted, .invalidData, .invalidFilename, .invalidInput,
  .isADirectory,
  .networkDown, .networkUnreachable, .notADirectory, .notConnected, .notFound, .notSeekable,
  .other, .outOfMemory, .permissionDenied, .quotaExceeded, .readOnlyFilesystem, .resourceBusy,
  .staleNetworkFileHandle, .storageFull, .timedOut, .tooManyLinks, .tooManyOpenFiles,
  .uncategorized, .unexpectedEof, .unsupported, .wouldBlock, .writeZero]

/-- The kind with a name. -/
def ofName? (name : String) : Option IoKind := all.find? (·.name == name)

/-- The kind of a numbered error of the system. -/
def ofCode : Nat → IoKind
  | 98 => .addrInUse
  | 99 => .addrNotAvailable
  | 17 => .alreadyExists
  | 7 => .argumentListTooLong
  | 32 => .brokenPipe
  | 103 => .connectionAborted
  | 111 => .connectionRefused
  | 104 => .connectionReset
  | 18 => .crossesDevices
  | 35 => .deadlock
  | 39 => .directoryNotEmpty
  | 26 => .executableFileBusy
  | 27 => .fileTooLarge
  | 40 => .filesystemLoop
  | 113 => .hostUnreachable
  | 115 => .inProgress
  | 5 => .inputOutputError
  | 4 => .interrupted
  | 36 => .invalidFilename
  | 22 => .invalidInput
  | 21 => .isADirectory
  | 100 => .networkDown
  | 101 => .networkUnreachable
  | 20 => .notADirectory
  | 107 => .notConnected
  | 2 => .notFound
  | 29 => .notSeekable
  | 12 => .outOfMemory
  | 1 | 13 => .permissionDenied
  | 122 => .quotaExceeded
  | 30 => .readOnlyFilesystem
  | 16 => .resourceBusy
  | 116 => .staleNetworkFileHandle
  | 28 => .storageFull
  | 110 => .timedOut
  | 31 => .tooManyLinks
  | 23 | 24 => .tooManyOpenFiles
  | 38 | 95 => .unsupported
  | 11 => .wouldBlock
  | _ => .uncategorized

end IoKind

/-- The system's text for a numbered error. -/
def systemText (code : Nat) : String :=
  match code with
  | 0 => "Success"
  | 1 => "Operation not permitted"
  | 2 => "No such file or directory"
  | 3 => "No such process"
  | 4 => "Interrupted system call"
  | 5 => "Input/output error"
  | 6 => "No such device or address"
  | 7 => "Argument list too long"
  | 8 => "Exec format error"
  | 9 => "Bad file descriptor"
  | 10 => "No child processes"
  | 11 => "Resource temporarily unavailable"
  | 12 => "Cannot allocate memory"
  | 13 => "Permission denied"
  | 14 => "Bad address"
  | 15 => "Block device required"
  | 16 => "Device or resource busy"
  | 17 => "File exists"
  | 18 => "Invalid cross-device link"
  | 19 => "No such device"
  | 20 => "Not a directory"
  | 21 => "Is a directory"
  | 22 => "Invalid argument"
  | 23 => "Too many open files in system"
  | 24 => "Too many open files"
  | 25 => "Inappropriate ioctl for device"
  | 26 => "Text file busy"
  | 27 => "File too large"
  | 28 => "No space left on device"
  | 29 => "Illegal seek"
  | 30 => "Read-only file system"
  | 31 => "Too many links"
  | 32 => "Broken pipe"
  | 33 => "Numerical argument out of domain"
  | 34 => "Numerical result out of range"
  | 35 => "Resource deadlock avoided"
  | 36 => "File name too long"
  | 37 => "No locks available"
  | 38 => "Function not implemented"
  | 39 => "Directory not empty"
  | 40 => "Too many levels of symbolic links"
  | 42 => "No message of desired type"
  | 43 => "Identifier removed"
  | 44 => "Channel number out of range"
  | 45 => "Level 2 not synchronized"
  | 46 => "Level 3 halted"
  | 47 => "Level 3 reset"
  | 48 => "Link number out of range"
  | 49 => "Protocol driver not attached"
  | 50 => "No CSI structure available"
  | 51 => "Level 2 halted"
  | 52 => "Invalid exchange"
  | 53 => "Invalid request descriptor"
  | 54 => "Exchange full"
  | 55 => "No anode"
  | 56 => "Invalid request code"
  | 57 => "Invalid slot"
  | 59 => "Bad font file format"
  | 60 => "Device not a stream"
  | 61 => "No data available"
  | 62 => "Timer expired"
  | 63 => "Out of streams resources"
  | 64 => "Machine is not on the network"
  | 65 => "Package not installed"
  | 66 => "Object is remote"
  | 67 => "Link has been severed"
  | 68 => "Advertise error"
  | 69 => "Srmount error"
  | 70 => "Communication error on send"
  | 71 => "Protocol error"
  | 72 => "Multihop attempted"
  | 73 => "RFS specific error"
  | 74 => "Bad message"
  | 75 => "Value too large for defined data type"
  | 76 => "Name not unique on network"
  | 77 => "File descriptor in bad state"
  | 78 => "Remote address changed"
  | 79 => "Can not access a needed shared library"
  | 80 => "Accessing a corrupted shared library"
  | 81 => ".lib section in a.out corrupted"
  | 82 => "Attempting to link in too many shared libraries"
  | 83 => "Cannot exec a shared library directly"
  | 84 => "Invalid or incomplete multibyte or wide character"
  | 85 => "Interrupted system call should be restarted"
  | 86 => "Streams pipe error"
  | 87 => "Too many users"
  | 88 => "Socket operation on non-socket"
  | 89 => "Destination address required"
  | 90 => "Message too long"
  | 91 => "Protocol wrong type for socket"
  | 92 => "Protocol not available"
  | 93 => "Protocol not supported"
  | 94 => "Socket type not supported"
  | 95 => "Operation not supported"
  | 96 => "Protocol family not supported"
  | 97 => "Address family not supported by protocol"
  | 98 => "Address already in use"
  | 99 => "Cannot assign requested address"
  | 100 => "Network is down"
  | 101 => "Network is unreachable"
  | 102 => "Network dropped connection on reset"
  | 103 => "Software caused connection abort"
  | 104 => "Connection reset by peer"
  | 105 => "No buffer space available"
  | 106 => "Transport endpoint is already connected"
  | 107 => "Transport endpoint is not connected"
  | 108 => "Cannot send after transport endpoint shutdown"
  | 109 => "Too many references: cannot splice"
  | 110 => "Connection timed out"
  | 111 => "Connection refused"
  | 112 => "Host is down"
  | 113 => "No route to host"
  | 114 => "Operation already in progress"
  | 115 => "Operation now in progress"
  | 116 => "Stale file handle"
  | 117 => "Structure needs cleaning"
  | 118 => "Not a XENIX named type file"
  | 119 => "No XENIX semaphores available"
  | 120 => "Is a named type file"
  | 121 => "Remote I/O error"
  | 122 => "Disk quota exceeded"
  | 123 => "No medium found"
  | 124 => "Wrong medium type"
  | 125 => "Operation canceled"
  | 126 => "Required key not available"
  | 127 => "Key has expired"
  | 128 => "Key has been revoked"
  | 129 => "Key was rejected by service"
  | 130 => "Owner died"
  | 131 => "State not recoverable"
  | 132 => "Operation not possible due to RF-kill"
  | 133 => "Memory page has hardware error"
  | _ => "Unknown error " ++ toString code

/-- A failure of an operation on the outside world. -/
inductive IoError where
  /-- A numbered error of the system. -/
  | os (code : Nat)
  /-- A failure found before the system was asked, with its text. -/
  | told (kind : IoKind) (text : String)
  deriving DecidableEq, Repr

namespace IoError

/-- The kind of a failure. -/
def kind : IoError → IoKind
  | .os code => .ofCode code
  | .told kind _ => kind

/-- The text of a failure. -/
def text : IoError → String
  | .os code => systemText code ++ " (os error " ++ toString code ++ ")"
  | .told _ text => text

/-- A failure of which only the kind is known. -/
def ofKind (kind : IoKind) : IoError := .told kind kind.description

/-- Nothing is there. -/
def notFound : IoError := .os 2

/-- The file may not be used so. -/
def permissionDenied : IoError := .os 13

/-- Something is there already. -/
def alreadyExists : IoError := .os 17

/-- A step of the path is no directory. -/
def notDirectory : IoError := .os 20

/-- A directory stands where a file is needed. -/
def isDirectory : IoError := .os 21

/-- The device is gone. -/
def noDevice : IoError := .os 19

/-- The file is gone from the other system that held it. -/
def staleHandle : IoError := .os 116

/-- The other system does not answer. -/
def timedOut : IoError := .os 110

/-- A name or the path is too long. -/
def nameTooLong : IoError := .os 36

/-- Too many links on the way. -/
def linkLoop : IoError := .os 40

/-- The file is no program. -/
def notExecutable : IoError := .os 8

/-- An argument is too long. -/
def argumentTooLong : IoError := .os 7

/-- There is no such child. -/
def noChild : IoError := .os 10

/-- The contents of a file are no text. -/
def notText : IoError := .told .invalidData "stream did not contain valid UTF-8"

/-- A path holds a zero byte. -/
def zeroInPath : IoError := .told .invalidInput "file name contained an unexpected NUL byte"

/-- The name or an argument of a program holds a zero byte. -/
def zeroInProgram : IoError := .told .invalidInput "nul byte found in provided data"

end IoError

end TrayIndicator
