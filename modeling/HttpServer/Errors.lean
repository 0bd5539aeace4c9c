import HttpServer.Duration

/-! Errors of input and output, with the wording that an operating system gives its numbered errors,
and the reasons for which a server cannot be set up or started. -/
namespace HttpServer

namespace IoError

/-- What sort of failure an error is, apart from where it came from. -/
inductive Kind where
  | outOfMemory
  | unexpectedEof
  | connectionReset
  | connectionAborted
  | brokenPipe
  | timedOut
  | writeZero
  | invalidData
  | permissionDenied
  | notFound
  | other
  deriving DecidableEq, Repr

def Kind.message : Kind → String
  | .outOfMemory => "out of memory"
  | .unexpectedEof => "unexpected end of file"
  | .connectionReset => "connection reset"
  | .connectionAborted => "connection aborted"
  | .brokenPipe => "broken pipe"
  | .timedOut => "timed out"
  | .writeZero => "write zero"
  | .invalidData => "invalid data"
  | .permissionDenied => "permission denied"
  | .notFound => "entity not found"
  | .other => "other error"

end IoError

/-- An error: a number of the operating system, a bare kind, or a kind with a text
of its own. -/
inductive IoError where
  | system (code : Int)
  | simple (kind : IoError.Kind)
  | described (kind : IoError.Kind) (text : String)
  deriving DecidableEq, Repr

namespace IoError

def canceled : Int := 125

def badDescriptor : Int := 9

def processFilesExhausted : Int := 24

def systemFilesExhausted : Int := 23

def memoryExhausted : Int := 12

def kindOfCode : Int → Kind
  | 1 => .permissionDenied
  | 2 => .notFound
  | 12 => .outOfMemory
  | 13 => .permissionDenied
  | 32 => .brokenPipe
  | 103 => .connectionAborted
  | 104 => .connectionReset
  | 110 => .timedOut
  | _ => .other

def kind : IoError → Kind
  | .system code => kindOfCode code
  | .simple kind => kind
  | .described kind _ => kind

/-- The system's wording of its errors, from number 0 on. -/
def systemMessages : List String :=
  [ "Success", "Operation not permitted", "No such file or directory", "No such process",
    "Interrupted system call", "Input/output error", "No such device or address",
    "Argument list too long", "Exec format error", "Bad file descriptor", "No child processes",
    "Resource temporarily unavailable", "Cannot allocate memory", "Permission denied",
    "Bad address", "Block device required", "Device or resource busy", "File exists",
    "Invalid cross-device link", "No such device", "Not a directory", "Is a directory",
    "Invalid argument", "Too many open files in system", "Too many open files",
    "Inappropriate ioctl for device", "Text file busy", "File too large",
    "No space left on device", "Illegal seek", "Read-only file system", "Too many links",
    "Broken pipe", "Numerical argument out of domain", "Numerical result out of range",
    "Resource deadlock avoided", "File name too long", "No locks available",
    "Function not implemented", "Directory not empty", "Too many levels of symbolic links",
    "Unknown error 41", "No message of desired type", "Identifier removed",
    "Channel number out of range", "Level 2 not synchronized", "Level 3 halted", "Level 3 reset",
    "Link number out of range", "Protocol driver not attached", "No CSI structure available",
    "Level 2 halted", "Invalid exchange", "Invalid request descriptor", "Exchange full",
    "No anode", "Invalid request code", "Invalid slot", "Unknown error 58",
    "Bad font file format", "Device not a stream", "No data available", "Timer expired",
    "Out of streams resources", "Machine is not on the network", "Package not installed",
    "Object is remote", "Link has been severed", "Advertise error", "Srmount error",
    "Communication error on send", "Protocol error", "Multihop attempted", "RFS specific error",
    "Bad message", "Value too large for defined data type", "Name not unique on network",
    "File descriptor in bad state", "Remote address changed",
    "Can not access a needed shared library", "Accessing a corrupted shared library",
    ".lib section in a.out corrupted", "Attempting to link in too many shared libraries",
    "Cannot exec a shared library directly", "Invalid or incomplete multibyte or wide character",
    "Interrupted system call should be restarted", "Streams pipe error", "Too many users",
    "Socket operation on non-socket", "Destination address required", "Message too long",
    "Protocol wrong type for socket", "Protocol not available", "Protocol not supported",
    "Socket type not supported", "Operation not supported", "Protocol family not supported",
    "Address family not supported by protocol", "Address already in use",
    "Cannot assign requested address", "Network is down", "Network is unreachable",
    "Network dropped connection on reset", "Software caused connection abort",
    "Connection reset by peer", "No buffer space available",
    "Transport endpoint is already connected", "Transport endpoint is not connected",
    "Cannot send after transport endpoint shutdown", "Too many references: cannot splice",
    "Connection timed out", "Connection refused", "Host is down", "No route to host",
    "Operation already in progress", "Operation now in progress", "Stale file handle",
    "Structure needs cleaning", "Not a XENIX named type file", "No XENIX semaphores available",
    "Is a named type file", "Remote I/O error", "Disk quota exceeded", "No medium found",
    "Wrong medium type", "Operation canceled", "Required key not available", "Key has expired",
    "Key has been revoked", "Key was rejected by service", "Owner died", "State not recoverable",
    "Operation not possible due to RF-kill", "Memory page has hardware error"]

def systemMessage (code : Int) : String :=
  match code with
  | .ofNat n => (systemMessages[n]?).getD s!"Unknown error {n}"
  | .negSucc _ => s!"Unknown error {code}"

def message : IoError → String
  | .system code => s!"{systemMessage code} (os error {code})"
  | .simple kind => kind.message
  | .described _ text => text

end IoError

inductive ServerError where
  | io (error : IoError)
  | threadPool (error : IoError)
  | signalMask (error : IoError)
  | invalidInterval (interval : Duration)
  | acceptorConsumed
  | config (reason : String)
  deriving DecidableEq, Repr

namespace ServerError

def message : ServerError → String
  | .io error => "I/O error: " ++ error.message
  | .threadPool error => "failed to start worker threads: " ++ error.message
  | .signalMask error => "failed to change the signal mask: " ++ error.message
  | .invalidInterval interval => "invalid scheduled command interval: " ++ interval.text
  | .acceptorConsumed => "the listening socket has already been consumed by a previous run"
  | .config reason => "configuration error: " ++ reason

def source? : ServerError → Option IoError
  | .io error | .threadPool error | .signalMask error => some error
  | _ => none

end ServerError

end HttpServer
