/-!
The errors that the operating system answers a system call with.

* `OsError` is an error number.
* `OsError.message` is the system's own wording and `OsError.kind` the class it belongs to.
* `OsError.render` is the text shown to users: the wording followed by the number.
-/

namespace EventLoop

/-- An error of the operating system, known by its number. -/
structure OsError where
  code : Nat
deriving DecidableEq, Inhabited

namespace OsError

/-- The caller lacks a privilege, or the file cannot be watched. -/
def notPermitted : OsError := ⟨1⟩

/-- What was asked for does not exist. -/
def notFound : OsError := ⟨2⟩

/-- A signal arrived during the call. -/
def interrupted : OsError := ⟨4⟩

/-- The descriptor number is not open, or not open for this use. -/
def badDescriptor : OsError := ⟨9⟩

/-- The call would have to wait. -/
def wouldBlock : OsError := ⟨11⟩

/-- What was to be made exists already. -/
def alreadyExists : OsError := ⟨17⟩

/-- An argument makes no sense. -/
def invalid : OsError := ⟨22⟩

/-- The process has no descriptor number left. -/
def tooManyOpen : OsError := ⟨24⟩

/-- Nobody will read what is written. -/
def brokenPipe : OsError := ⟨32⟩

/-- The file is not a socket. -/
def notSocket : OsError := ⟨88⟩

/-- There is no route to the network. -/
def networkUnreachable : OsError := ⟨101⟩

/-- The other side dropped the connection with data unread. -/
def connectionReset : OsError := ⟨104⟩

/-- One row of the error table: the number, the class and the wording. -/
structure Row where
  code : Nat
  kind : String
  message : String

/-- All errors that have a wording. -/
def table : List Row :=
  [⟨0, "Uncategorized", "Success"⟩,
   ⟨1, "PermissionDenied", "Operation not permitted"⟩,
   ⟨2, "NotFound", "No such file or directory"⟩,
   ⟨3, "Uncategorized", "No such process"⟩,
   ⟨4, "Interrupted", "Interrupted system call"⟩,
   ⟨5, "Uncategorized", "Input/output error"⟩,
   ⟨6, "Uncategorized", "No such device or address"⟩,
   ⟨7, "ArgumentListTooLong", "Argument list too long"⟩,
   ⟨8, "Uncategorized", "Exec format error"⟩,
   ⟨9, "Uncategorized", "Bad file descriptor"⟩,
   ⟨10, "Uncategorized", "No child processes"⟩,
   ⟨11, "WouldBlock", "Resource temporarily unavailable"⟩,
   ⟨12, "OutOfMemory", "Cannot allocate memory"⟩,
   ⟨13, "PermissionDenied", "Permission denied"⟩,
   ⟨14, "Uncategorized", "Bad address"⟩,
   ⟨15, "Uncategorized", "Block device required"⟩,
   ⟨16, "ResourceBusy", "Device or resource busy"⟩,
   ⟨17, "AlreadyExists", "File exists"⟩,
   ⟨18, "CrossesDevices", "Invalid cross-device link"⟩,
   ⟨19, "Uncategorized", "No such device"⟩,
   ⟨20, "NotADirectory", "Not a directory"⟩,
   ⟨21, "IsADirectory", "Is a directory"⟩,
   ⟨22, "InvalidInput", "Invalid argument"⟩,
   ⟨23, "TooManyOpenFiles", "Too many open files in system"⟩,
   ⟨24, "TooManyOpenFiles", "Too many open files"⟩,
   ⟨25, "Uncategorized", "Inappropriate ioctl for device"⟩,
   ⟨26, "ExecutableFileBusy", "Text file busy"⟩,
   ⟨27, "FileTooLarge", "File too large"⟩,
   ⟨28, "StorageFull", "No space left on device"⟩,
   ⟨29, "NotSeekable", "Illegal seek"⟩,
   ⟨30, "ReadOnlyFilesystem", "Read-only file system"⟩,
   ⟨31, "TooManyLinks", "Too many links"⟩,
   ⟨32, "BrokenPipe", "Broken pipe"⟩,
   ⟨33, "Uncategorized", "Numerical argument out of domain"⟩,
   ⟨34, "Uncategorized", "Numerical result out of range"⟩,
   ⟨35, "Deadlock", "Resource deadlock avoided"⟩,
   ⟨36, "InvalidFilename", "File name too long"⟩,
   ⟨37, "Uncategorized", "No locks available"⟩,
   ⟨38, "Unsupported", "Function not implemented"⟩,
   ⟨39, "DirectoryNotEmpty", "Directory not empty"⟩,
   ⟨40, "FilesystemLoop", "Too many levels of symbolic links"⟩,
   ⟨42, "Uncategorized", "No message of desired type"⟩,
   ⟨43, "Uncategorized", "Identifier removed"⟩,
   ⟨44, "Uncategorized", "Channel number out of range"⟩,
   ⟨45, "Uncategorized", "Level 2 not synchronized"⟩,
   ⟨46, "Uncategorized", "Level 3 halted"⟩,
   ⟨47, "Uncategorized", "Level 3 reset"⟩,
   ⟨48, "Uncategorized", "Link number out of range"⟩,
   ⟨49, "Uncategorized", "Protocol driver not attached"⟩,
   ⟨50, "Uncategorized", "No CSI structure available"⟩,
   ⟨51, "Uncategorized", "Level 2 halted"⟩,
   ⟨52, "Uncategorized", "Invalid exchange"⟩,
   ⟨53, "Uncategorized", "Invalid request descriptor"⟩,
   ⟨54, "Uncategorized", "Exchange full"⟩,
   ⟨55, "Uncategorized", "No anode"⟩,
   ⟨56, "Uncategorized", "Invalid request code"⟩,
   ⟨57, "Uncategorized", "Invalid slot"⟩,
   ⟨59, "Uncategorized", "Bad font file format"⟩,
   ⟨60, "Uncategorized", "Device not a stream"⟩,
   ⟨61, "Uncategorized", "No data available"⟩,
   ⟨62, "Uncategorized", "Timer expired"⟩,
   ⟨63, "Uncategorized", "Out of streams resources"⟩,
   ⟨64, "Uncategorized", "Machine is not on the network"⟩,
   ⟨65, "Uncategorized", "Package not installed"⟩,
   ⟨66, "Uncategorized", "Object is remote"⟩,
   ⟨67, "Uncategorized", "Link has been severed"⟩,
   ⟨68, "Uncategorized", "Advertise error"⟩,
   ⟨69, "Uncategorized", "Srmount error"⟩,
   ⟨70, "Uncategorized", "Communication error on send"⟩,
   ⟨71, "Uncategorized", "Protocol error"⟩,
   ⟨72, "Uncategorized", "Multihop attempted"⟩,
   ⟨73, "Uncategorized", "RFS specific error"⟩,
   ⟨74, "Uncategorized", "Bad message"⟩,
   ⟨75, "Uncategorized", "Value too large for defined data type"⟩,
   ⟨76, "Uncategorized", "Name not unique on network"⟩,
   ⟨77, "Uncategorized", "File descriptor in bad state"⟩,
   ⟨78, "Uncategorized", "Remote address changed"⟩,
   ⟨79, "Uncategorized", "Can not access a needed shared library"⟩,
   ⟨80, "Uncategorized", "Accessing a corrupted shared library"⟩,
   ⟨81, "Uncategorized", ".lib section in a.out corrupted"⟩,
   ⟨82, "Uncategorized", "Attempting to link in too many shared libraries"⟩,
   ⟨83, "Uncategorized", "Cannot exec a shared library directly"⟩,
   ⟨84, "Uncategorized", "Invalid or incomplete multibyte or wide character"⟩,
   ⟨85, "Uncategorized", "Interrupted system call should be restarted"⟩,
   ⟨86, "Uncategorized", "Streams pipe error"⟩,
   ⟨87, "Uncategorized", "Too many users"⟩,
   ⟨88, "Uncategorized", "Socket operation on non-socket"⟩,
   ⟨89, "Uncategorized", "Destination address required"⟩,
   ⟨90, "Uncategorized", "Message too long"⟩,
   ⟨91, "Uncategorized", "Protocol wrong type for socket"⟩,
   ⟨92, "Uncategorized", "Protocol not available"⟩,
   ⟨93, "Uncategorized", "Protocol not supported"⟩,
   ⟨94, "Uncategorized", "Socket type not supported"⟩,
   ⟨95, "Unsupported", "Operation not supported"⟩,
   ⟨96, "Uncategorized", "Protocol family not supported"⟩,
   ⟨97, "Uncategorized", "Address family not supported by protocol"⟩,
   ⟨98, "AddrInUse", "Address already in use"⟩,
   ⟨99, "AddrNotAvailable", "Cannot assign requested address"⟩,
   ⟨100, "NetworkDown", "Network is down"⟩,
   ⟨101, "NetworkUnreachable", "Network is unreachable"⟩,
   ⟨102, "Uncategorized", "Network dropped connection on reset"⟩,
   ⟨103, "ConnectionAborted", "Software caused connection abort"⟩,
   ⟨104, "ConnectionReset", "Connection reset by peer"⟩,
   ⟨105, "Uncategorized", "No buffer space available"⟩,
   ⟨106, "Uncategorized", "Transport endpoint is already connected"⟩,
   ⟨107, "NotConnected", "Transport endpoint is not connected"⟩,
   ⟨108, "Uncategorized", "Cannot send after transport endpoint shutdown"⟩,
   ⟨109, "Uncategorized", "Too many references: cannot splice"⟩,
   ⟨110, "TimedOut", "Connection timed out"⟩,
   ⟨111, "ConnectionRefused", "Connection refused"⟩,
   ⟨112, "Uncategorized", "Host is down"⟩,
   ⟨113, "HostUnreachable", "No route to host"⟩,
   ⟨114, "Uncategorized", "Operation already in progress"⟩,
   ⟨115, "InProgress", "Operation now in progress"⟩,
   ⟨116, "StaleNetworkFileHandle", "Stale file handle"⟩,
   ⟨117, "Uncategorized", "Structure needs cleaning"⟩,
   ⟨118, "Uncategorized", "Not a XENIX named type file"⟩,
   ⟨119, "Uncategorized", "No XENIX semaphores available"⟩,
   ⟨120, "Uncategorized", "Is a named type file"⟩,
   ⟨121, "Uncategorized", "Remote I/O error"⟩,
   ⟨122, "QuotaExceeded", "Disk quota exceeded"⟩,
   ⟨123, "Uncategorized", "No medium found"⟩,
   ⟨124, "Uncategorized", "Wrong medium type"⟩,
   ⟨125, "Uncategorized", "Operation canceled"⟩,
   ⟨126, "Uncategorized", "Required key not available"⟩,
   ⟨127, "Uncategorized", "Key has expired"⟩,
   ⟨128, "Uncategorized", "Key has been revoked"⟩,
   ⟨129, "Uncategorized", "Key was rejected by service"⟩,
   ⟨130, "Uncategorized", "Owner died"⟩,
   ⟨131, "Uncategorized", "State not recoverable"⟩,
   ⟨132, "Uncategorized", "Operation not possible due to RF-kill"⟩,
   ⟨133, "Uncategorized", "Memory page has hardware error"⟩]

/-- The row of the table for an error; an unknown number has a row of its own making. -/
def row (e : OsError) : Row :=
  (table.find? (·.code == e.code)).getD ⟨e.code, "Uncategorized", s!"Unknown error {e.code}"⟩

/-- The system's wording of an error. -/
def message (e : OsError) : String := e.row.message

/-- The class that an error belongs to. -/
def kind (e : OsError) : String := e.row.kind

/-- The text of an error: its wording and its number. -/
def render (e : OsError) : String := s!"{e.message} (os error {e.code})"

end OsError

end EventLoop
