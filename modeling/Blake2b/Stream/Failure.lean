import Blake2b.Fault
/-!
# Failures of a stream

Reading from and writing to a stream fail for reasons of the stream's own,
which are sorted into kinds. The list of kinds is open: a stream may fail for a
reason that has no kind of its own here, and such a kind is known by its label
alone. A fault of the hasher that comes up on the way is
wrapped into a failure of the kind `other`, and stays readable as its cause.
-/

namespace Blake2b

inductive FailureKind where
  | notFound
  | permissionDenied
  | connectionRefused
  | connectionReset
  | hostUnreachable
  | networkUnreachable
  | connectionAborted
  | notConnected
  | addrInUse
  | addrNotAvailable
  | networkDown
  | brokenPipe
  | alreadyExists
  | wouldBlock
  | notADirectory
  | isADirectory
  | directoryNotEmpty
  | readOnlyFilesystem
  | staleNetworkFileHandle
  | invalidInput
  | invalidData
  | timedOut
  | writeZero
  | storageFull
  | notSeekable
  | quotaExceeded
  | fileTooLarge
  | resourceBusy
  | executableFileBusy
  | deadlock
  | crossesDevices
  | tooManyLinks
  | invalidFilename
  | argumentListTooLong
  | interrupted
  | unsupported
  | unexpectedEof
  | outOfMemory
  | other
  /-- A kind that is not in the table. -/
  | unlisted (label : String)
deriving DecidableEq

namespace FailureKind

def table : List (FailureKind × String) :=
  [(notFound, "NotFound"),
   (permissionDenied, "PermissionDenied"),
   (connectionRefused, "ConnectionRefused"),
   (connectionReset, "ConnectionReset"),
   (hostUnreachable, "HostUnreachable"),
   (networkUnreachable, "NetworkUnreachable"),
   (connectionAborted, "ConnectionAborted"),
   (notConnected, "NotConnected"),
   (addrInUse, "AddrInUse"),
   (addrNotAvailable, "AddrNotAvailable"),
   (networkDown, "NetworkDown"),
   (brokenPipe, "BrokenPipe"),
   (alreadyExists, "AlreadyExists"),
   (wouldBlock, "WouldBlock"),
   (notADirectory, "NotADirectory"),
   (isADirectory, "IsADirectory"),
   (directoryNotEmpty, "DirectoryNotEmpty"),
   (readOnlyFilesystem, "ReadOnlyFilesystem"),
   (staleNetworkFileHandle, "StaleNetworkFileHandle"),
   (invalidInput, "InvalidInput"),
   (invalidData, "InvalidData"),
   (timedOut, "TimedOut"),
   (writeZero, "WriteZero"),
   (storageFull, "StorageFull"),
   (notSeekable, "NotSeekable"),
   (quotaExceeded, "QuotaExceeded"),
   (fileTooLarge, "FileTooLarge"),
   (resourceBusy, "ResourceBusy"),
   (executableFileBusy, "ExecutableFileBusy"),
   (deadlock, "Deadlock"),
   (crossesDevices, "CrossesDevices"),
   (tooManyLinks, "TooManyLinks"),
   (invalidFilename, "InvalidFilename"),
   (argumentListTooLong, "ArgumentListTooLong"),
   (interrupted, "Interrupted"),
   (unsupported, "Unsupported"),
   (unexpectedEof, "UnexpectedEof"),
   (outOfMemory, "OutOfMemory"),
   (other, "Other")]

def label : FailureKind → String
  | unlisted label => label
  | kind => (table.lookup kind).getD "Other"

/-- The kind of a label that is in the table. -/
def ofLabel? (label : String) : Option FailureKind :=
  (table.find? fun entry => entry.2 == label).map Prod.fst

end FailureKind

/-- A failure of a stream, with the fault that caused it if the hasher did. -/
structure Failure where
  kind : FailureKind
  message : String
  cause : Option Fault
deriving DecidableEq

namespace Failure

/-- A fault of the hasher as a failure of the stream. -/
def ofFault (fault : Fault) : Failure := ⟨.other, fault.message, some fault⟩

/-- A failure of the stream itself. -/
def ofStream (kind : FailureKind) (message : String) : Failure := ⟨kind, message, none⟩

end Failure

end Blake2b
