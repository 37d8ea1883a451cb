/-!
# Firmware status codes

What a firmware call can answer besides success. A warning counts as a failure of the call.
-/

namespace BootManager

/-- A status other than success. -/
inductive Status where
  | warnUnknownGlyph
  | warnDeleteFailure
  | warnWriteFailure
  | warnBufferTooSmall
  | warnStaleData
  | warnFileSystem
  | warnResetRequired
  | loadError
  | invalidParameter
  | unsupported
  | badBufferSize
  | bufferTooSmall
  | notReady
  | deviceError
  | writeProtected
  | outOfResources
  | volumeCorrupted
  | volumeFull
  | noMedia
  | mediaChanged
  | notFound
  | accessDenied
  | noResponse
  | noMapping
  | timeout
  | notStarted
  | alreadyStarted
  | aborted
  | icmpError
  | tftpError
  | protocolError
  | incompatibleVersion
  | securityViolation
  | crcError
  | endOfMedia
  | endOfFile
  | invalidLanguage
  | compromisedData
  | ipAddressConflict
  | httpError
  | networkUnreachable
  | hostUnreachable
  | protocolUnreachable
  | portUnreachable
  | connectionFin
  | connectionReset
  | connectionRefused
  deriving DecidableEq, Repr

namespace Status

/-- The standard's name of a status. -/
def name : Status → String
  | warnUnknownGlyph => "WARN_UNKNOWN_GLYPH"
  | warnDeleteFailure => "WARN_DELETE_FAILURE"
  | warnWriteFailure => "WARN_WRITE_FAILURE"
  | warnBufferTooSmall => "WARN_BUFFER_TOO_SMALL"
  | warnStaleData => "WARN_STALE_DATA"
  | warnFileSystem => "WARN_FILE_SYSTEM"
  | warnResetRequired => "WARN_RESET_REQUIRED"
  | loadError => "LOAD_ERROR"
  | invalidParameter => "INVALID_PARAMETER"
  | unsupported => "UNSUPPORTED"
  | badBufferSize => "BAD_BUFFER_SIZE"
  | bufferTooSmall => "BUFFER_TOO_SMALL"
  | notReady => "NOT_READY"
  | deviceError => "DEVICE_ERROR"
  | writeProtected => "WRITE_PROTECTED"
  | outOfResources => "OUT_OF_RESOURCES"
  | volumeCorrupted => "VOLUME_CORRUPTED"
  | volumeFull => "VOLUME_FULL"
  | noMedia => "NO_MEDIA"
  | mediaChanged => "MEDIA_CHANGED"
  | notFound => "NOT_FOUND"
  | accessDenied => "ACCESS_DENIED"
  | noResponse => "NO_RESPONSE"
  | noMapping => "NO_MAPPING"
  | timeout => "TIMEOUT"
  | notStarted => "NOT_STARTED"
  | alreadyStarted => "ALREADY_STARTED"
  | aborted => "ABORTED"
  | icmpError => "ICMP_ERROR"
  | tftpError => "TFTP_ERROR"
  | protocolError => "PROTOCOL_ERROR"
  | incompatibleVersion => "INCOMPATIBLE_VERSION"
  | securityViolation => "SECURITY_VIOLATION"
  | crcError => "CRC_ERROR"
  | endOfMedia => "END_OF_MEDIA"
  | endOfFile => "END_OF_FILE"
  | invalidLanguage => "INVALID_LANGUAGE"
  | compromisedData => "COMPROMISED_DATA"
  | ipAddressConflict => "IP_ADDRESS_CONFLICT"
  | httpError => "HTTP_ERROR"
  | networkUnreachable => "NETWORK_UNREACHABLE"
  | hostUnreachable => "HOST_UNREACHABLE"
  | protocolUnreachable => "PROTOCOL_UNREACHABLE"
  | portUnreachable => "PORT_UNREACHABLE"
  | connectionFin => "CONNECTION_FIN"
  | connectionReset => "CONNECTION_RESET"
  | connectionRefused => "CONNECTION_REFUSED"

/-- Every status. -/
def all : List Status :=
  [warnUnknownGlyph, warnDeleteFailure, warnWriteFailure, warnBufferTooSmall, warnStaleData,
    warnFileSystem, warnResetRequired, loadError, invalidParameter, unsupported, badBufferSize,
    bufferTooSmall, notReady, deviceError, writeProtected, outOfResources, volumeCorrupted,
    volumeFull, noMedia, mediaChanged, notFound, accessDenied, noResponse, noMapping, timeout,
    notStarted, alreadyStarted, aborted, icmpError, tftpError, protocolError, incompatibleVersion,
    securityViolation, crcError, endOfMedia, endOfFile, invalidLanguage, compromisedData,
    ipAddressConflict, httpError, networkUnreachable, hostUnreachable, protocolUnreachable,
    portUnreachable, connectionFin, connectionReset, connectionRefused]

/-- The status of a name. -/
def ofName? (name : String) : Option Status :=
  all.find? fun status => status.name == name

end Status

end BootManager
