import Storekeeper.Checked.Flaw

/-!
# Failures

Everything that can go wrong while the assistant works, by cause.  `NetworkFault` names what an
HTTP client or another collaborator may raise and which of these are kinds of which others.
-/

namespace Storekeeper

/-- What a collaborator may raise. -/
inductive NetworkFault where
  | exception
  | requestError
  | transportError
  | timeoutException
  | connectTimeout
  | readTimeout
  | writeTimeout
  | poolTimeout
  | networkError
  | connectError
  | readError
  | writeError
  | closeError
  | protocolError
  | localProtocolError
  | remoteProtocolError
  | proxyError
  | unsupportedProtocol
  | decodingError
  | tooManyRedirects
  | invalidUrl
  | osError
  | timeoutError
  | lookupError
  | keyError
  | runtimeError
  | valueError
  | other (name : String)
  deriving DecidableEq, Repr

namespace NetworkFault

/-- The next more general kind of a fault. -/
def parent? : NetworkFault → Option NetworkFault
  | exception => none
  | requestError => some exception
  | transportError => some requestError
  | timeoutException => some transportError
  | connectTimeout => some timeoutException
  | readTimeout => some timeoutException
  | writeTimeout => some timeoutException
  | poolTimeout => some timeoutException
  | networkError => some transportError
  | connectError => some networkError
  | readError => some networkError
  | writeError => some networkError
  | closeError => some networkError
  | protocolError => some transportError
  | localProtocolError => some protocolError
  | remoteProtocolError => some protocolError
  | proxyError => some transportError
  | unsupportedProtocol => some transportError
  | decodingError => some requestError
  | tooManyRedirects => some requestError
  | invalidUrl => some exception
  | osError => some exception
  | timeoutError => some osError
  | lookupError => some exception
  | keyError => some lookupError
  | runtimeError => some exception
  | valueError => some exception
  | other _ => some exception

/-- Whether a fault is of a kind, looking up to `depth` kinds upwards. -/
def isWithin : Nat → NetworkFault → NetworkFault → Bool
  | 0, fault, kind => fault == kind
  | depth + 1, fault, kind =>
    fault == kind || (fault.parent?.any fun parent => isWithin depth parent kind)

/-- Whether a fault is of a kind; no fault has more than five kinds above it. -/
def isA (fault kind : NetworkFault) : Bool :=
  isWithin 5 fault kind

/-- Whether the fault lies in sending a request: these count against a service and are retried. -/
def isTransport (fault : NetworkFault) : Bool :=
  fault.isA requestError

/-- The names of the faults. -/
def names : List (NetworkFault × String) :=
  [(exception, "Exception"), (requestError, "RequestError"), (transportError, "TransportError"),
   (timeoutException, "TimeoutException"), (connectTimeout, "ConnectTimeout"),
   (readTimeout, "ReadTimeout"), (writeTimeout, "WriteTimeout"), (poolTimeout, "PoolTimeout"),
   (networkError, "NetworkError"), (connectError, "ConnectError"), (readError, "ReadError"),
   (writeError, "WriteError"), (closeError, "CloseError"), (protocolError, "ProtocolError"),
   (localProtocolError, "LocalProtocolError"), (remoteProtocolError, "RemoteProtocolError"),
   (proxyError, "ProxyError"), (unsupportedProtocol, "UnsupportedProtocol"),
   (decodingError, "DecodingError"), (tooManyRedirects, "TooManyRedirects"),
   (invalidUrl, "InvalidURL"), (osError, "OSError"), (timeoutError, "TimeoutError"),
   (lookupError, "LookupError"), (keyError, "KeyError"), (runtimeError, "RuntimeError"),
   (valueError, "ValueError")]

/-- The name of a fault. -/
def name : NetworkFault → String
  | other name => name
  | fault => (names.lookup fault).getD ""

/-- The fault of a name. -/
def ofName (name : String) : NetworkFault :=
  ((names.find? fun entry => entry.2 == name).map Prod.fst).getD (other name)

end NetworkFault

/-- How a failed request to the catalog is classified. -/
inductive CatalogCode where
  | networkError
  | unauthorized
  | forbidden
  | notFound
  | duplicateSku
  | invalidData
  | imageUploadError
  | serverError
  | unknown
  deriving DecidableEq, Repr

namespace CatalogCode

/-- The codes with their names. -/
def names : List (CatalogCode × String) :=
  [(networkError, "network_error"), (unauthorized, "unauthorized"), (forbidden, "forbidden"),
   (notFound, "not_found"), (duplicateSku, "duplicate_sku"), (invalidData, "invalid_data"),
   (imageUploadError, "image_upload_error"), (serverError, "server_error"), (unknown, "unknown")]

/-- The name of a code. -/
def name (code : CatalogCode) : String :=
  (names.lookup code).getD ""

/-- The code of a name; a name that is not known is `unknown`. -/
def ofName (name : String) : CatalogCode :=
  ((names.find? fun entry => entry.2 == name).map Prod.fst).getD unknown

end CatalogCode

/-- Why an operation failed. -/
inductive Failure where
  /-- A flow cannot be used; `flaws` says what is wrong with its document. -/
  | flow (message : String) (step : Option String) (flaws : List Flaw)
  /-- The messages cannot be used. -/
  | messages (message : String)
  /-- A request to the catalog failed. -/
  | catalog (message : String) (status : Option Int) (code : CatalogCode)
  /-- A message could not be sent. -/
  | sender (message : String) (status : Option Int)
  /-- A notification is not what it should be; `field` is the place. -/
  | webhook (message field : String)
  /-- A circuit breaker did not let a call through. -/
  | circuitOpen (service : String)
  /-- A value does not fit its schema. -/
  | invalid (flaws : List Flaw)
  /-- A collaborator raised something. -/
  | raised (fault : NetworkFault)
  /-- Conversations cannot be kept for no time at all. -/
  | timeoutNotPositive
  /-- An integer is written with more digits than are read. -/
  | integerTooLong
  /-- A time or a number is beyond what can be represented. -/
  | outOfRange
  /-- The bytes of a file are no text. -/
  | undecodable
  /-- A member or a text operation is asked of a value that has none. -/
  | noSuchMember
  /-- A value is searched, compared or walked through that does not allow it. -/
  | unsupported
  /-- There is no entry of that name. -/
  | noEntry
  /-- There is no item at that place. -/
  | noItem
  /-- The clock does not tell the time. -/
  | noClock
  deriving DecidableEq, Repr

end Storekeeper
