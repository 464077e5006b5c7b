/-
LeaseStore.Failure — everything that can go wrong, by cause.

Four layers report failures, and each conversion keeps the cause:

* `ServiceError` — a cloud service refused a request with a status;
* `BackendError` — what an engine has to tell apart in a backend's
  answer: missing, already there, stale token, or anything else;
* `ConfigError` and `ConnectionError` — settings that cannot be used, and
  service clients that cannot be built from them;
* `StoreError` — what a caller of the engine sees.

`message` is the text of each. A failure is *structural* when retrying
cannot help, and *transient* when the backend said that it may.
-/

namespace LeaseStore

/-- Who holds, or asks for, a lock. Both parts belong to the identity. -/
@[ext] structure Owner where
  id : String
  kind : String
  deriving DecidableEq, Repr

namespace Owner

/-- The owner recorded where there is none. -/
def nobody : Owner := ⟨"", ""⟩

instance : Inhabited Owner := ⟨nobody⟩

end Owner

/-! ## Services -/

/-- A refusal by a cloud service: the status of its reply, the service's
own error code if it gave one, and a text. -/
structure ServiceError where
  status : Nat
  code : Option String
  message : String
  deriving DecidableEq, Repr

/-- What lies beneath a backend failure. -/
inductive Cause where
  /-- A service refused the request. -/
  | service (error : ServiceError)
  /-- The stored document does not describe a record. -/
  | malformedDocument
  deriving DecidableEq, Repr

/-! ## Backends -/

/-- The failures of a backend that an engine tells apart (`AdapterError`). -/
inductive BackendError where
  /-- The id, or the collection, does not exist. -/
  | notFound
  /-- A create met an id that is already there. -/
  | alreadyExists
  /-- The token presented is not the stored one. -/
  | preconditionFailed
  /-- Anything else. -/
  | failure (message : String) (transient : Bool) (cause : Option Cause)
  deriving DecidableEq, Repr

namespace BackendError

/-- The text of a backend failure. -/
def message : BackendError → String
  | notFound => "not found"
  | alreadyExists => "already exists"
  | preconditionFailed => "precondition failed"
  | failure message _ _ => message

/-- A failure that a retry will not mend. -/
def lasting (message : String) : BackendError := failure message false none

/-- A failure that may pass, such as throttling. -/
def passing (message : String) : BackendError := failure message true none

end BackendError

namespace ServiceError

/-- The service's code for a row that is already there. -/
def entityExists : String := "EntityAlreadyExists"

/-- The service's code for a stale entity tag. -/
def conditionNotMet : String := "UpdateConditionNotSatisfied"

/-- The service's code for a row that is not there. -/
def resourceNotFound : String := "ResourceNotFound"

/-- The text of a refusal, with its status and code. -/
def describe (e : ServiceError) : String :=
  let code := match e.code with
    | some c => " (" ++ c ++ ")"
    | none => ""
  "service returned " ++ toString e.status ++ code ++ ": " ++ e.message

/-- Timeouts, throttling and failures on the service's side may pass. -/
def isTransient (e : ServiceError) : Bool :=
  e.status == 408 || e.status == 429 || (500 ≤ e.status && e.status < 600)

/-- A refusal as a backend failure. A code that names the outcome counts
like the status that means it, and the stale token is looked for first. -/
def toBackendError (e : ServiceError) : BackendError :=
  if e.code = some conditionNotMet ∨ e.status = 412 then .preconditionFailed
  else if e.code = some entityExists ∨ e.status = 409 then .alreadyExists
  else if e.code = some resourceNotFound ∨ e.status = 404 then .notFound
  else .failure e.message e.isTransient (some (.service e))

end ServiceError

/-! ## Settings -/

/-- Why a configuration is refused. `field` is the setting's name. -/
inductive ConfigError where
  | belowMinimum (field least value : String)
  | empty (field : String)
  | invalid (field reason : String)
  deriving DecidableEq, Repr

namespace ConfigError

/-- The text of a refused configuration. -/
def message : ConfigError → String
  | belowMinimum field least value =>
    field ++ " must be at least " ++ least ++ ", got " ++ value
  | empty field => field ++ " cannot be empty"
  | invalid field reason => field ++ " is invalid: " ++ reason

end ConfigError

/-! ## The engine -/

/-- What lies beneath a failure that the engine passes on. -/
inductive Origin where
  /-- The cause that the backend reported. -/
  | cause (cause : Cause)
  /-- A backend failure that has no place of its own in `StoreError`. -/
  | backend (error : BackendError)
  deriving DecidableEq, Repr

namespace Origin

/-- The text of what lies beneath; a document that could not be read has
no text of its own. -/
def message? : Origin → Option String
  | cause (.service e) => some e.describe
  | cause .malformedDocument => none
  | backend e => some e.message

end Origin

/-- The failures of an engine's operations (`StorageError`). -/
inductive StoreError where
  /-- No such record, or it has expired. -/
  | notFound (id : String)
  /-- The id is taken, or the token is stale. -/
  | conflict (id : String)
  /-- Someone else holds the lock. -/
  | lockedByOther (id : String) (holder : Owner)
  /-- The backend failed. -/
  | external (message : String) (transient : Bool) (origin : Option Origin)
  /-- The engine has no configuration yet. -/
  | uninitialized
  /-- No backend has this name. -/
  | unknownBackend (name : String)
  /-- The configuration cannot be used. -/
  | config (error : ConfigError)
  deriving DecidableEq, Repr

namespace StoreError

/-- The text of a failure. -/
def message : StoreError → String
  | notFound id => "Record not found: " ++ id
  | conflict id => "Conflict writing record: " ++ id
  | lockedByOther id holder =>
    "Record " ++ id ++ " is locked by another owner (" ++ holder.kind ++ "/" ++ holder.id ++ ")"
  | external message _ _ => "External dependency error: " ++ message
  | uninitialized => "Storage engine used before initialization"
  | unknownBackend name => "Unknown storage backend type: " ++ name
  | config error => "Configuration error: " ++ error.message

/-- A backend failure on the record `id`, as the caller sees it
(`from_adapter`). -/
def ofBackend (id : String) : BackendError → StoreError
  | .notFound => notFound id
  | .alreadyExists => conflict id
  | .preconditionFailed => conflict id
  | .failure message transient cause => external message transient (cause.map .cause)

/-- A mistake in program or configuration, which no retry can mend. -/
def isStructural : StoreError → Bool
  | uninitialized | unknownBackend _ | config _ => true
  | _ => false

/-- A failure that the backend called passing. -/
def isTransient : StoreError → Bool
  | external _ transient _ => transient
  | _ => false

end StoreError

/-! ## Building service clients -/

/-- Why no service client could be built (`CloudStorageError`). -/
inductive ConnectionError where
  /-- The connection string breaks its grammar. -/
  | malformed (reason : String)
  /-- A setting that the account needs is absent. -/
  | missing (key : String)
  /-- The client itself could not be built. -/
  | client (message : String)
  /-- The service refused the client. -/
  | service (error : ServiceError)
  deriving DecidableEq, Repr

namespace ConnectionError

/-- The text of a failure to connect. -/
def message : ConnectionError → String
  | malformed reason => "Malformed connection string: " ++ reason
  | missing key => "Connection string is missing " ++ key
  | client message => "Failed to build service client: " ++ message
  | service error => "Service error: " ++ error.describe

/-- A failure to connect, as the caller of an engine sees it: bad settings
are configuration errors, all else is the dependency's failure. -/
def toStoreError : ConnectionError → StoreError
  | malformed reason => .config (.invalid "connection_string" reason)
  | missing key => .config (.invalid "connection_string" ("missing " ++ key))
  | client message => .external message false none
  | service error =>
    .external error.message error.isTransient (some (.cause (.service error)))

end ConnectionError

end LeaseStore
