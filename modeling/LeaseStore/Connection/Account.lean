/-
LeaseStore.Connection.Account — what a service client needs to know.

A `DocumentAccount` and a `TableAccount`, with `from_connection_string`
(`ofSettings`) of each.

A document account needs an endpoint and a key. A table account is given
either by its endpoint, with name and key optional, or by name and key,
from which the endpoint follows.
-/
import LeaseStore.Connection.Settings

namespace LeaseStore

open LeaseStore.Text

/-- An account of the document service. -/
structure DocumentAccount where
  endpoint : String
  key : String
  deriving DecidableEq

namespace DocumentAccount

/-- The document account of a connection string. -/
def ofSettings (c : ConnectionString) : Except ConnectionError DocumentAccount := do
  let endpoint ← c.require "AccountEndpoint"
  let key ← c.require "AccountKey"
  .ok ⟨endpoint, key⟩

/-- The diagnostic form of an account, without its key. -/
def describe (a : DocumentAccount) : String :=
  describeFields "DocumentAccount" [("endpoint", quoted a.endpoint), ("key", redacted)] false

end DocumentAccount

/-- An account of the table service. -/
structure TableAccount where
  endpoint : String
  accountName : Option String
  key : Option String
  deriving DecidableEq

namespace TableAccount

/-- The table account of a connection string. -/
def ofSettings (c : ConnectionString) : Except ConnectionError TableAccount :=
  match c.get? "TableEndpoint" with
  | some endpoint => .ok ⟨endpoint, c.get? "AccountName", c.get? "AccountKey"⟩
  | none => do
    let name ← c.require "AccountName"
    let key ← c.require "AccountKey"
    let protocol := (c.get? "DefaultEndpointsProtocol").getD "https"
    let suffix := (c.get? "EndpointSuffix").getD "core.windows.net"
    .ok ⟨protocol ++ "://" ++ name ++ ".table." ++ suffix, some name, some key⟩

/-- The diagnostic form of an account, without its key. -/
def describe (a : TableAccount) : String :=
  describeFields "TableAccount"
    [ ("endpoint", quoted a.endpoint),
      ("account_name", describeOption (a.accountName.map quoted)),
      ("key", describeOption (a.key.map fun _ => redacted)) ] false

end TableAccount

end LeaseStore
