/-
LeaseStore.Table.Connector — engines over table services.

The `TableConnector`, with the function that builds its clients.

To connect means to read the account off the configured connection string
and to build a client for it. How a client is built is left open.
-/
import LeaseStore.Document.Connector
import LeaseStore.Table

namespace LeaseStore

/-- The connector that builds its clients this way (`TableConnector`). -/
def TableClient.connector {σ : Type}
    (build : ClientBuilder σ TableAccount (TableClient σ)) : Connector σ := fun c s =>
  match ConnectionString.parse c.connectionString >>= TableAccount.ofSettings with
  | .error e => (.error e.toStoreError, s)
  | .ok account =>
    match build account s with
    | (.error e, s) => (.error e.toStoreError, s)
    | (.ok client, s) => (.ok client.backend, s)

end LeaseStore
