/-
LeaseStore.Document.Connector — engines over document databases.

The `DocumentConnector`, with the function that builds its clients, and
`from_service` (`ClientBuilder.always`).

To connect means to read the account off the configured connection string,
to build a client for it, and to make that client a backend with the
configured throughput. How a client is built is left open.
-/
import LeaseStore.Connection.Account
import LeaseStore.Document
import LeaseStore.Engine

namespace LeaseStore

/-- Builds clients for accounts. -/
abbrev ClientBuilder (σ Account Client : Type) := Account → σ → Except ConnectionError Client × σ

/-- Builds nothing: every account gets the same client. -/
def ClientBuilder.always {σ Account Client : Type} (client : Client) :
    ClientBuilder σ Account Client := fun _ s => (.ok client, s)

/-- The connector that builds its clients this way (`DocumentConnector`). -/
def DocumentClient.connector {σ : Type}
    (build : ClientBuilder σ DocumentAccount (DocumentClient σ)) : Connector σ := fun c s =>
  match ConnectionString.parse c.connectionString >>= DocumentAccount.ofSettings with
  | .error e => (.error e.toStoreError, s)
  | .ok account =>
    match build account s with
    | (.error e, s) => (.error e.toStoreError, s)
    | (.ok client, s) => (.ok (client.backend c.throughput), s)

end LeaseStore
