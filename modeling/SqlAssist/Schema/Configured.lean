import SqlAssist.Schema.Source
import SqlAssist.Config.Model

/-!
# Schema sources from configuration

A configured data source becomes a schema source by its kind: a static entry serves its
catalog (the demo catalog when it names none), and a PostgreSQL entry becomes an adapter
with the entry's connection settings, a pool of four connections, and no pool open yet.
-/

namespace SqlAssist.Schema

/-- The catalog of a configured static source. -/
def catalogOfConfig (c : Config.StaticCatalog) : Catalog :=
  c.map fun (d, ts) => (d, ts.map fun (t, cs) => (t, cs.map fun (n, ty) => col n ty))

/-- The schema source of a configured data source, over the given server for a
PostgreSQL entry. -/
def Source.ofConfig (c : Config.SourceConfig) (server : Postgres.Server := {}) : Source :=
  match c.kind with
  | .static => .ofCatalog ((c.catalog.map catalogOfConfig).getD demoCatalog)
  | .postgres =>
    let settings : Postgres.Settings :=
      { name := .str c.name, dsn := Config.optText c.dsn, host := Config.optText c.host,
        port := (c.port.map Value.int).getD .null, database := Config.optText c.database,
        user := Config.optText c.user, password := Config.optText c.password,
        connectTimeout := .float c.connectTimeout }
    .postgres { settings, server }

end SqlAssist.Schema
