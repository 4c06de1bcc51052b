import SqlAssist.Config.Lax
import SqlAssist.Config.Model

/-!
# Validating a configuration document

A document becomes a configuration when it is an object whose known fields read as
their types; unknown fields are ignored and missing ones take their defaults, except the
name of a data source, which is required.  Every field is read even after one fails, so
the issues come in field order, and within a field in key and item order.  Beyond their
types, a connect timeout must be greater than 0 and the item limit at least 0.
-/

namespace SqlAssist.Config

/-- Read field `k` of an object with `check`; `default` stands in for a missing field,
which is an issue when there is none. -/
def field {α : Type} (fs : List (String × Value)) (k : String) (default : Option α)
    (check : Value → Checked α) : Checked α :=
  match fs.lookup k with
  | some v => under (.key k) (check v)
  | none => match default with
    | some d => .ok d
    | none => .error [⟨.missing, [.key k]⟩]

/-- A number greater than 0. -/
def positive (v : Value) : Checked Float :=
  (asNumber v).bind fun x => if x > 0 then .ok x else fail (.greaterThan "0")

/-- An integer at least 0. -/
def nonNegative (v : Value) : Checked Int :=
  (asInteger v).bind fun i => if 0 ≤ i then .ok i else fail (.greaterThanEqual "0")

/-- The kind of a source. -/
def asKind (v : Value) : Checked SourceKind :=
  (asChoice ["postgres", "static"] v).map fun s => if s = "static" then .static else .postgres

/-- A static catalog. -/
def asCatalog : Value → Checked StaticCatalog := dictOf (dictOf (dictOf asText))

/-- Read a data source entry. -/
def checkSource : Value → Checked SourceConfig
  | .obj fs =>
    let name := field fs "name" none asText
    let kind := field fs "kind" (some .postgres) asKind
    let dsn := field fs "dsn" (some none) (optional asText)
    let host := field fs "host" (some none) (optional asText)
    let port := field fs "port" (some none) (optional asInteger)
    let database := field fs "database" (some none) (optional asText)
    let user := field fs "user" (some none) (optional asText)
    let password := field fs "password" (some none) (optional asText)
    let timeout := field fs "connect_timeout" (some 5.0) positive
    let catalog := field fs "catalog" (some none) (optional asCatalog)
    match name, kind, dsn, host, port, database, user, password, timeout, catalog with
    | .ok n, .ok k, .ok d, .ok h, .ok p, .ok db, .ok u, .ok pw, .ok t, .ok c =>
      .ok ⟨n, k, d, h, p, db, u, pw, t, c⟩
    | _, _, _, _, _, _, _, _, _, _ =>
      .error (issuesOf name ++ issuesOf kind ++ issuesOf dsn ++ issuesOf host ++ issuesOf port ++
        issuesOf database ++ issuesOf user ++ issuesOf password ++ issuesOf timeout ++
        issuesOf catalog)
  | _ => fail (.modelType "DataSourceConfig")

/-- Read the completion knobs. -/
def checkCompletion : Value → Checked CompletionSettings
  | .obj fs =>
    let limit := field fs "max_items" (some 200) nonNegative
    let scope := field fs "statement_scope" (some true) asFlag
    match limit, scope with
    | .ok l, .ok s => .ok ⟨l, s⟩
    | _, _ => .error (issuesOf limit ++ issuesOf scope)
  | _ => fail (.modelType "CompletionSettings")

/-- Read a configuration document. -/
def checkConfig : Value → Checked AppConfig
  | .obj fs =>
    let sources := field fs "data_sources" (some [demoSource]) (listOf checkSource)
    let default := field fs "default_data_source" (some none) (optional asText)
    let completion := field fs "completion" (some {}) checkCompletion
    match sources, default, completion with
    | .ok s, .ok d, .ok c => .ok ⟨s, d, c⟩
    | _, _, _ => .error (issuesOf sources ++ issuesOf default ++ issuesOf completion)
  | _ => fail (.modelType "AppConfig")

/-- An issue as reported: its code, location and message. -/
def Issue.toValue (i : Issue) : Value :=
  .obj [("type", .str i.problem.code),
    ("loc", .list (i.loc.map fun | .key k => .str k | .index n => .int n)),
    ("msg", .str i.problem.message)]

end SqlAssist.Config
