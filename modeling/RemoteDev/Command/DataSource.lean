import RemoteDev.Record.DataSource
import RemoteDev.Record.File
import RemoteDev.Record.Grid
import RemoteDev.Wire

/-! Commands on the data sources of the server. -/
namespace RemoteDev

inductive DataSourceCommand where
  | names
  | tables (source : String)
  | columns (source table : String)
  | primaryKeys (source table : String)
  | foreignKeys (source table : String)
  /-- Asks for the keys of other tables that a table refers to. -/
  | importedKeys (source table : String)
  /-- Asks for the keys of other tables that refer to a table. -/
  | exportedKeys (source table : String)
  | statement (source sql : String)
  /-- Asks for the columns that a statement would return. -/
  | metadata (source sql : String)
  | supportedCommands
  | description (source : String)
deriving DecidableEq

namespace DataSourceCommand

def Result : DataSourceCommand → Type
  | names => List String
  | tables _ => List TableInfo
  | columns _ _ => List ColumnInfo
  | primaryKeys _ _ => List PrimaryKey
  | foreignKeys _ _ => List ForeignKey
  | importedKeys _ _ => List ForeignKey
  | exportedKeys _ _ => List ForeignKey
  | statement _ _ => Grid
  | metadata _ _ => List ColumnMetadata
  | supportedCommands => List String
  | description _ => String

def onSource (source operation : String) : Except Failure Request := do
  let s ← required "data source" source
  return .ofTexts .dataSources [s, operation]

def withParameter (source operation name value : String) : Except Failure Request := do
  let s ← required "data source" source
  let v ← required name value
  return .ofTexts .dataSources [s, operation, v]

def request : DataSourceCommand → Except Failure Request
  | names => .ok (.ofTexts .dataSources ["", "DSNINFO"])
  | tables source => onSource source "TABLEINFO"
  | columns source table => withParameter source "COLUMNINFO" "table" table
  | primaryKeys source table => withParameter source "PRIMARYKEYS" "table" table
  | foreignKeys source table => withParameter source "FOREIGNKEYS" "table" table
  | importedKeys source table => withParameter source "IMPORTEDKEYS" "table" table
  | exportedKeys source table => withParameter source "EXPORTEDKEYS" "table" table
  | statement source sql => withParameter source "SQLSTMNT" "sql" sql
  | metadata source sql => withParameter source "SQLMETADATA" "sql" sql
  | supportedCommands => .ok (.ofTexts .dataSources ["", "SUPPORTEDCOMMANDS"])
  | description source => onSource source "DBDESCRIPTION"

def records : (c : DataSourceCommand) → Reply → Except FieldError c.Result
  | names, reply => reply.texts
  | tables _, reply => reply.tableInfo
  | columns _ _, reply => reply.columnInfo
  | primaryKeys _ _, reply => reply.primaryKeys
  | foreignKeys _ _, reply => reply.foreignKeys
  | importedKeys _ _, reply => reply.foreignKeys
  | exportedKeys _ _, reply => reply.foreignKeys
  | statement _ _, reply => reply.grid
  | metadata _ _, reply => reply.metadata
  | supportedCommands, reply => reply.texts
  | description _, reply => reply.singleText

def decode (c : DataSourceCommand) (reply : Reply) : Except Failure c.Result :=
  FieldError.lift (c.records reply)

end DataSourceCommand
end RemoteDev
