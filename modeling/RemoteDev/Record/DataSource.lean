import RemoteDev.Wire

/-! What a data source says of its tables, columns and keys: records of a fixed number of
fields. A field that holds an integer may be left empty for zero. -/
namespace RemoteDev

open FieldReader

structure PrimaryKey where
  catalog : String
  owner : String
  table : String
  column : String
  sequence : Int
deriving DecidableEq, Repr

def PrimaryKey.reader : FieldReader PrimaryKey := do
  let catalog ← text
  let owner ← text
  let table ← text
  let column ← text
  let sequence ← integerOrEmpty "key sequence"
  return { catalog, owner, table, column, sequence }

structure ColumnPath where
  catalog : String
  owner : String
  table : String
  column : String
deriving DecidableEq, Repr

def ColumnPath.reader : FieldReader ColumnPath := do
  let catalog ← text
  let owner ← text
  let table ← text
  let column ← text
  return { catalog, owner, table, column }

/-- A column that refers to a key column of a table. -/
structure ForeignKey where
  primary : ColumnPath
  foreign : ColumnPath
  sequence : Int
  updateRule : Int
  deleteRule : Int
deriving DecidableEq, Repr

def ForeignKey.reader : FieldReader ForeignKey := do
  let primary ← ColumnPath.reader
  let foreign ← ColumnPath.reader
  let sequence ← integerOrEmpty "key sequence"
  let updateRule ← integerOrEmpty "update rule"
  let deleteRule ← integerOrEmpty "delete rule"
  return { primary, foreign, sequence, updateRule, deleteRule }

structure TableInfo where
  catalog : String
  schema : String
  name : String
  kind : String
deriving DecidableEq, Repr

def TableInfo.reader : FieldReader TableInfo := do
  let catalog ← text
  let schema ← text
  let name ← text
  let kind ← text
  return { catalog, schema, name, kind }

structure ColumnInfo where
  schema : String
  owner : String
  table : String
  name : String
  typeCode : Int
  typeName : String
  precision : Int
  length : Int
  scale : Int
  radix : Int
  nullable : Int
deriving DecidableEq, Repr

def ColumnInfo.reader : FieldReader ColumnInfo := do
  let schema ← text
  let owner ← text
  let table ← text
  let name ← text
  let typeCode ← integerOrEmpty "type"
  let typeName ← text
  let precision ← integerOrEmpty "precision"
  let length ← integerOrEmpty "length"
  let scale ← integerOrEmpty "scale"
  let radix ← integerOrEmpty "radix"
  let nullable ← integerOrEmpty "nullable"
  return { schema, owner, table, name, typeCode, typeName, precision, length, scale, radix,
           nullable }

structure ColumnMetadata where
  name : String
  typeName : String
  javaType : String
deriving DecidableEq, Repr

def ColumnMetadata.reader : FieldReader ColumnMetadata := do
  let name ← text
  let typeName ← text
  let javaType ← text
  return { name, typeName, javaType }

namespace Reply

def primaryKeys (reply : Reply) : Except FieldError (List PrimaryKey) :=
  reply.records 5 PrimaryKey.reader

def foreignKeys (reply : Reply) : Except FieldError (List ForeignKey) :=
  reply.records 11 ForeignKey.reader

def tableInfo (reply : Reply) : Except FieldError (List TableInfo) :=
  reply.records 4 TableInfo.reader

def columnInfo (reply : Reply) : Except FieldError (List ColumnInfo) :=
  reply.records 11 ColumnInfo.reader

def metadata (reply : Reply) : Except FieldError (List ColumnMetadata) :=
  reply.records 3 ColumnMetadata.reader

end Reply
end RemoteDev
