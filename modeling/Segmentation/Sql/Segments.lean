import Segmentation.Filter.Codec
import Segmentation.Segment
import Segmentation.Sql.Command

namespace Segmentation.Sql.Segments

def table : String := "segments"

def toRow (s : Segment) : Row :=
  [("id", .uuid s.id), ("owner_id", .text s.owner), ("name", .text s.name),
    ("description", .optional .text s.description), ("rules", .json s.rules),
    ("compiled_filter", .json s.filter.toJson),
    ("customer_count", .optional .int s.customerCount), ("is_active", .bool s.isActive),
    ("created_at", .ofInstant s.createdAt), ("updated_at", .ofInstant s.updatedAt),
    ("last_run", .optional .ofInstant s.lastRun)]

def columns : List String :=
  ["id", "owner_id", "name", "description", "rules", "compiled_filter", "customer_count",
    "is_active", "created_at", "updated_at", "last_run"]

/-- How the driver of the database reads documents. -/
def documentReader : String → Option Json :=
  Json.read? Json.maxDepth

def filter? (read? : String → Option Json) (v : Value) : Option Filter :=
  (v.json? read?).bind Filter.ofJson?

/-- The segment of a row, whose documents are read from their texts. -/
def ofRow (read? : String → Option Json) (row : Row) : Except Database.Fault Segment := do
  return {
    id := ← row.get "id" Value.uuid?
    owner := ← row.get "owner_id" Value.text?
    name := ← row.get "name" Value.text?
    description := ← row.get "description" (Value.orNull? Value.text?)
    rules := ← row.get "rules" (Value.json? read?)
    filter := ← row.get "compiled_filter" (filter? read?)
    customerCount := ← row.get "customer_count" (Value.orNull? Value.int?)
    isActive := ← row.get "is_active" Value.bool?
    createdAt := ← row.get "created_at" Value.instant?
    updatedAt := ← row.get "updated_at" Value.instant?
    lastRun := ← row.get "last_run" (Value.orNull? Value.instant?) }

def numbered (columns : List String) : List (String × Nat) :=
  columns.zipIdx 1

def insertCommand (s : Segment) : Bound where
  command := .insert table (numbered columns)
  values := (toRow s).map Prod.snd

def insert (s : Segment) : Query Unit where
  statement := (insertCommand s).statement
  read _ := .ok ()
  refused f := if f.isUniqueViolation then .nameTaken s.name else .database f

def findByNameCommand (owner name : String) : Bound where
  command := .select columns table [("owner_id", 1), ("name", 2)] []
  values := [.text owner, .text name]

def findByName (owner name : String) (read? : String → Option Json := documentReader) :
    Query (Option Segment) where
  statement := (findByNameCommand owner name).statement
  read o := o.first? (ofRow read?)

def getCommand (owner : String) (id : Uuid) : Bound where
  command := .select columns table [("id", 1), ("owner_id", 2)] []
  values := [.uuid id, .text owner]

def get (owner : String) (id : Uuid) (read? : String → Option Json := documentReader) :
    Query (Option Segment) where
  statement := (getCommand owner id).statement
  read o := o.first? (ofRow read?)

def listCommand (owner : String) : Bound where
  command := .select columns table [("owner_id", 1)]
    [("created_at", .descending), ("id", .ascending)]
  values := [.text owner]

def list (owner : String) (read? : String → Option Json := documentReader) :
    Query (List Segment) where
  statement := (listCommand owner).statement
  read o := o.all (ofRow read?)

/-- The end of an evaluation is also when the segment was changed last. -/
def updateCommand (id : Uuid) (stats : Segment.Stats) : Bound where
  command := .update table
    [("compiled_filter", 2), ("customer_count", 3), ("last_run", 4), ("updated_at", 4)] ("id", 1)
  values := [.uuid id, .json stats.filter.toJson, .int stats.customerCount,
    .ofInstant stats.lastRun]

def updateStats (id : Uuid) (stats : Segment.Stats) : Query Unit where
  statement := (updateCommand id stats).statement
  read o := if o.affected = 0 then .error (.segmentNotFound id.write) else .ok ()

end Segmentation.Sql.Segments
