import Segmentation.Filter.Codec
import Segmentation.Service

namespace Segmentation.Http.Answer

def instant (t : Instant) : Json := .str t.write

def success (message : String) (data : Json) : Json :=
  .obj [("success", .bool true), ("code", .str "SUCCESS"), ("message", .str message),
    ("data", data)]

def done (data : Json) : Json := success "操作成功" data

def created (data : Json) : Json := success "Segment created successfully" data

def customer (now : Instant) (c : Customer) : Json :=
  .obj [("id", .str c.id.write), ("name", .str c.name), ("email", .str c.email),
    ("spend", Json.ofFloat c.spend), ("visits", .int c.visits),
    ("lastOrderDate", Json.ofOption instant c.lastOrder),
    ("inactiveDays", Json.ofOption .int (c.inactiveDays now))]

def customers (s : Service.Selection) : Json :=
  .arr (s.customers.map (customer s.evaluatedAt))

def preview (s : Service.Selection) : Json :=
  .obj [("count", .int s.count), ("sample", customers s)]

def audience (id : Uuid) (s : Service.Selection) : Json :=
  .obj [("segmentId", .str id.write), ("count", .int s.count), ("customers", customers s)]

def newSegment (s : Segment) : Json :=
  .obj [("id", .str s.id.write), ("name", .str s.name),
    ("customerCount", Json.ofOption .int s.customerCount), ("createdAt", instant s.createdAt)]

def summary (s : Segment) : Json :=
  .obj [("id", .str s.id.write), ("name", .str s.name),
    ("customerCount", Json.ofOption .int s.customerCount), ("createdAt", instant s.createdAt),
    ("lastRun", Json.ofOption instant s.lastRun)]

def detail (s : Segment) : Json :=
  .obj [("id", .str s.id.write), ("name", .str s.name),
    ("description", Json.ofOption .str s.description), ("rules", s.rules),
    ("compiledFilter", s.filter.toJson), ("customerCount", Json.ofOption .int s.customerCount),
    ("isActive", .bool s.isActive), ("createdAt", instant s.createdAt),
    ("updatedAt", instant s.updatedAt), ("lastRun", Json.ofOption instant s.lastRun)]

def tally (t : Service.Tally) : Json :=
  .obj [("refreshed", .int t.refreshed), ("failed", .int t.failed)]

def serviceName : String := "segment-service"

def alive : Json :=
  .obj [("status", .str "ok"), ("service", .str serviceName)]

/-- Whether the service can work: it cannot where a database is wanted and does not answer. -/
def isReady (database : Option Bool) : Bool :=
  database.getD true

def readiness (database : Option Bool) : Json :=
  let status := if isReady database then "ok" else "degraded"
  let check := match database with
    | none => "skipped"
    | some true => "ok"
    | some false => "fail"
  .obj [("status", .str status), ("service", .str serviceName),
    ("checks", .obj [("database", .str check)])]

end Segmentation.Http.Answer
