import Segmentation.Fault
import Segmentation.Json

namespace Segmentation

inductive Failure where
  | unauthorized (text : String)
  | validation (text : String)
  | invalidRules (errors : List String)
  | nameTaken (name : String)
  | segmentNotFound (id : String)
  | database (f : Database.Fault)
  | internal (text : String)
  deriving DecidableEq, Repr

namespace Failure

def code : Failure → String
  | unauthorized _ => "UNAUTHORIZED"
  | validation _ => "VALIDATION_ERROR"
  | invalidRules _ => "INVALID_RULES"
  | nameTaken _ => "SEGMENT_NAME_TAKEN"
  | segmentNotFound _ => "SEGMENT_NOT_FOUND"
  | database _ => "DATABASE_ERROR"
  | internal _ => "INTERNAL_ERROR"

def message : Failure → String
  | unauthorized text => "未授权: " ++ text
  | validation text => text
  | invalidRules _ => "Invalid query rules"
  | nameTaken name => "A segment with this name already exists: " ++ name
  | segmentNotFound id => "Segment not found: " ++ id
  | database f => "数据库错误: " ++ f.message
  | internal text => "内部错误: " ++ text

def status : Failure → Nat
  | unauthorized _ => 401
  | validation _ | invalidRules _ => 400
  | nameTaken _ => 409
  | segmentNotFound _ => 404
  | database _ | internal _ => 500

def maskedMessage : String := "服务内部错误，请稍后重试"

def publicMessage (f : Failure) : String :=
  if f.status = 500 then maskedMessage else f.message

def toJson (f : Failure) : Json :=
  let errors := match f with
    | invalidRules errors => [("errors", .arr (errors.map .str))]
    | _ => []
  .obj ([("success", .bool false), ("code", .str f.code), ("message", .str f.publicMessage),
    ("data", .null)] ++ errors)

def ofFault : Fault → Failure
  | .database f => .database f
  | .validation text => .validation text
  | .notFound _ id => .segmentNotFound id
  | .alreadyExists _ _ value => .nameTaken value
  | .configuration text => .internal (Fault.configuration text).message
  | .internal text => .internal (Fault.internal text).message

end Failure

end Segmentation
