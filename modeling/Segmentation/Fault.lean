import Segmentation.Database.Fault

namespace Segmentation

inductive Fault where
  | database (f : Database.Fault)
  | notFound (entity id : String)
  | alreadyExists (entity field value : String)
  | configuration (text : String)
  | validation (text : String)
  | internal (text : String)
  deriving DecidableEq, Repr

namespace Fault

def code : Fault → String
  | database _ => "DATABASE_ERROR"
  | notFound _ _ => "NOT_FOUND"
  | alreadyExists _ _ _ => "ALREADY_EXISTS"
  | configuration _ => "CONFIG_ERROR"
  | validation _ => "VALIDATION_ERROR"
  | internal _ => "INTERNAL_ERROR"

def message : Fault → String
  | database f => "数据库错误: " ++ f.message
  | notFound entity id => "记录未找到: " ++ entity ++ " id=" ++ id
  | alreadyExists entity field value => "记录已存在: " ++ entity ++ " " ++ field ++ "=" ++ value
  | configuration text => "配置错误: " ++ text
  | validation text => "参数验证失败: " ++ text
  | internal text => "内部错误: " ++ text

/-- Only faults of a database pass by themselves. -/
def isRetryable : Fault → Bool
  | database f => f.isPassing
  | _ => false

end Fault

end Segmentation
