import StreamAudit.Address
import StreamAudit.Backend.Outcome
import StreamAudit.Item

/-!
Everything that can go wrong in a call of the service, by cause, with its wording.
-/

set_option autoImplicit false
set_option relaxedAutoImplicit false

namespace StreamAudit

/-- Why a call has no answer. -/
inductive Fault where
  | unsupported (key : ItemKey)
  | failed (cause : Backend.Failure)
  | broken (cause : Backend.Breakdown)
  | noOnlineSource
  | noGroup (groupId : String)
  | noSourceStore
  | unreachable
  | noTable
  | clash
  | numberTooLarge
  | numberTooLong
  | unknownColumn
  | badMoment
  | badFlag
  | badValue
  | busy
  | address (cause : Address.Fault)
  | unopened (cause : Backend.Unopened)
  | badNode
deriving DecidableEq, Repr

namespace Fault

/-- What is said about a fault. -/
def message : Fault → String
  | .unsupported key =>
    "audit id for type=" ++ key.type ++ " (" ++ key.direction.name ++ ") is not supported"
  | .failed cause => cause.message
  | .broken _ => "the audit query broke down"
  | .noOnlineSource => "no online audit source"
  | .noGroup groupId => "data group " ++ groupId ++ " does not exist"
  | .noSourceStore => "audit source store is not configured"
  | .unreachable => "the store cannot be reached"
  | .noTable => "a table is missing"
  | .clash => "a row clashes with another"
  | .numberTooLarge => "a number does not fit 64 bits"
  | .numberTooLong => "a number has too many digits"
  | .unknownColumn => "a row has a column that its table lacks"
  | .badMoment => "a moment cannot be read"
  | .badFlag => "a flag is neither true nor false"
  | .badValue => "a value cannot be stored"
  | .busy => "the connection is in use"
  | .address _ => "the address of the source cannot be read"
  | .unopened .unnamed => Backend.Absence.noWarehouse.message
  | .unopened _ => "the warehouse cannot be opened"
  | .badNode => "the address of the search index cannot be read"

/-- Whether a fault is one of the service's own, which the command line reports in a line. -/
def isReported : Fault → Bool
  | .unsupported _ | .failed _ | .noOnlineSource | .noGroup _ => true
  | _ => false

end Fault

end StreamAudit
