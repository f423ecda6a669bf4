import StreamAudit.Json.Basic

/-!
Series of one audit id, before and after they are rolled up. A raw point carries the key under which
a backend summed it, which may be any value; a bucket carries a label and the average delay.
-/

set_option autoImplicit false
set_option relaxedAutoImplicit false

namespace StreamAudit

/-- A summed count and delay under one key. -/
structure Point where
  key : Json
  count : Int
  delay : Int
deriving BEq

/-- The raw points of one audit id. -/
structure Series where
  auditId : String
  nodeType : Option String
  points : List Point
deriving BEq

/-- A labelled count with its average delay. -/
structure Bucket where
  label : String
  count : Int
  delay : Int
deriving DecidableEq, Repr

/-- The buckets of one audit id. -/
structure Report where
  auditId : String
  nodeType : Option String
  buckets : List Bucket
deriving DecidableEq, Repr

end StreamAudit
