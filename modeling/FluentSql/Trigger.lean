import FluentSql.Value.Fields

set_option autoImplicit false

/-!
# Trigger events

Every statement that an executor runs for a builder is announced before and after. The event is
named after the time, the action and the table, and carries a mapping with these three and what
else there is to tell.

## Main definitions

* `FluentSql.Timing`, `FluentSql.TriggerAction` — the words that builders use.
* `FluentSql.Trigger` — an announcement; `topic` is its name and `payload` what it carries.
-/

namespace FluentSql

/-- Whether an event comes before or after its statement. -/
inductive Timing where
  | before | after
  deriving DecidableEq, Repr, Inhabited

/-- The word for a timing. -/
def Timing.keyword : Timing → String
  | .before => "BEFORE"
  | .after => "AFTER"

/-- What a statement does to its table. -/
inductive TriggerAction where
  | read | insert | update | delete
  deriving DecidableEq, Repr, Inhabited

/-- The word for an action. -/
def TriggerAction.keyword : TriggerAction → String
  | .read => "READ"
  | .insert => "INSERT"
  | .update => "UPDATE"
  | .delete => "DELETE"

/-- The announcement of a statement. The words for the time and the action are not checked. -/
structure Trigger where
  timing : String
  action : String
  table : String
  deriving DecidableEq, Repr, Inhabited

namespace Trigger

/-- The announcement that a builder makes. -/
def of (timing : Timing) (action : TriggerAction) (table : String) : Trigger :=
  { timing := timing.keyword, action := action.keyword, table }

/-- The name of the event. -/
def topic (t : Trigger) : String :=
  "querykit:trigger:" ++ t.timing ++ ":" ++ t.action ++ ":" ++ t.table

/-- What every event carries. -/
def base (t : Trigger) : Fields :=
  [("table", .text t.table), ("action", .text t.action), ("timing", .text t.timing)]

/-- What the event carries: table, action, timing, and then what else there is, under names of its
own. -/
def payload (t : Trigger) (extra : Fields) : Except Error Value :=
  if extra.any fun p => t.base.has p.1 then .error .wrongType
  else .ok (.map (t.base ++ extra))

end Trigger

end FluentSql
