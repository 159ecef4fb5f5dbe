import SqlGateway.Config.Pool
import SqlGateway.Rehearsal.Field
set_option autoImplicit false

/-!
# Rehearsal: the configuration of a pool from its fields

Fields are read one by one, and everything that is wrong with them is reported.  What is
read holds what a configuration promises: that there is room, and that the idle
connections fit.
-/

namespace SqlGateway.PoolConfig

def fieldNames : List String :=
  ["max_size", "min_idle", "idle_timeout", "max_lifetime", "connect_timeout", "checkout_timeout",
    "sweep_interval", "validate_on_checkout"]

/-- The size of a pool. -/
def sizeOf (n : Native) : Except FieldRule Nat := (Field.natOf n).map normalSize

/-- Idle connections within a size; a size that was refused counts as one. -/
def idleWithin (size : Option Nat) (n : Native) : Except FieldRule Nat := do
  let k ← Field.natOf n
  let limit := size.getD 1
  if limit < k then .error (.own (crowdedMessage k limit)) else .ok k

/-- A configuration from its fields; everything that is wrong is reported, field by field and
then what is no field. -/
def ofFields (fields : List (String × Native)) : Except Failure PoolConfig :=
  let d := standard
  let size := Checked.read fields "max_size" d.maxSize sizeOf
  let idle := Checked.read fields "min_idle" d.minIdle (idleWithin size.value)
  let idleTime := Checked.read fields "idle_timeout" d.idleTimeout
    (Field.orNothing Field.positiveOf)
  let lifetime := Checked.read fields "max_lifetime" d.maxLifetime
    (Field.orNothing Field.positiveOf)
  let connect := Checked.read fields "connect_timeout" d.connectTimeout Field.positiveOf
  let checkout := Checked.read fields "checkout_timeout" d.checkoutTimeout Field.notNegativeOf
  let interval := Checked.read fields "sweep_interval" d.sweepInterval
    (Field.orNothing Field.positiveOf)
  let validate := Checked.read fields "validate_on_checkout" d.validateOnCheckout Field.asBool
  let extra := (fields.filter fun f => !fieldNames.contains f.1).map fun f =>
    FieldRule.extra.issue f.1
  let issues := size.issues ++ idle.issues ++ idleTime.issues ++ lifetime.issues ++
    connect.issues ++ checkout.issues ++ interval.issues ++ validate.issues ++ extra
  let config : Option PoolConfig := do
    let maxSize ← size.value
    let minIdle ← idle.value
    let idleTimeout ← idleTime.value
    let maxLifetime ← lifetime.value
    let connectTimeout ← connect.value
    let checkoutTimeout ← checkout.value
    let sweepInterval ← interval.value
    let validateOnCheckout ← validate.value
    if h : 0 < maxSize ∧ minIdle ≤ maxSize then
      some { maxSize, minIdle, idleTimeout, maxLifetime, connectTimeout, checkoutTimeout,
             sweepInterval, validateOnCheckout, room := h.1, fits := h.2 }
    else none
  match issues, config with
  | [], some c => .ok c
  | issues, _ => .error (.settings issues)

/-- The fields as they are given. -/
def toFields (c : PoolConfig) : List (String × Native) :=
  let seconds : Option Binary64 → Native
    | some x => .float x
    | none => .null
  [("max_size", .int c.maxSize), ("min_idle", .int c.minIdle),
    ("idle_timeout", seconds c.idleTimeout), ("max_lifetime", seconds c.maxLifetime),
    ("connect_timeout", .float c.connectTimeout), ("checkout_timeout", .float c.checkoutTimeout),
    ("sweep_interval", seconds c.sweepInterval),
    ("validate_on_checkout", .bool c.validateOnCheckout)]

/-- A configuration cannot be changed. -/
def assign (_ : PoolConfig) (field : String) (_ : Native) : Except Failure PoolConfig :=
  .error (.settings [FieldRule.frozen.issue field])

end SqlGateway.PoolConfig
