import SqlGateway.Rehearsal.World
set_option autoImplicit false

/-!
# Rehearsal: a scripted database

A client library without an engine behind it.  What a statement answers is looked up
in a list of rules: the first rule whose pattern occurs in the statement and that is
not used up.  A statement may take time; while it does, and only then, it can be
interrupted.
-/

namespace SqlGateway.Rehearsal

open Interchange

/-- What the statements that contain a pattern answer. -/
structure Rule where
  pattern : String
  /-- How often the rule may still be used; without a number, always. -/
  times : Option Nat := none
  reply : Reply
  rows : List (List Native) := []
  failure : Option Failure := none
  takes : Option Seconds := none
  /-- The statement answers even if it is interrupted. -/
  stubborn : Bool := false

/-- A connection to the scripted database. -/
structure Session where
  number : Nat
  dead : Bool := false
  closed : Bool := false
  closeError : Option Failure := none
  threadId : Option Int
  interruptError : Option Failure := none
  /-- An interruption has reached the statement that runs. -/
  interrupted : Bool := false

/-- A cursor and the rule that its statement follows. -/
structure Cursor where
  session : Nat
  rule : Rule := { pattern := "", reply := { rowcount := some (-1) } }

/-- A client library that does as the script says. -/
structure ScriptedDatabase where
  installed : Bool := true
  rules : List Rule := []
  /-- The attempts to connect that fail, counting from one. -/
  connectErrors : List (Nat × Failure) := []
  attempts : Nat := 0
  sessions : List Session := []
  cursors : List Cursor := []

/-- An action beside a scripted database. -/
abbrev Stage := Scene ScriptedDatabase

/-- An action that may fail. -/
abbrev StageTask := Task (World ScriptedDatabase)

/-- Note what reached the database. -/
def note (call : List Document) : Stage Unit := record call

def modifyDatabase (f : ScriptedDatabase → ScriptedDatabase) : Stage Unit :=
  modify fun w => { w with standIn := f w.standIn }

/-- An error of the client library. -/
def clientError (message : String) : Failure :=
  .foreign { kind := .client, text := message, injected := true }

/-! ## Rules -/

/-- The pattern occurs in the text. -/
def occursIn (pattern : List Char) : List Char → Bool
  | [] => pattern.isEmpty
  | c :: rest => pattern.isPrefixOf (c :: rest) || occursIn pattern rest

/-- The first rule that applies to a statement, and the rules once it has been used. -/
def applyRule (sql : List Char) : List Rule → Option (Rule × List Rule)
  | [] => none
  | r :: rest =>
    if r.times != some 0 && occursIn r.pattern.toList sql then
      some (r, { r with times := r.times.map (· - 1) } :: rest)
    else (applyRule sql rest).map fun found => (found.1, r :: found.2)

/-! ## Sessions -/

def session (number : Nat) : Stage Session := do
  let found := (← get).standIn.sessions.find? fun s => s.number == number
  return found.getD { number, threadId := none }

def modifySession (number : Nat) (f : Session → Session) : Stage Unit :=
  modifyDatabase fun d =>
    { d with sessions := d.sessions.map fun s => if s.number == number then f s else s }

def connectScripted (positional : List Native) (named : List (String × Native)) :
    StageTask Nat := do
  modifyDatabase fun d => { d with attempts := d.attempts + 1 }
  let d := (← get).standIn
  note (.text "connect" :: .integer d.attempts :: (writeNatives positional ++ [writeFields named]))
  match d.connectErrors.find? fun e => e.1 == d.attempts with
  | some (_, f) => throw f
  | none =>
    let new : Session := { number := d.attempts, threadId := some (100 + d.attempts) }
    modifyDatabase fun d => { d with sessions := d.sessions ++ [new] }
    return new.number

/-- Fail if the connection is dead. -/
def requireAlive (number : Nat) : StageTask Unit := do
  if (← session number).dead then throw (clientError "connection lost")

/-- A second connection kills the statement of the first one, by its number. -/
def killed? (sql : String) : Option Int :=
  let start := "KILL QUERY ".toList
  if start.isPrefixOf sql.toList then (String.ofList (sql.toList.drop start.length)).toInt?
  else none

/-- Note an interruption of the connection with a number of the engine's. -/
def killThread (thread : Int) : Stage Unit :=
  modifyDatabase fun d =>
    { d with sessions := d.sessions.map fun s =>
        if s.threadId == some thread then { s with interrupted := true } else s }

/-! ## Statements -/

def cursorAt (cursor : Nat) : Stage Cursor := do
  return ((← get).standIn.cursors[cursor]?).getD { session := 0 }

def openCursor (number : Nat) : StageTask Nat := do
  let cursor := (← get).standIn.cursors.length
  modifyDatabase fun d => { d with cursors := d.cursors ++ [{ session := number }] }
  return cursor

/-- Start a statement: it follows the first rule that applies. -/
def sendScripted (cursor : Nat) (sql : String) (params : List Native) : StageTask Unit := do
  let c ← cursorAt cursor
  note [.text "execute", .integer c.session, .text sql, .list (writeNatives params)]
  requireAlive c.session
  modifySession c.session fun s => { s with interrupted := false }
  match applyRule sql.toList (← get).standIn.rules with
  | none => return
  | some (rule, rules) =>
    modifyDatabase fun d =>
      { d with rules, cursors := d.cursors.set cursor { c with rule } }

/-- Wait until a statement is over, or until the alarm if it comes before that. -/
def awaitScripted (cursor : Nat) (alarm : Option Seconds) : Stage Bool := do
  match (← cursorAt cursor).rule.takes with
  | none => return false
  | some t =>
    let finish := (← get).clock + t
    match alarm with
    | some a =>
      modify fun w => { w with clock := w.clock.later (a.earlier finish) }
      return a < finish
    | none =>
      modify fun w => { w with clock := finish }
      return false

/-- What a statement came to. -/
def replyScripted (cursor : Nat) : StageTask Reply := do
  let c ← cursorAt cursor
  let s ← session c.session
  if c.rule.takes.isSome && s.interrupted && !c.rule.stubborn then
    throw (clientError "interrupted")
  else
    match c.rule.failure with
    | some f => throw f
    | none => return c.rule.reply

/-- Send a statement and learn what it came to; a kill reaches its victim. -/
def executeScripted (number : Nat) (sql : String) : StageTask Unit := do
  let cursor ← openCursor number
  sendScripted cursor sql []
  let _ ← awaitScripted cursor none
  let _ ← replyScripted cursor
  return

/-- The scripted database as a client library. -/
def scriptedClient (installed : Bool) : Client (World ScriptedDatabase) where
  installed
  connect := connectScripted
  executeDirect := executeScripted
  setAutocommit number on := note [.text "autocommit", .integer number, .bool on]
  setReadonly number :=
    note [.text "set_session", .integer number, .tagged "readonly" (.bool true)]
  registerUuid number := note [.text "register_uuid", .integer number]
  cursor := openCursor
  send cursor sql params := do
    sendScripted cursor sql params
    match killed? sql with
    | some thread =>
      if (← cursorAt cursor).rule.failure.isNone then killThread thread
    | none => return
  await := awaitScripted
  reply := replyScripted
  fetchAll cursor := do return (← cursorAt cursor).rule.rows
  closeCursor _ := return
  ping number := do
    note [.text "ping", .integer number, .bool false]
    requireAlive number
  threadId number := do return (← session number).threadId
  isClosed number := do return (← session number).closed
  interrupt number := do
    note [.text "interrupt", .integer number]
    match (← session number).interruptError with
    | some f => throw f
    | none => modifySession number fun s => { s with interrupted := true }
  close number := do
    note [.text "close", .integer number]
    modifySession number fun s => { s with closed := true }
    match (← session number).closeError with
    | some f => throw f
    | none => return

/-! ## Reading the script -/

def readRule (d : Document) : Attempt Rule := do
  let rows ← (d.itemsAt "rows").mapM fun row => readNatives row.asItems
  let failure ← injectedAt d "raise"
  let rowcount : Option Int := match d.field? "rowcount" with
    | none => some (-1)
    | some .null => none
    | some n => some n.asInt
  return {
    pattern := d.textAt "match"
    times := (d.present? "times").map fun n => n.asInt.toNat
    reply := { columns := d.textsAt "columns", rowcount,
               lastRowId := (d.present? "lastrowid").map Document.asInt }
    rows, failure
    takes := d.double? "takes"
    stubborn := d.textAt "interrupted" == "ok" }

def readDatabase (d : Document) : Attempt ScriptedDatabase := do
  let rules ← (d.itemsAt "script").mapM readRule
  let connectErrors ← readNumbered (d.field "connect_errors")
  return { installed := d.textAt "module" != "missing", rules, connectErrors }

/-- A failure that a change replaces if it names one. -/
def changedFailure (fields : Document) (key : String) (old : Option Failure) :
    Attempt (Option Failure) :=
  match fields.field? key with
  | some _ => injectedAt fields key
  | none => .ok old

/-- A flag that a change replaces if it names one. -/
def changedFlag (fields : Document) (key : String) (old : Bool) : Bool :=
  match fields.field? key with
  | some (.bool b) => b
  | some d => d.asNumber != 0
  | none => old

/-- Change a connection as the script says. -/
def changeSession (fields : Document) (s : Session) : Attempt Session := do
  let closeError ← changedFailure fields "close_error" s.closeError
  let interruptError ← changedFailure fields "interrupt_error" s.interruptError
  let threadId := match fields.field? "connection_id" with
    | some .null => none
    | some n => some n.asInt
    | none => s.threadId
  return { s with
    dead := changedFlag fields "dead" s.dead
    closed := changedFlag fields "closed" s.closed
    closeError, interruptError, threadId }

/-- Change a connection by number. -/
def setSession (number : Nat) (fields : Document) : Stage (Attempt Document) := do
  if (← get).standIn.sessions.any fun s => s.number == number then
    match changeSession fields (← session number) with
    | .error f => return .error f
    | .ok changed =>
      modifySession number fun _ => changed
      return .ok .null
  else return .error unbound

end SqlGateway.Rehearsal
