/-!
# Sinks

A sink takes the output of a run.  What it has taken is always a first part of
what it was offered.  It may fail a write, after taking some of the bytes, and
it may fail to flush.  How it answers is a function of all that it was asked
before, so it may count its writes or remember where one ended.  Two sinks with
the same answers behave alike.

A text without bytes is never offered, so printing it cannot fail.
-/

namespace RegisterMachine

/-- What a sink is asked to do. -/
inductive Sink.Request where
  /-- To take some bytes, at least one. -/
  | take (bytes : ByteArray)
  /-- To pass on what it has taken. -/
  | flush

/-- How a sink answers bytes that are offered to it. -/
inductive Reception where
  | whole
  /-- It takes the first `kept` of them and fails for the given reason. -/
  | cut (kept : Nat) (reason : String)
deriving DecidableEq

/-- A place for output. -/
structure Sink where
  taken : ByteArray := .empty
  /-- What the sink was asked so far, the latest request first. -/
  history : List Sink.Request := []
  /-- The answer to an offer of bytes, given the requests before it. -/
  receive : List Sink.Request → ByteArray → Reception := fun _ _ => .whole
  /-- Why a flush fails, if it does, given the requests before it. -/
  flushFailure : List Sink.Request → Option String := fun _ => none

namespace Sink

/-- The number of bytes that the requests so far have offered. -/
def offered : List Request → Nat
  | [] => 0
  | .take bytes :: history => bytes.size + offered history
  | .flush :: history => offered history

def flushes (sink : Sink) : Nat := sink.history.countP (· matches .flush)

def unbounded : Sink := {}

/-- A sink that takes the given number of bytes in all and fails when it is full. -/
def capped (capacity : Nat) (reason : String) : Sink where
  receive history bytes :=
    if offered history + bytes.size ≤ capacity then .whole
    else .cut (capacity - offered history) reason

/-- Offers a text to a sink. -/
def write (sink : Sink) (text : String) : Except String Unit × Sink :=
  let bytes := text.toUTF8
  if bytes.isEmpty then (.ok (), sink)
  else
    let history := .take bytes :: sink.history
    match sink.receive sink.history bytes with
    | .whole => (.ok (), { sink with taken := sink.taken ++ bytes, history })
    | .cut kept reason =>
      (.error reason, { sink with taken := sink.taken ++ bytes.extract 0 kept, history })

/-- Asks a sink to pass on what it has taken. -/
def flush (sink : Sink) : Except String Unit × Sink :=
  let flushed := { sink with history := .flush :: sink.history }
  match sink.flushFailure sink.history with
  | none => (.ok (), flushed)
  | some reason => (.error reason, flushed)

end Sink

end RegisterMachine
