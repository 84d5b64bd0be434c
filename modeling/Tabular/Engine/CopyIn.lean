import Tabular.Engine

/-!
# Streams of copy text

A connection that takes copy text is told what the text is for, gets it chunk by chunk, and is told
when it is whole. When the rows cannot be read to their end it is told to give up.
-/

set_option autoImplicit false

namespace Tabular

structure CopyPort (state : Type) where
  start : String → Call state Unit
  send : List UInt8 → Call state Unit
  finish : Call state Nat
  abort : String → Call state Unit

namespace CopyPort

variable {state : Type} (port : CopyPort state)

/-- Send what is left of a source. The failure of a source is the one that is reported, whatever comes
of giving up. -/
def sendAll (source : CopySource) (now : state) : Result Nat × CopySource × state :=
  match _read : source.next with
  | (.error error, after) => (.error error, after, (port.abort error.message now).2)
  | (.ok none, after) =>
    let (outcome, now) := port.finish now
    (outcome, after, now)
  | (.ok (some chunk), after) =>
    match port.send chunk now with
    | (.error error, now) => (.error error, after, now)
    | (.ok (), now) => sendAll after now
termination_by source.unread.length
decreasing_by exact CopySource.length_next_lt _read

def copyText (dialect : Dialect) (table : String) (columns : List String) : String :=
  "COPY " ++ table ++ " (" ++ dialect.nameList columns ++ ") FROM STDIN"

def copy (dialect : Dialect) (table : String) (columns : List String) (source : CopySource)
    (now : state) : Result Nat × CopySource × state :=
  match port.start (copyText dialect table columns) now with
  | (.error error, now) => (.error error, source, now)
  | (.ok (), now) => port.sendAll source now

end CopyPort

end Tabular
