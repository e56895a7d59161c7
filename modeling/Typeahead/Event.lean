import Typeahead.Value

namespace Typeahead

/-! What was asked of the surroundings: the editor, the network, other engines and the machine. A session
keeps these events in order. -/

/-- How a message to the completion server goes out. -/
inductive Delivery where
  /-- Sent at once, and waited for. -/
  | direct
  /-- Handed to the pool that sends messages. -/
  | queued
  /-- Handed to the pool, which never gets to it. -/
  | pending
  deriving DecidableEq, Repr

inductive Event where
  | evaluate (expression : String)
  | command (text : String)
  | message (delivery : Delivery) (method address : String) (body timeout : Value)
  | query (address : String) (parameters : List (String × String))
  /-- A source file was opened in the analysis engine. -/
  | analysis (contents line column path : Value)
  | definitions
  | assignments
  /-- A question to the semantic engine, by its name and arguments. -/
  | semantic (question : String) (arguments : List Value)
  /-- A call to the compiler front end, as texts. -/
  | frontend (call : List String)
  /-- A process was launched, which is taken to succeed. -/
  | launch (arguments : Value)
  | terminate
  | thread
  | sleep (seconds : Value)
  | header (name value : String)
  | install (plugin : String)
  | kill (process signal : Value)
  | openProcess (process : Value)
  | terminateProcess
  | closeHandle
  /-- A function of a configuration file was called. -/
  | conf (name : String)
  | database (path : String)
  /-- The completer's own engine was asked for candidates. -/
  | inner
  | call (arguments : List Value)
  | hook (remaining : Nat) (fault : String) (delay : Value)
  | callback (name future : String)
  | bind (host : String) (port : Value)
  | close
  | logging (level : Int)
  | newSession
  | handleSignal (signal : Int)
  | serve (host : String) (port threads : Int)
  | run (program : String)

end Typeahead
