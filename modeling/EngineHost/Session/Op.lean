import EngineHost.Foreign
import EngineHost.Hosting.Directory
import EngineHost.Session.Program
/-
The operations of a session, their answers, and the events they leave behind.
Callbacks are programs over the same operations, so whatever a session can do a
callback can do while it runs.
-/
namespace EngineHost

inductive Answer where
  | ok
  | nothing
  /-- An operation named a handle or a record that does not exist. -/
  | noSuchName
  | id (id : EngineId)
  | number (value : Int32)
  | flag (value : Bool)
  | count (value : Nat)
  | text (text : String)
  | names (names : List String)
  | bytes (bytes : ByteArray)
  | payload (bytes : ByteArray)
  | memory (bytes : ByteArray)
  | trace (result : TraceResult)
  | binary (binary : Option Guest.Binary)
  | imports (imports : List (String × CallShape))
  | shape (shape : CallShape)
  | config (config : TracerConfig)
  | record (record : Option RecordView)
  | filed (record : Option RecordView)
  | fault (cause : BindingFault)
  | engineError (cause : EngineError)
  | hostError (cause : HostError)

inductive Event where
  /-- A callback was called. -/
  | called (tag : String) (args : List Int64)
  /-- A callback got the answer to one of its own operations. -/
  | answered (answer : Answer)
  | logged (tag item : String)
  | reported (cause : BindingFault)
  /-- A standalone entry was called. -/
  | entered (id : EngineId) (name : String) (call : RawCall)
  | delivered (id : EngineId) (item : ByteArray)

/-- Operations on a handle.  `ρ` is what callbacks are. -/
inductive HandleOp (ρ : Type) where
  | create (foreign : Nat)
  | attach (foreign : Nat) (id : EngineId)
  | copy (target : String)
  | install (binary : Guest.Binary)
  | compute
  | memory
  | read (offset length : UInt32)
  | patch (offset length : UInt32) (data : ByteArray)
  | register (name : String) (function : HostFunction ρ)
  | subscribe (subscriber : String → ρ)
  | unsubscribe
  | functions
  | debug

/-- Operations on a foreign engine, past the host. -/
inductive ForeignOp where
  | create
  | install (id : EngineId) (binary : Guest.Binary)
  | compute (id : EngineId)
  | memory (id : EngineId)
  | patch (id : EngineId) (offset length : UInt32) (data : ByteArray)
  | execute (binary : Guest.Binary)
  | bind (id : EngineId) (name : String) (binding : Binding)
  | listen (id : EngineId) (entry : LogEntry)
  | config

/-- Operations that only a scripted engine has. -/
inductive ScriptedOp where
  | setOutput (id : EngineId) (payload : ByteArray)
  | refuse (id : EngineId)
  | binary (id : EngineId)
  | imports (id : EngineId)
  | armed (id : EngineId)
  | call (id : EngineId) (name : String) (call : GuestCall)
  | emit (id : EngineId) (item : ByteArray)

/-- Operations on a directory of one's own, and on the records made for it. -/
inductive DeskOp (ρ : Type) where
  | make (record : String) (id : EngineId)
  | insert (record : String)
  | lookup (id : EngineId)
  | contains (id : EngineId)
  | size
  | register (record name : String) (function : HostFunction ρ)
  | function (record name : String)
  | names (record : String)
  | subscribe (record : String) (subscriber : String → ρ)
  | unsubscribe (record : String)
  | debug (record : String)
  | dispatch (id : EngineId) (name : String) (call : RawCall)
  | deliver (id : EngineId) (item : ByteArray)

inductive Op where
  | handle (name : String) (op : HandleOp (Program Op Answer Event))
  | foreign (index : Nat) (op : ForeignOp)
  | scripted (index : Nat) (op : ScriptedOp)
  | desk (op : DeskOp (Program Op Answer Event))
  /-- Run a binary in an engine made for it, and decode what comes out. -/
  | executeBinary (index : Nat) (binary : Guest.Binary)
  | enter (id : EngineId) (name : String) (call : RawCall)
  | deliver (id : EngineId) (item : ByteArray)
  /-- The record that the host has filed for an engine. -/
  | filed (id : EngineId)
  | setHandler (handler : BindingFault → Program Op Answer Event)
  | clearHandler

abbrev Callback := Program Op Answer Event

end EngineHost
