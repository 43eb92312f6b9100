import EngineHost.Call.Entry
import EngineHost.Tracer.Admission
import EngineHost.Witness.Outcome
/-
Linking: giving every import of a module a definition.  A bound name is served
by its binding.  Any other name has to be one of the two halting imports.  The
definitions are collected first, under one name each, and the imports are
matched against them afterwards.
-/
namespace EngineHost

inductive Definition where
  | bound (binding : Binding)
  | halting (halt : Halt)

/-- A definition in the import space, and its type there. -/
structure Linked where
  name : String
  type : Guest.FuncType
  definition : Definition

/-- The type under which a guest sees a function of this shape. -/
def CallShape.funcType (s : CallShape) : Guest.FuncType :=
  { params := List.replicate s.paramCount (if s.isWide then .i64 else .i32)
    results := if s.returnsValue then [.i32] else [] }

/-- Stopping wins if both halting imports have the same name. -/
def haltOf? (config : TracerConfig) (name : String) : Option Halt :=
  if name = config.stopImport then some .stop
  else if name = config.revertImport then some .revert
  else none

/-- Add a definition.  A name can be defined only once. -/
def define (config : TracerConfig) (defined : List Linked) (new : Linked) :
    Except EngineError (List Linked) :=
  if defined.any (·.name = new.name) then
    .error (.link ("bind '" ++ new.name ++ "': import of `" ++ config.importSpace ++ "::" ++
      new.name ++ "` defined twice"))
  else .ok (defined ++ [new])

/-- Define what one import asks for. -/
def bindImport (config : TracerConfig) (bindings : Bindings) (defined : List Linked)
    (i : Guest.Import) : Except EngineError (List Linked) :=
  match bindings[i.name]? with
  | some binding =>
    define config defined
      { name := i.name, type := binding.shape.funcType, definition := .bound binding }
  | none =>
    match haltOf? config i.name with
    | none =>
      .error (.link ("import '" ++ qualifiedName i ++ "' has no registered host function"))
    | some halt =>
      match i.kind with
      | .func type => define config defined { name := i.name, type, definition := .halting halt }
      | _ => .error (.link ("import '" ++ qualifiedName i ++ "' must be a function"))

def bindImports (config : TracerConfig) (bindings : Bindings) (imports : List Guest.Import) :
    Except EngineError (List Linked) :=
  imports.foldlM (bindImport config bindings) []

/-- Find the definition of an import, by space and name. -/
def resolveImport (config : TracerConfig) (defined : List Linked) (i : Guest.Import) :
    Except EngineError Linked :=
  match if i.space = config.importSpace then defined.find? (·.name = i.name) else none with
  | some l => .ok l
  | none =>
    .error (.link ("instantiate: unknown import: `" ++ qualifiedName i ++ "` has not been defined"))

def checkImport (i : Guest.Import) (l : Linked) : Except EngineError Unit :=
  if i.kind = .func l.type then .ok ()
  else .error (.link ("instantiate: incompatible import type for `" ++ qualifiedName i ++ "`"))

/-- The smallest memory a module can run with must be within the limit. -/
def checkMemory (config : TracerConfig) (m : Guest.Module) : Except EngineError Unit :=
  m.memories.forM fun type =>
    if type.min * Guest.pageSize ≤ config.maxMemoryBytes then .ok ()
    else
      .error (.link ("instantiate: memory minimum size of " ++ toString type.min ++
        " pages exceeds memory limits"))

/-- The definitions of a module's imports, in the order of the imports. -/
def link (config : TracerConfig) (bindings : Bindings) (m : Guest.Module) :
    Except EngineError (List Linked) := do
  let defined ← bindImports config bindings m.imports
  let linked ← m.imports.mapM (resolveImport config defined)
  (m.imports.zip linked).forM fun (i, l) => checkImport i l
  checkMemory config m
  return linked

end EngineHost
