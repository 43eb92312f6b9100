import EngineHost.Fault
import EngineHost.Tracer.Config
/-
Which modules a tracing engine accepts.  The entry export has to be a function
that takes and gives nothing, and every import has to be a function from the
one space that imports may come from.  The entry is looked at first, then the
imports in order.
-/
namespace EngineHost

/-- Imports of the system interface are refused under that name. -/
def isSystemSpace (space : String) : Bool := "wasi".toList.isPrefixOf space.toList

def qualifiedName (i : Guest.Import) : String := i.space ++ "::" ++ i.name

def approveEntry (config : TracerConfig) (m : Guest.Module) : Except EngineError Unit :=
  let name := config.entryExport
  match m.export? name with
  | none => .error (.validation ("missing entry export: " ++ name))
  | some e =>
    let type? := match e.kind with
      | .func => m.funcType? e.index
      | _ => none
    match type? with
    | none => .error (.validation ("export '" ++ name ++ "' must be a function"))
    | some type =>
      if type.params.isEmpty && type.results.isEmpty then .ok ()
      else
        .error (.validation ("export '" ++ name ++ "' must have type () -> (), got " ++
          toString type.params.length ++ " params and " ++
          toString type.results.length ++ " results"))

def approveImport (config : TracerConfig) (i : Guest.Import) : Except EngineError Unit :=
  if isSystemSpace i.space then
    .error (.validation ("WASI import not allowed: " ++ qualifiedName i))
  else if i.space ≠ config.importSpace then
    .error (.validation ("import from disallowed module '" ++ i.space ++ "': " ++ qualifiedName i))
  else if i.kind.func?.isNone then
    .error (.validation ("import '" ++ qualifiedName i ++ "' must be a function"))
  else .ok ()

def approve (config : TracerConfig) (m : Guest.Module) : Except EngineError Unit := do
  approveEntry config m
  m.imports.forM (approveImport config)

end EngineHost
