import EngineHost.Guest.Module
/-
Settings of a tracing engine: its limits, the names it looks for in a guest,
and what goes into a trace.
-/
namespace EngineHost

structure TracerConfig where
  /-- Without a limit nothing is metered. -/
  fuelLimit : Option Nat := none
  maxMemoryPages : UInt32 := 256
  /-- The name every import has to come from. -/
  importSpace : String := "env"
  /-- The export that a trace runs. -/
  entryExport : String := "main"
  /-- The import that ends an execution as stopped. -/
  stopImport : String := "_evm_stop"
  /-- The import that ends an execution as reverted. -/
  revertImport : String := "_evm_revert"
  /-- Whether a trace holds the memory that the guest started with. -/
  recordGlobalMemory : Bool := true

namespace TracerConfig

def maxMemoryBytes (c : TracerConfig) : Nat := c.maxMemoryPages.toNat * Guest.pageSize

end TracerConfig

/-- The export under which a guest shows its memory. -/
def memoryExport : String := "memory"

end EngineHost
