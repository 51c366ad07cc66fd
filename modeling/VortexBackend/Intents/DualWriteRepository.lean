/-
Module: VortexBackend.Intents.DualWriteRepository
Purpose: The dual-write adapter: what the in-memory store wrote is mirrored to Postgres, in any order.
Trusted boundary: a mirror write is applied in one transaction; failed mirror writes, backfill, deletion and the
  idempotent insert are left out
Main exports: DualWrite.deliver
-/
import VortexBackend.Intents.PrismaRepository
import VortexBackend.Sequential.Run

namespace VortexBackend

namespace DualWrite

/-- `mirrored`: a written record is sent on; a conflict or `null` is not. -/
def mirrored (result : MutationResult) : MutationResult × Option Intent := (result, result.toOption)

/-- One operation: the outcome of the primary store, and the record to mirror. -/
def apply (primary : IntentStore) (op : IntentsOperation) : (MutationResult × Option Intent) × IntentStore :=
  (mirrored (primary.apply op).1, (primary.apply op).2)

/-- The mirror writes that a run issues, in the order of the operations. -/
def mirrorWrites (primary : IntentStore) (ops : List IntentsOperation) : List Intent :=
  (Component.run apply primary ops).1.filterMap (·.2)

/-- Postgres after mirror writes, in the order in which they arrive. -/
def deliver (secondary : IntentTable) (arrivals : List Intent) : IntentTable :=
  arrivals.foldl IntentTable.saveIfNewer secondary

end DualWrite

end VortexBackend
