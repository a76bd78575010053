import Pinning.Resolver.Schedule
/-!
Answers that list their platforms in any order. The order of a record means nothing and is settled
anew with every answer, so the same question, asked again, may bring the same platforms in another
order.
-/

set_option autoImplicit false
set_option relaxedAutoImplicit false

namespace Pinning

namespace Search

/-- Another order for the platforms of every record. -/
structure Listing where
  legacy : PlatformMap LegacyEntry → PlatformMap LegacyEntry
  enriched : PlatformMap EnrichedEntry → PlatformMap EnrichedEntry
  perm_legacy : ∀ systems, (legacy systems).entries.Perm systems.entries
  perm_enriched : ∀ systems, (enriched systems).entries.Perm systems.entries

namespace Listing

def asGiven : Listing := ⟨id, id, fun _ => .refl _, fun _ => .refl _⟩

def ofLegacy (listing : Listing) (record : LegacyRecord) : LegacyRecord :=
  { record with systems := listing.legacy record.systems }

def ofEnriched (listing : Listing) (record : EnrichedRecord) : EnrichedRecord :=
  { record with systems := listing.enriched record.systems }

end Listing

end Search

namespace Resolver

open Search (Listing)

/-- The resolver whose search service lists the platforms of its records in another order. -/
def listing (r : Resolver) (order : Listing) : Resolver :=
  { r with
    services :=
      { r.services with
        single := fun name version => do
          pure ((← r.services.single name version).map order.ofLegacy)
        versioned := fun name version => do
          pure ((← r.services.versioned name version).map order.ofEnriched) } }

/-- One step of specs that are resolved together. The answer that it may bring lists its platforms
in some order, whatever the order was before. -/
def FreeStep (r : Resolver) (strategy : Strategy) (batch next : Batch) : Prop :=
  ∃ order, Step (r.listing order) strategy batch next

/-- Specs that are resolved together can get from one state to another, in any orders of platforms.
-/
def FreelyReaches (r : Resolver) (strategy : Strategy) : Batch → Batch → Prop :=
  Relation.ReflTransGen (FreeStep r strategy)

end Resolver

end Pinning
