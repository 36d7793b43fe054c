import Rendezvous.Store.Volume

/-!
# Rendezvous.Store.Shelf

A store with the files around it, at a time: what is left when the store is closed and opened
again.
-/

namespace Rendezvous

/-- A store, the files among which its own is, and the time. -/
structure Shelf where
  now : Instant
  store : Option Store
  volume : Volume

namespace Shelf

/-- Takes a store in place of the one there is. -/
def put (s : Shelf) (store : Store) : Shelf := { s with store := some store }

/-- Closes the store. -/
def close (s : Shelf) : Shelf :=
  match s.store with
  | some store =>
    let (volume, store) := s.volume.closeStore store
    { s with volume, store := some store }
  | none => s

/-- Closes the store and opens one, which is there unless it cannot be opened. -/
def reopen (s : Shelf) (location : String) (maxTtl : Duration) : Shelf × Except OpenError Store :=
  let (volume, opened) := s.close.volume.openStore location maxTtl s.now
  ({ s with volume, store := opened.toOption }, opened)

end Shelf

end Rendezvous
