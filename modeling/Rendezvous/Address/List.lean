import Rendezvous.Address.Multiaddr
import Rendezvous.Text.Blank

/-!
# Rendezvous.Address.List

Lists of addresses with commas between them. Blanks around an entry do not count, empty
entries are skipped, and the first bad entry spoils the list.
-/

namespace Rendezvous

/-- An entry that is no address. -/
structure AddressListError where
  entry : String
  cause : MultiaddrError
deriving Repr, DecidableEq

/-- The wording of an error. -/
def AddressListError.message (e : AddressListError) : String :=
  "invalid multiaddress '" ++ e.entry ++ "': " ++ e.cause.message

namespace Multiaddr

/-- Reads one entry. -/
def parseEntry (entry : String) : Except AddressListError Multiaddr :=
  (parse entry).mapError (⟨entry, ·⟩)

/-- The entries of a list. -/
def entries (s : String) : List String :=
  ((s.splitOn ",").map Text.trim).filter (! ·.isEmpty)

/-- Reads a list. -/
def parseList (s : String) : Except AddressListError (List Multiaddr) :=
  (entries s).mapM parseEntry

end Multiaddr

end Rendezvous
