import DeclaredScreens.Json.Basic

/-! Lists that have been fetched, under the addresses they were fetched for. Invalidating an
address drops its list and those of its query variants, and tells how many went. -/

namespace DeclaredScreens

structure ListCache where
  lists : Entries Json

namespace ListCache

def empty : ListCache := ⟨[]⟩

def get? (c : ListCache) (key : String) : Option Json := c.lists.lookup key

def store (c : ListCache) (key : String) (list : Json) : ListCache :=
  ⟨Entries.put key list c.lists⟩

/-- Is `key` the address, or the address with a query? -/
def covers (address key : String) : Bool :=
  key = address || (address.toList ++ ['?']).isPrefixOf key.toList

def invalidate (c : ListCache) (address : String) : ListCache :=
  ⟨c.lists.filter fun entry => !covers address entry.1⟩

def invalidated (c : ListCache) (address : String) : Nat :=
  c.lists.length - (c.invalidate address).lists.length

def size (c : ListCache) : Nat := c.lists.length

end ListCache

end DeclaredScreens
