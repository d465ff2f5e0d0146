import QueryWarden.Net.Url

/-!
# The network

Whether a host can be reached is decided outside the library, which only asks.
-/

namespace QueryWarden.Net

/-- For a host and a port: nothing if a connection comes about, or why it does not. -/
abbrev Network := List Char → Nat → Option String

end QueryWarden.Net
