/-!
# Words

The numbers that words of a fixed width cannot hold any more.
-/

namespace RemoteRun
namespace Word

/-- First number that needs more than 32 bits. -/
def bound32 : Nat := 4294967296

/-- First number that needs more than 63 bits. -/
def bound63 : Nat := 9223372036854775808

/-- First number that needs more than 64 bits. -/
def bound64 : Nat := 18446744073709551616

end Word
end RemoteRun
