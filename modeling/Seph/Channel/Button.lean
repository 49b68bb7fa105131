import Seph.Bytes
import Seph.Model

/-!
# The button channel

Each byte is a command of its own: a letter for the button, in upper case for a press and in lower
case for a release. All other bytes are passed over.
-/

namespace Seph.ButtonChannel

def command? (b : UInt8) : Option (Button × Bool) :=
  if b = 'L'.toUInt8 then some (.left, true)
  else if b = 'l'.toUInt8 then some (.left, false)
  else if b = 'R'.toUInt8 then some (.right, true)
  else if b = 'r'.toUInt8 then some (.right, false)
  else none

def commands (bs : Bytes) : List (Button × Bool) := bs.filterMap command?

end Seph.ButtonChannel
