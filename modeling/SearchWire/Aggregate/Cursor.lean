import SearchWire.Command

/-!
# Cursors

Results read in pages.

* `CursorOptions`, `CursorOptions.tokens`: a cursor that a command asks for;
* `Cursor.readCommand`, `Cursor.deleteCommand`: the commands on an open cursor.
-/

namespace SearchWire

/-- A cursor to be opened. -/
structure CursorOptions where
  count : Option Nat := none
  /-- Milliseconds. -/
  maxIdle : Option Nat := none
deriving DecidableEq, Repr

def CursorOptions.tokens (o : CursorOptions) : Command :=
  "WITHCURSOR" :: (Command.number "COUNT" o.count ++ Command.number "MAXIDLE" o.maxIdle)

namespace Cursor

def readCommand (index : String) (id : Nat) (maxIdle count : Option Nat) : Command :=
  "FT.CURSOR" :: "READ" :: index :: .ofNat id ::
    (Command.number "MAXIDLE" maxIdle ++ Command.number "COUNT" count)

def deleteCommand (index : String) (id : Nat) : Command := ["FT.CURSOR", "DEL", index, .ofNat id]

end Cursor

end SearchWire
