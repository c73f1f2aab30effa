/-!
# Faults while drawing

Columns and rows are kept in sixteen bits and sums of unread messages in thirty-two. A drawing step whose
result does not fit ends the program.
-/

namespace Lookout

/-- What does not fit while drawing: sixty per cent of the width of the screen, the sum of unread
messages, or the last row that a scrolled text reaches. -/
inductive DrawFault
  | overlayWidth
  | unreadSum
  | scrolledRows
deriving DecidableEq, Inhabited

/-- The number of values of a screen coordinate. -/
def coordinateValues : Nat := 0x10000

end Lookout
