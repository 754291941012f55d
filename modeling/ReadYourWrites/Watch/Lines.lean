import ReadYourWrites.Text.Split
import ReadYourWrites.Watch.Line

-- Cutting the bytes of a stream into lines. A line feed ends a line.

namespace ReadYourWrites.Line

def lineFeed : UInt8 :=
  0x0A

def carriageReturn : UInt8 :=
  0x0D

-- A carriage return at the end belongs to the line break.
def dropReturn (bytes : List UInt8) : List UInt8 :=
  if bytes.getLast? = some carriageReturn then bytes.dropLast else bytes

-- The lines that end in some bytes, and what follows the last of them.
def split (bytes : List UInt8) : List (List UInt8) × List UInt8 :=
  let pieces := Text.splitAll lineFeed bytes
  (pieces.dropLast.map dropReturn, pieces.getLast?.getD [])

-- The line that is left when the stream ends.
def ofRest (rest : List UInt8) : List (List UInt8) :=
  if rest = [] ∨ rest = [carriageReturn] then [] else [dropReturn rest]

end ReadYourWrites.Line
