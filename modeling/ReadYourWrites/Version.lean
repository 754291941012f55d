import ReadYourWrites.Text.Numeral
import ReadYourWrites.Text.Order

-- The order of resource versions. Versions are opaque texts, but the server counts them up, so two
-- numerals of 64 bits are compared by value. Any other two texts are compared by their bytes.

namespace ReadYourWrites.Version

def compare (observed written : String) : Ordering :=
  match Text.readWord observed, Text.readWord written with
  | some m, some n => Ord.compare m n
  | _, _ => Text.compareTexts observed written

end ReadYourWrites.Version
