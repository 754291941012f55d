import ReadYourWrites.Json.Printer
import ReadYourWrites.Json.Reader

-- Values that are written and read again. A number in double precision can come out as another one
-- near to it. All else stays as it is.

namespace ReadYourWrites.Json

def reread? (value : Json) : Option Json :=
  (parse value.compact).toOption

-- Whether a value is read as what has been written.
def isStable (value : Json) : Bool :=
  value.reread? == some value

end ReadYourWrites.Json
