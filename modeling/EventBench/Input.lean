import EventBench.Fault

namespace EventBench

abbrev Input := Except Fault Bytes

/-- Reads an input stream to its end. A fault of the system is told as an unreadable input; any other
fault is left as it is. -/
def Input.read : Input → Except Fault Bytes
  | .ok data => .ok data
  | .error f => .error (if f.kind = .system then .unreadableInput f.message else f)

end EventBench
