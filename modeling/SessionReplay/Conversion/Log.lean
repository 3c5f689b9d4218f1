import SessionReplay.Host

/-!
# The conversion log

A file with a line for each event, which begins with the time. A log that cannot be written does
not keep anything from being done.

* `logLine`: the line of an event.
* `Host.log`: the event is logged, if that is possible.
-/

namespace SessionReplay

def logLine (time : Instant) (message : String) : String :=
  "[" ++ time.millisText ++ "] " ++ message ++ "\n"

namespace Host

def log (path : String) (h : Host) (message : String) : Host :=
  let (time, h) := h.now
  (h.onDisk (h.disk.append path (logLine time message).toUTF8)).2

/-- Logs events in order. -/
def logAll (path : String) (h : Host) (messages : List String) : Host :=
  messages.foldl (Host.log path) h

end Host
end SessionReplay
