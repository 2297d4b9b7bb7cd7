-- The colour of a percentage in use.
import ProcessMonitor.Screen.Stroke
import ProcessMonitor.Number.Double

namespace ProcessMonitor.Screen

/-- From here on the use is high. -/
def highUsage : Double := 75

/-- From here on the use is medium. -/
def mediumUsage : Double := 40

def usageColour (percent : Double) : Colour :=
  if highUsage.le percent then .red
  else if mediumUsage.le percent then .yellow
  else .green

end ProcessMonitor.Screen
