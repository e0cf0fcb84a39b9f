import PromptPress.Log.Line
import PromptPress.Log.Wording
import PromptPress.Settings.Basic

/-!
# Log files

The settings say from which level on events are shown and in which form.  A log file holds a line
for each event that is shown.
-/

namespace PromptPress

namespace Settings

/-- The least level that is shown. -/
def threshold (s : Settings) : Log.Threshold := Log.Threshold.ofName s.logLevel

/-- The form of the lines. -/
def lineFormat (s : Settings) : Log.Format := if s.logFormat == "json" then .json else .console

end Settings

namespace Log

/-- Is an event shown? -/
def Threshold.shows (t : Threshold) (e : Event) : Bool := t.weight ≤ e.level.weight

/-- An event with arguments for the places of its wording; they are put in only if it is shown. -/
def Event.filled (s : Settings) (args : List Json) (e : Event) : Except Error Event :=
  if s.threshold.shows e then (fillWording e.text args).map fun text => { e with text := text }
  else .ok e

/-- The text of a log file, where `time` stands for the time of every event. -/
def fileText (s : Settings) (time : Text) (events : List Event) : Text :=
  (events.filter s.threshold.shows).flatMap fun e => e.line s.lineFormat time ++ ['\n']

/-- The lines of a log file; what follows the last line feed is a line too. -/
def fileLines (s : Settings) (time : Text) (events : List Event) : List Text :=
  Text.splitAtChar '\n' (fileText s time events)

/-- The places where events are shown: always the terminal, and the file if there is one. -/
def outlets (file : Bool) : List Text :=
  let terminal : Text := "RichHandler"
  if file then [terminal, "FileHandler"] else [terminal]

end Log

end PromptPress
