import PromptPress.Files.Path
import PromptPress.Text.Case

/-!
# Settings

The settings of the compiler, with the values that hold where nothing else is said.
-/

namespace PromptPress

/-- What the compiler can be told from outside. -/
structure Settings where
  collapseWhitespace : Bool := true
  /-- The names of the passes that run where none are given. -/
  defaultPasses : List Text := []
  markdownExtras : List Text :=
    [("fenced-code-blocks" : Text), "tables", "strike"]
  target : Text := "typescript"
  cacheSize : Int := 256
  logLevel : Text := "INFO"
  logFormat : Text := "console"
  logFile : Option Path := none
  environment : Text := "development"
  deriving DecidableEq

namespace Settings

/-- Is this a development environment? -/
def isDevelopment (s : Settings) : Bool :=
  [("development" : Text), "dev"].contains (Text.lower s.environment)

/-- Is this a test environment? -/
def isTesting (s : Settings) : Bool :=
  [("testing" : Text), "test"].contains (Text.lower s.environment)

/-- Fields that are set by hand, each to a value of its kind. -/
structure Changes where
  collapseWhitespace : Option Bool := none
  defaultPasses : Option (List Text) := none
  markdownExtras : Option (List Text) := none
  target : Option Text := none
  cacheSize : Option Int := none
  logLevel : Option Text := none
  logFormat : Option Text := none
  logFile : Option (Option Path) := none
  environment : Option Text := none
  deriving DecidableEq

/-- Sets fields without checking them. -/
def override (s : Settings) (c : Changes) : Settings where
  collapseWhitespace := c.collapseWhitespace.getD s.collapseWhitespace
  defaultPasses := c.defaultPasses.getD s.defaultPasses
  markdownExtras := c.markdownExtras.getD s.markdownExtras
  target := c.target.getD s.target
  cacheSize := c.cacheSize.getD s.cacheSize
  logLevel := c.logLevel.getD s.logLevel
  logFormat := c.logFormat.getD s.logFormat
  logFile := c.logFile.getD s.logFile
  environment := c.environment.getD s.environment

end Settings

end PromptPress
