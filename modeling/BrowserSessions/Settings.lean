/-!
# Settings

The user's preferences that the session service reads: whether query suggestions may be fetched
(and whether the user ever answered that question), and the default search engine's name.
Preferences live in memory; turning suggestions on or off records that the user chose.
-/

namespace BrowserSessions

/-- The user's preferences. -/
structure Settings where
  suggestionsEnabled : Bool := false
  userToggledSuggestions : Bool := false
  defaultEngine : String := ""
  deriving DecidableEq, Repr

namespace Settings

/-- Preferences seeded with defaults. -/
def seeded (suggestions : Bool) (engine : String) : Settings :=
  { suggestionsEnabled := suggestions, defaultEngine := engine }

/-- Turns suggestions on or off as the user's choice. -/
def setSuggestions (s : Settings) (enabled : Bool) : Settings :=
  { s with suggestionsEnabled := enabled, userToggledSuggestions := true }

/-- Records the user's engine. -/
def setDefaultEngine (s : Settings) (name : String) : Settings := { s with defaultEngine := name }

end Settings

end BrowserSessions
