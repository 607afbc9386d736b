import BrowserSessions.Loose

/-!
# Intent

An intent: a request from the platform to show something, with an action, a data address, flag
bits and loosely typed extras. The accessors read an extra as the type they need and fall back to
a default when the extra is absent, is `null`, or does not read as that type.
-/

namespace BrowserSessions

/-- A request from the platform. -/
structure Intent where
  action : String := ""
  data : String := ""
  flags : Int := 0
  extras : List (String × Json) := []
  deriving Inhabited

namespace Intent

/-- Opening an address. -/
def actionView : String := "android.intent.action.VIEW"
/-- Sharing a text. -/
def actionSend : String := "android.intent.action.SEND"
/-- Starting from the launcher. -/
def actionMain : String := "android.intent.action.MAIN"

/-- The flag of an intent replayed from the recent-tasks list. -/
def flagLaunchedFromHistory : Int := 0x00100000

/-- The extra with shared text. -/
def extraText : String := "android.intent.extra.TEXT"
/-- The extra present when the intent comes from a home screen shortcut. -/
def extraHomeScreen : String := "add_to_homescreen"
/-- The extra that turns content blocking on or off. -/
def extraBlockingEnabled : String := "blocking_enabled"

/-- Whether all bits of `flag` are set, in 64-bit two's complement. -/
def hasFlag (i : Intent) (flag : Int) : Bool :=
  (i.flags.toInt64 &&& flag.toInt64) == flag.toInt64

/-- Whether the intent is replayed from the recent-tasks list. -/
def launchedFromHistory (i : Intent) : Bool := i.hasFlag flagLaunchedFromHistory

/-- The value of an extra, the last one if a key repeats. -/
def extra? (i : Intent) (key : String) : Option Json :=
  (i.extras.reverse.find? (·.1 == key)).map (·.2)

/-- Whether an extra is present, even as `null`. -/
def hasExtra (i : Intent) (key : String) : Bool := (i.extra? key).isSome

/-- An extra that is present and not `null`. -/
def presentExtra? (i : Intent) (key : String) : Option Json :=
  match i.extra? key with
  | some .null => none
  | other => other

/-- An extra as text, or `""`. -/
def stringExtra (i : Intent) (key : String) : String :=
  ((i.presentExtra? key).bind Loose.toText?).getD ""

/-- An extra as a truth value, or the default. -/
def boolExtra (i : Intent) (key : String) (default : Bool) : Bool :=
  ((i.presentExtra? key).bind Loose.toBool?).getD default

/-- An extra as an integer, or the default. -/
def intExtra (i : Intent) (key : String) (default : Int) : Int :=
  ((i.presentExtra? key).bind Loose.toInt?).getD default

/-- An extra as a nested intent with only extras: `none` when it is not a record; the inner
    option is `none` when the record is absent (a text holding `null`). -/
def bundleExtra? (i : Intent) (key : String) : Option (Option Intent) :=
  ((i.presentExtra? key).bind Loose.toRecord?).map (·.map fun fs => { extras := fs })

/-- An extra as a list of nested intents: the items that read as records, others skipped. -/
def bundleListExtra? (i : Intent) (key : String) : Option (List (Option Intent)) :=
  ((i.presentExtra? key).bind Loose.toList?).map fun items =>
    items.filterMap fun item => (Loose.toRecord? item).map (·.map fun fs => { extras := fs })

/-- Reads an intent from its JSON object; absent or mistyped fields keep their defaults, and the
    extras are read as untyped values. -/
def ofJson (j : Json) : Intent :=
  { action := j.getStr "action"
    data := j.getStr "data"
    flags := j.getInt "flags"
    extras := match j.get? "extras" with
      | some (.obj fs) => (Json.loosen (.obj fs)).fields
      | _ => [] }

/-- The JSON object of an intent: empty data, zero flags and no extras are left out. -/
def toJson (i : Intent) : Json :=
  .obj ([("action", .str i.action)] ++
    (if i.data.isEmpty then [] else [("data", .str i.data)]) ++
    (if i.flags == 0 then [] else [("flags", .int i.flags)]) ++
    (if i.extras.isEmpty then [] else [("extras", .obj i.extras)]))

end Intent

end BrowserSessions
