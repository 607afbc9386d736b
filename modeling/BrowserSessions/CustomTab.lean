import BrowserSessions.Intent
import BrowserSessions.Html.Sanitize
import BrowserSessions.Json.Print

/-!
# CustomTab

The browser chrome another application asks for when it opens a page in a custom tab: a toolbar
colour, a custom close button, whether the address bar may hide, a share item, an extra toolbar
button and extra menu items.

An intent asks for a custom tab when it has the session extra, whatever its value. Malformed
pieces are left out rather than refused. Labels come from another application, so they are
reduced to plain text (`Html.sanitize`); a button or menu item whose label is then empty is
left out, as is a button without a pending intent.
-/

namespace BrowserSessions.CustomTab

/-- The extra that marks a custom tab intent. -/
def extraSession : String := "android.support.customtabs.extra.SESSION"
/-- The toolbar colour, as an ARGB integer. -/
def extraToolbarColor : String := "android.support.customtabs.extra.TOOLBAR_COLOR"
/-- The custom close button icon. -/
def extraCloseButtonIcon : String := "android.support.customtabs.extra.CLOSE_BUTTON_ICON"
/-- The bundle of the extra toolbar button. -/
def extraActionButtonBundle : String := "android.support.customtabs.extra.ACTION_BUTTON_BUNDLE"
/-- Whether the extra toolbar button is tinted. -/
def extraTintActionButton : String := "android.support.customtabs.extra.TINT_ACTION_BUTTON"
/-- Whether the menu has a share item. -/
def extraDefaultShareMenu : String := "android.support.customtabs.extra.SHARE_MENU_ITEM"
/-- The list of bundles of extra menu items. -/
def extraMenuItems : String := "android.support.customtabs.extra.MENU_ITEMS"
/-- Whether the address bar stays in view. -/
def extraDisableUrlBarHiding : String := "org.mozilla.focus.customtabs.EXTRA_DISABLE_URLBAR_HIDING"

/-- The icon of a button. -/
def keyIcon : String := "android.support.customtabs.customaction.ICON"
/-- The description of a button. -/
def keyDescription : String := "android.support.customtabs.customaction.DESCRIPTION"
/-- The intent a button or menu item fires. -/
def keyPendingIntent : String := "android.support.customtabs.customaction.PENDING_INTENT"
/-- The title of a menu item. -/
def keyMenuItemTitle : String := "android.support.customtabs.customaction.MENU_ITEM_TITLE"

/-- The extra toolbar button. -/
structure ActionButton where
  description : String
  hasIcon : Bool
  tint : Bool
  pendingIntent : String
  deriving DecidableEq, Repr

/-- An extra menu item. -/
structure MenuItem where
  title : String
  pendingIntent : String
  deriving DecidableEq, Repr

/-- The chrome of a custom tab. -/
structure Config where
  toolbarColor : String := ""
  customCloseButton : Bool := false
  disableUrlBarHiding : Bool := false
  showShareMenuItem : Bool := false
  actionButton : Option ActionButton := none
  menuItems : List MenuItem := []
  deriving DecidableEq, Repr

/-- Whether an intent asks for a custom tab. -/
def isCustomTab (i : Intent) : Bool := i.hasExtra extraSession

/-- Six uppercase hexadecimal digits. -/
def hex6 (n : Nat) : String :=
  String.ofList ((List.range 6).reverse.map fun k =>
    "0123456789ABCDEF".toList.getD (n / Nat.pow 16 k % 16) '0')

/-- An ARGB colour as `#RRGGBB`, dropping the alpha channel: the integer is cut to its low 32 bits
    and the alpha byte masked off (`uint32(argb) & 0xFFFFFF`). -/
def formatColor (argb : Int) : String :=
  "#" ++ hex6 (argb.toInt64.toUInt64.toUInt32 &&& 0xFFFFFF).toNat

/-- The extra toolbar button of a bundle, when it has a description and a pending intent. -/
def actionButtonOf (bundle : Intent) (tint : Bool) : Option ActionButton :=
  let description := Html.sanitize (bundle.stringExtra keyDescription)
  let pending := bundle.stringExtra keyPendingIntent
  if description.isEmpty || pending.isEmpty then none
  else some { description, hasIcon := bundle.hasExtra keyIcon, tint, pendingIntent := pending }

/-- The menu item of a bundle, when it has a title. -/
def menuItemOf (bundle : Intent) : Option MenuItem :=
  let title := Html.sanitize (bundle.stringExtra keyMenuItemTitle)
  if title.isEmpty then none else some { title, pendingIntent := bundle.stringExtra keyPendingIntent }

/-- The chrome an intent asks for. -/
def parse (i : Intent) : Config :=
  { customCloseButton := i.hasExtra extraCloseButtonIcon
    disableUrlBarHiding := i.boolExtra extraDisableUrlBarHiding false
    showShareMenuItem := i.boolExtra extraDefaultShareMenu false
    toolbarColor := if i.hasExtra extraToolbarColor then formatColor (i.intExtra extraToolbarColor 0)
      else ""
    actionButton := match i.bundleExtra? extraActionButtonBundle with
      | some bundle =>
        actionButtonOf (bundle.getD {}) (i.boolExtra extraTintActionButton false)
      | none => none
    menuItems := ((i.bundleListExtra? extraMenuItems).getD []).filterMap
      fun b => menuItemOf (b.getD {}) }

/-- The JSON object of an action button. -/
def ActionButton.toJson (b : ActionButton) : Json :=
  .obj [("description", .str b.description), ("has_icon", .bool b.hasIcon), ("tint", .bool b.tint),
    ("pending_intent", .str b.pendingIntent)]

/-- The JSON object of a menu item. -/
def MenuItem.toJson (m : MenuItem) : Json :=
  .obj [("title", .str m.title), ("pending_intent", .str m.pendingIntent)]

/-- The JSON object of a config: an empty colour, no button and no menu items are left out. -/
def Config.toJson (c : Config) : Json :=
  .obj ((if c.toolbarColor.isEmpty then [] else [("toolbar_color", .str c.toolbarColor)]) ++
    [("custom_close_button", .bool c.customCloseButton),
     ("disable_urlbar_hiding", .bool c.disableUrlBarHiding),
     ("show_share_menu_item", .bool c.showShareMenuItem)] ++
    (match c.actionButton with
      | some b => [("action_button", b.toJson)]
      | none => []) ++
    (if c.menuItems.isEmpty then [] else [("menu_items", .arr (c.menuItems.map MenuItem.toJson))]))

end BrowserSessions.CustomTab
