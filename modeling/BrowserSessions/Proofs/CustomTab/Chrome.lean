import BrowserSessions.CustomTab
import BrowserSessions.Proofs.Text.Positional

/-!
# The chrome a custom tab intent asks for

`CustomTab.parse` reads the chrome of a custom tab from an intent's extras, leaving out what is
malformed rather than refusing the intent:

* the toolbar colour is shown iff the intent has the colour extra, as `#` and six uppercase
  hexadecimal digits whose value is the colour's integer modulo `2 ^ 24`, whatever that integer
  is: the colour is cut to 32 bits and its alpha byte masked off, which drops the alpha byte,
  all higher bits and the sign (`toNat_rgb`, `formatColor_digits`);
* the menu items are, in order, the bundles of the menu extra whose title is not empty once
  sanitised, each with its sanitised title and its pending intent (`menuItems_parse`);
* the action button is shown iff the button bundle is there and both its sanitised description
  and its pending intent are not empty (`actionButton_isSome_parse`).

Main statement: `parse_follows_extras`.
-/

namespace BrowserSessions.Intent

/-- The bundle an extra holds, as the platform hands it over: a record that reads as absent is
    a bundle without extras. -/
def bundle? (i : Intent) (key : String) : Option Intent := (i.bundleExtra? key).map (·.getD {})

/-- The bundles a list extra holds, in order, as the platform hands them over. -/
def bundles (i : Intent) (key : String) : List Intent :=
  ((i.bundleListExtra? key).getD []).map (·.getD {})

end BrowserSessions.Intent

namespace BrowserSessions.CustomTab

open Positional

/-! ## The toolbar colour -/

/-- The hexadecimal digit of a value below sixteen. -/
def hexSymbol (d : Nat) : Char := "0123456789ABCDEF".toList.getD d '0'

/-- The value of an uppercase hexadecimal digit, as `Text.hexValue` reads it. -/
def hexDigitValue (c : Char) : Nat := if c.isDigit then c.toNat - 48 else c.toNat - 55

theorem hexSymbol_table : ∀ d < 16, Text.isHexDigit (hexSymbol d) ∧ hexDigitValue (hexSymbol d) = d := by
  decide

theorem hexValue_eq (cs : List Char) : Text.hexValue cs = ofDigits 16 (cs.map hexDigitValue) := by
  simp [Text.hexValue, ofDigits, List.foldl_map, hexDigitValue]

theorem hex6_eq (n : Nat) : hex6 n = String.ofList ((toDigits 16 6 n).map hexSymbol) := by
  simp only [hex6, toDigits, List.map_map]
  rfl

/-- A 64-bit integer's bits, read unsigned, are the integer modulo `2 ^ 64`. -/
theorem toNat_toUInt64_toInt64 (x : Int) :
    x.toInt64.toUInt64.toNat = (x % 0x10000000000000000).toNat := by
  rw [← UInt64.toNat_toBitVec, Int64.toBitVec_toUInt64, Int.toInt64, Int64.toBitVec_ofInt,
    BitVec.toNat_ofInt]
  rfl

/-- Cutting a colour to 32 bits and masking off the alpha byte leaves the colour modulo `2 ^ 24`,
    the sign and every higher bit dropped. -/
theorem toNat_rgb (argb : Int) :
    (argb.toInt64.toUInt64.toUInt32 &&& 0xFFFFFF).toNat = (argb % 0x1000000).toNat := by
  -- the mask is `2 ^ 24 - 1`, so it keeps the residue of the 32 bits modulo `2 ^ 24`
  have hmask := Nat.and_two_pow_sub_one_eq_mod argb.toInt64.toUInt64.toUInt32.toNat 24
  simp only [Nat.reducePow, Nat.reduceSub] at hmask
  rw [UInt32.toNat_and, show (0xFFFFFF : UInt32).toNat = 16777215 from rfl, hmask,
    UInt64.toNat_toUInt32, toNat_toUInt64_toInt64]
  simp only [Nat.reducePow]
  omega

/-- A colour is written as `#` and six uppercase hexadecimal digits whose value is the colour
    modulo `2 ^ 24`. -/
theorem formatColor_digits (argb : Int) :
    ∃ ds, formatColor argb = String.ofList ('#' :: ds) ∧ ds.length = 6 ∧
      (∀ c ∈ ds, Text.isHexDigit c) ∧ Text.hexValue ds = (argb % 0x1000000).toNat := by
  have hlt : (argb % 0x1000000).toNat < Nat.pow 16 6 := by
    show _ < 16777216
    omega
  refine ⟨(toDigits 16 6 (argb % 0x1000000).toNat).map hexSymbol, ?_, by simp, ?_, ?_⟩
  · rw [formatColor, toNat_rgb, hex6_eq]
    apply String.toList_inj.mp
    simp
  · intro c hc
    obtain ⟨d, hd, rfl⟩ := List.mem_map.mp hc
    exact (hexSymbol_table d (lt_of_mem_toDigits (by omega) hd)).1
  · have hvalues : ((toDigits 16 6 (argb % 0x1000000).toNat).map hexSymbol).map hexDigitValue =
        toDigits 16 6 (argb % 0x1000000).toNat := by
      rw [List.map_map]
      conv => rhs; rw [← List.map_id (toDigits 16 6 _)]
      exact List.map_congr_left fun d hd => (hexSymbol_table d (lt_of_mem_toDigits (by omega) hd)).2
    rw [hexValue_eq, hvalues, ofDigits_toDigits, Nat.mod_eq_of_lt hlt]

example : formatColor (-1) = "#FFFFFF" := by decide

/-- The colour field of the chrome's object is there exactly when the colour is not empty. -/
theorem has_toolbar_color (c : Config) : c.toJson.has "toolbar_color" = !c.toolbarColor.isEmpty := by
  cases h : c.toolbarColor.isEmpty <;> cases hb : c.actionButton <;>
    cases hm : c.menuItems.isEmpty <;> simp [Config.toJson, Json.has, Json.get?, h, hb, hm]

/-- The button field of the chrome's object is there exactly when there is a button. -/
theorem has_action_button (c : Config) : c.toJson.has "action_button" = c.actionButton.isSome := by
  cases h : c.toolbarColor.isEmpty <;> cases hb : c.actionButton <;>
    cases hm : c.menuItems.isEmpty <;> simp [Config.toJson, Json.has, Json.get?, h, hb, hm]

/-! ## Reading the extras -/

/-- The colour is shown iff the intent has the colour extra. -/
theorem toolbarColor_isEmpty_parse (i : Intent) :
    (parse i).toolbarColor.isEmpty = !i.hasExtra extraToolbarColor := by
  cases h : i.hasExtra extraToolbarColor
  · simp [parse, h]
  · obtain ⟨ds, hfmt, -⟩ := formatColor_digits (i.intExtra extraToolbarColor 0)
    simp [parse, h, hfmt]

/-- A bundle gives a menu item exactly when its sanitised title is not empty. -/
theorem filterMap_menuItemOf (bs : List Intent) :
    bs.filterMap menuItemOf =
      (bs.filter fun b => Html.sanitize (b.stringExtra keyMenuItemTitle) ≠ "").map
        fun b => ⟨Html.sanitize (b.stringExtra keyMenuItemTitle), b.stringExtra keyPendingIntent⟩ := by
  induction bs with
  | nil => rfl
  | cons b bs ih =>
    by_cases h : Html.sanitize (b.stringExtra keyMenuItemTitle) = "" <;>
      simp [menuItemOf, h, ih]

/-- The menu items are the titled bundles of the menu extra, in order. -/
theorem menuItems_parse (i : Intent) :
    (parse i).menuItems =
      ((i.bundles extraMenuItems).filter fun b => Html.sanitize (b.stringExtra keyMenuItemTitle) ≠ "").map
        fun b => ⟨Html.sanitize (b.stringExtra keyMenuItemTitle), b.stringExtra keyPendingIntent⟩ := by
  have hitems : (parse i).menuItems =
      ((i.bundleListExtra? extraMenuItems).getD []).filterMap fun b => menuItemOf (b.getD {}) :=
    rfl
  rw [hitems, ← filterMap_menuItemOf, Intent.bundles, List.filterMap_map, Function.comp_def]

/-- The button is there iff the button bundle is, with a description and a pending intent. -/
theorem actionButton_isSome_parse (i : Intent) :
    (parse i).actionButton.isSome ↔ ∃ b, i.bundle? extraActionButtonBundle = some b ∧
      Html.sanitize (b.stringExtra keyDescription) ≠ "" ∧ b.stringExtra keyPendingIntent ≠ "" := by
  simp only [parse, Intent.bundle?]
  cases i.bundleExtra? extraActionButtonBundle with
  | none => simp
  | some bundle =>
    by_cases hd : Html.sanitize ((bundle.getD {}).stringExtra keyDescription) = "" <;>
      by_cases hp : (bundle.getD {}).stringExtra keyPendingIntent = "" <;>
      simp [actionButtonOf, hd, hp]

/-! ## The chrome of every intent -/

/-- For every intent, the chrome shows the colour field iff the intent has the colour extra, as
`#` and six uppercase hexadecimal digits of the colour's integer modulo `2 ^ 24`; as menu items,
in order, the bundles of the menu extra whose sanitised title is not empty, each with that title
and its pending intent; and the button field iff the button bundle is there with a sanitised
description and a pending intent that are both not empty. -/
theorem parse_follows_extras (i : Intent) :
    let c := parse i
    (c.toJson.has "toolbar_color" ↔ i.hasExtra extraToolbarColor) ∧
      (i.hasExtra extraToolbarColor → ∃ ds, c.toolbarColor = String.ofList ('#' :: ds) ∧
        ds.length = 6 ∧ (∀ d ∈ ds, Text.isHexDigit d) ∧
        Text.hexValue ds = (i.intExtra extraToolbarColor 0 % 0x1000000).toNat) ∧
      c.menuItems = ((i.bundles extraMenuItems).filter fun b =>
          Html.sanitize (b.stringExtra keyMenuItemTitle) ≠ "").map
        (fun b => ⟨Html.sanitize (b.stringExtra keyMenuItemTitle), b.stringExtra keyPendingIntent⟩) ∧
      (c.toJson.has "action_button" ↔ ∃ b, i.bundle? extraActionButtonBundle = some b ∧
        Html.sanitize (b.stringExtra keyDescription) ≠ "" ∧ b.stringExtra keyPendingIntent ≠ "") := by
  intro c
  refine ⟨?_, fun h => ?_, menuItems_parse i, ?_⟩
  · rw [has_toolbar_color, toolbarColor_isEmpty_parse]
    simp
  · have hcolour : c.toolbarColor = formatColor (i.intExtra extraToolbarColor 0) := by
      simp [c, parse, h]
    rw [hcolour]
    exact formatColor_digits _
  · rw [has_action_button]
    exact actionButton_isSome_parse i

end BrowserSessions.CustomTab
