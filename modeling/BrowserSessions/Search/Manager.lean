import BrowserSessions.Search.Catalog
import BrowserSessions.Url.Classify

/-!
# Search.Manager

Resolving engines from a catalog and the user's preference, building search addresses, and
recovering the terms of a results page.

An engine is found by an identifier equal to the text, or by a name equal to it up to case; the
first in catalog order wins. The default engine is the user's choice when it names an engine,
then the catalog's default, then the first engine; a catalog without engines has none.

A results address gives back its terms when it is an `http` or `https` address whose short host
text (`Url.snippet`) contains the lowercased name of an engine (the first such engine), that
engine's terms parameter is not empty and appears in the address, the address reads as one, and
the first value of the parameter is not empty. Anything else gives the address back. The short
host text shows a host in its IDNA display form; `engineForUrlWith` and `searchTermsOrUrlWith`
take that conversion as an argument.
-/

namespace BrowserSessions.Search

/-- A catalog with the user's engine choice, when the user has preferences. -/
structure Manager where
  catalog : Catalog
  preference : Option String := none
  deriving Repr

namespace Manager

/-- The engines, in catalog order. -/
def engines (m : Manager) : List Engine := m.catalog.engines

/-- The first engine with this identifier, or with this name up to case. -/
def engine? (m : Manager) (idOrName : String) : Option Engine :=
  m.catalog.engines.find? fun e =>
    e.id == idOrName || Text.equalFoldChars e.name.toList idOrName.toList

/-- The engine searches go to: the user's, the catalog's default, or the first; none without
    engines. -/
def defaultEngine? (m : Manager) : Option Engine :=
  let byPreference := m.preference.bind m.engine?
  match byPreference with
  | some e => some e
  | none =>
    match m.engine? m.catalog.default with
    | some e => some e
    | none => m.catalog.engines.head?

/-- The results address for some terms on the default engine. -/
def createSearchUrl? (m : Manager) (terms : String) : Option String :=
  m.defaultEngine?.map (·.searchUrl terms)

/-- The results address for terms given as bytes on the default engine. -/
def searchUrlOf? (m : Manager) (terms : Bytes) : Option String :=
  m.defaultEngine?.map (·.searchUrlOf terms)

/-- The first engine whose lowercased name is part of the address's short host text, the host
    shown by `display`. -/
def engineForUrlWith (m : Manager) (display : Bytes → Except Idna.DisplayError String)
    (raw : String) : Option Engine :=
  let snippet := Url.snippetWith display raw
  m.catalog.engines.find? fun e =>
    Bytes.containsBytes snippet (Bytes.ofString (Text.lowerString e.name))

/-- The first engine whose lowercased name is part of the address's short host text. -/
def engineForUrl? (m : Manager) (raw : String) : Option Engine :=
  m.engineForUrlWith Idna.toUnicode raw

/-- The terms of a results address, or the address, with hosts shown by `display`. -/
def searchTermsOrUrlWith (m : Manager) (display : Bytes → Except Idna.DisplayError String)
    (raw : String) : Bytes :=
  let unchanged := Bytes.ofString raw
  if !Url.isHttpOrHttps raw then unchanged
  else match m.engineForUrlWith display raw with
    | none => unchanged
    | some e =>
      let param := e.termsParam
      if param.isEmpty || !Bytes.containsBytes (Bytes.ofString raw) (Bytes.ofString param) then unchanged
      else match Url.parseString raw with
        | .error _ => unchanged
        | .ok a =>
          let terms := Url.lookupFirst a.query (Bytes.ofString param)
          if terms.isEmpty then unchanged else terms

/-- The terms of a results address, or the address. -/
def searchTermsOrUrl (m : Manager) (raw : String) : Bytes :=
  m.searchTermsOrUrlWith Idna.toUnicode raw

/-- Sets the user's engine choice. -/
def setPreference (m : Manager) (name : String) : Manager := { m with preference := some name }

end Manager

end BrowserSessions.Search
