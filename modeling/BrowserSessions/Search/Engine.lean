import BrowserSessions.Url.Query
import BrowserSessions.Url.Parse

/-!
# Search.Engine

A search engine: an identifier, a name shown to the user, and address templates for results and
for suggestions. A template holds the placeholder `{searchTerms}` where the query goes, escaped
as a query component (space as `+`).

The query parameter that carries the terms is the first key of the search template's query whose
decoded value is exactly the placeholder; pairs with a `;` and pairs that do not decode are left
out, and a template that is not an address has none.
-/

namespace BrowserSessions.Search

/-- The placeholder of the terms in a template. -/
def termsPlaceholder : String := "\x7bsearchTerms\x7d"

/-- A search provider the user can pick. -/
structure Engine where
  id : String := ""
  name : String := ""
  search : String := ""
  suggest : String := ""
  deriving DecidableEq, Repr, Inhabited

/-- A template with every placeholder replaced by the escaped terms, given as bytes. The
    replacing is done on the template's UTF-8 bytes: placeholder and escaped terms are ASCII, so
    no character of the template is cut. -/
def fillBytes (template : String) (terms : Bytes) : String :=
  Bytes.toStringLossy
    (Bytes.replaceAll (Bytes.ofString template) (Bytes.ofString termsPlaceholder) (Url.queryEscape terms))

/-- A template with every placeholder replaced by the escaped terms. -/
def fill (template terms : String) : String := fillBytes template (Bytes.ofString terms)

namespace Engine

/-- The results address for some terms. -/
def searchUrl (e : Engine) (terms : String) : String := fill e.search terms

/-- The results address for terms given as bytes. -/
def searchUrlOf (e : Engine) (terms : Bytes) : String := fillBytes e.search terms

/-- The suggestions address for some terms, or `""` when the engine has none. -/
def suggestUrl (e : Engine) (terms : String) : String :=
  if e.suggest.isEmpty then "" else fill e.suggest terms

/-- The suggestions address for terms given as bytes, or `""` when the engine has none. -/
def suggestUrlOf (e : Engine) (terms : Bytes) : String :=
  if e.suggest.isEmpty then "" else fillBytes e.suggest terms

/-- The query parameter that carries the terms, or `""`. -/
def termsParam (e : Engine) : String :=
  match Url.parseString e.search with
  | .error _ => ""
  | .ok a =>
    match a.query.find? (fun kv => kv.2 == Bytes.ofString termsPlaceholder) with
    | some kv => Bytes.toStringLossy kv.1
    | none => ""

end Engine

end BrowserSessions.Search
