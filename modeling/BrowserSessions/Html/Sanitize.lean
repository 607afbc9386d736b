import BrowserSessions.Html.Tokenize
import BrowserSessions.Text.Case

/-!
# Html.Sanitize

Reducing a label that may hold HTML to plain text, allowing no element at all.

Tags, comments and declarations are dropped and text is kept, except:

* the text inside `script` and `style`: text is dropped while the last start tag is one of them,
  until an end tag of the same name;
* the text inside `frame`, `frameset`, `iframe`, `noembed`, `noframes`, `noscript`, `nostyle`,
  `object` and `title`: a start tag of one of these starts skipping and an end tag of one of
  them counts down, skipping ending when the count comes back to zero. A stray end tag counts
  below zero, so a later element of these kinds is then never left.

Kept text has its character references replaced (in the sanitized markup they would be escaped
again, and reading the label back from it replaces them once more, which gives the same text),
and the label is the kept text with surrounding whitespace trimmed.
-/

namespace BrowserSessions.Html

/-- Elements whose text is dropped while the last start tag names one of them. -/
def scriptLike : List String := ["script", "style"]

/-- Elements whose content is skipped. -/
def skippedElements : List String :=
  ["frame", "frameset", "iframe", "noembed", "noframes", "noscript", "nostyle", "object", "title"]

/-- What the sanitizer remembers between tokens. -/
structure SanitizeState where
  skipping : Bool := false
  depth : Int := 0
  lastStarted : String := ""
  kept : List Char := []

/-- Takes one token into account. -/
def SanitizeState.step (s : SanitizeState) : Token → SanitizeState
  | .text cs =>
    if s.skipping || scriptLike.contains s.lastStarted then s else { s with kept := s.kept ++ cs }
  | .startTag name =>
    let s := { s with lastStarted := name }
    if scriptLike.contains name || !skippedElements.contains name then s
    else { s with skipping := true, depth := s.depth + 1 }
  | .endTag name =>
    let s := if s.lastStarted == name then { s with lastStarted := "" } else s
    if scriptLike.contains name || !skippedElements.contains name then s
    else
      let depth := s.depth - 1
      { s with depth, skipping := if depth == 0 then false else s.skipping }
  | .selfClosingTag _ | .comment => s

/-- The plain text of a label. -/
def sanitize (label : String) : String :=
  let final := (tokenize label).foldl SanitizeState.step {}
  Text.trimSpace (String.ofList final.kept)

end BrowserSessions.Html
