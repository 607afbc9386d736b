import BrowserSessions.Url.Classify

/-!
# Domains

The user's own list of domains, used to complete what is typed into the address bar.

A domain is stored in a normal form: the text trimmed and lowercased; when it holds `://` it is
read as an address and its host name is kept (a text that is not an address is refused); one
trailing `/` is dropped. An empty form, or one holding a space, `/`, `?` or `#`, is refused, as
is a domain already in the list.

Completing a typed prefix (trimmed and lowercased) gives the first domain that starts with it,
or whose form without a common subdomain (`www.`, `mobile.`, `m.`) starts with it, in that form.
-/

namespace BrowserSessions

namespace Domains

/-- Why a domain was refused or a move was not made. -/
inductive DomainError where
  | invalid
  | duplicate
  | outOfRange
  deriving DecidableEq, Repr

/-- The message of an error. -/
def DomainError.message : DomainError → String
  | .invalid => "invalid domain"
  | .duplicate => "domain already exists"
  | .outOfRange => "position out of range"

/-- Whether a text holds `://`, which makes it read as an address. -/
@[irreducible] def hasSchemeSeparator (s : String) : Bool :=
  Bytes.containsBytes (Bytes.ofString s) (Bytes.ofString "://")

/-- The stored form of a domain. -/
def normalize (raw : String) : Except DomainError Bytes :=
  let domain := Text.lowerString (Text.trimSpace raw)
  let host : Except DomainError Bytes :=
    if hasSchemeSeparator domain then
      match Url.parseString domain with
      | .ok a => .ok a.hostname
      | .error _ => .error .invalid
    else .ok (Bytes.ofString domain)
  host.bind fun h =>
    let h := if h.getLast? == some (Url.byte '/') then h.dropLast else h
    if h.isEmpty || h.any (fun b => b == Url.byte ' ' || b == Url.byte '/' || b == Url.byte '?' || b == Url.byte '#')
    then .error .invalid
    else .ok h

end Domains

/-- The ordered list of custom domains, in stored form. -/
structure DomainList where
  items : List Bytes := []
  deriving Repr

namespace DomainList

open Domains

/-- Adds a domain at the end; gives its stored form. -/
def add (d : DomainList) (raw : String) : Except DomainError (Bytes × DomainList) :=
  (normalize raw).bind fun domain =>
    if d.items.contains domain then .error .duplicate
    else .ok (domain, { items := d.items ++ [domain] })

/-- A list seeded with domains, skipping those refused. -/
def seeded (initial : List String) : DomainList :=
  initial.foldl (fun d raw =>
    match d.add raw with
    | .ok (_, d') => d'
    | .error _ => d) {}

/-- Removes the given domains (in stored form; refused ones are ignored); gives how many went. -/
def remove (d : DomainList) (raws : List String) : Nat × DomainList :=
  let drop := raws.filterMap fun r => (normalize r).toOption
  let kept := d.items.filter fun x => !drop.contains x
  (d.items.length - kept.length, { items := kept })

/-- Moves the domain at `src` to position `dst`. -/
def move (d : DomainList) (src dst : Int) : Except DomainError DomainList :=
  let n : Int := d.items.length
  if src < 0 || src ≥ n || dst < 0 || dst ≥ n then .error .outOfRange
  else
    let i := src.toNat
    match d.items[i]? with
    | some domain =>
      let rest := d.items.eraseIdx i
      .ok { items := rest.take dst.toNat ++ domain :: rest.drop dst.toNat }
    | none => .error .outOfRange

/-- The completion of a typed text, when a domain completes it. -/
def complete (d : DomainList) (text : String) : Option Bytes :=
  let pfx := Bytes.ofString (Text.lowerString (Text.trimSpace text))
  if pfx.isEmpty then none
  else d.items.findSome? fun domain =>
    if pfx.isPrefixOf domain then some domain
    else
      let stripped := Url.stripCommonSubdomains domain
      if pfx.isPrefixOf stripped then some stripped else none

end DomainList

end BrowserSessions
