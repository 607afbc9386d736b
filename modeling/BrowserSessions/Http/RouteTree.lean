import BrowserSessions.Url.Percent

/-!
# Http.RouteTree

The route tree of one request method: a radix tree over the bytes of route patterns, where a
segment written `:name` is a parameter.

A node holds a piece of a pattern. Its static children are found by their first byte (the node's
`indices`); a parameter child, when there is one, comes last. A parameter takes the bytes of the
path up to the next `/`.

Looking a path up walks the tree, trying static children before the parameter. When a static
branch fails further down, the walk returns to the last node that also had a parameter and takes
the parameter instead. When no route matches, the walk reports whether adding or removing a
trailing slash is worth suggesting; the answer follows the shape of the tree rather than a second
lookup, so it can be given for a path that is itself no route (for instance `/items/x/` when the
only routes below `/items/:id` are longer).

* `RouteNode.insert` adds a pattern with its handler.
* `RouteNode.lookup` finds the handler of a path, its parameters, and the suggestion.
-/

namespace BrowserSessions.Http

open Url

/-- The kinds of nodes. -/
inductive NodeKind where
  /-- The first node of a tree. -/
  | root
  /-- A piece of fixed text. -/
  | static
  /-- A parameter segment. -/
  | param
  deriving DecidableEq, Repr

/-- A node of a route tree with handlers of type `α`. -/
inductive RouteNode (α : Type) where
  | mk (path : Bytes) (kind : NodeKind) (wildChild : Bool) (indices : Bytes)
      (children : List (RouteNode α)) (handler : Option (α × String))

namespace RouteNode

variable {α : Type}

/-- The empty tree. -/
def empty : RouteNode α := .mk [] .static false [] [] none

/-- The piece of pattern the node holds. -/
def path : RouteNode α → Bytes
  | .mk p .. => p

/-- The kind of the node. -/
def kind : RouteNode α → NodeKind
  | .mk _ k .. => k

/-- Whether the node's last child is a parameter. -/
def wildChild : RouteNode α → Bool
  | .mk _ _ w .. => w

/-- The first bytes of the static children, in the order of the children. -/
def indices : RouteNode α → Bytes
  | .mk _ _ _ i .. => i

/-- The children. -/
def children : RouteNode α → List (RouteNode α)
  | .mk _ _ _ _ cs _ => cs

/-- The handler of the node with its full pattern. -/
def handler : RouteNode α → Option (α × String)
  | .mk _ _ _ _ _ h => h

/-- A node with another piece of pattern. -/
def withPath (n : RouteNode α) (p : Bytes) : RouteNode α :=
  .mk p n.kind n.wildChild n.indices n.children n.handler

/-- A node with other children. -/
def withChildren (n : RouteNode α) (cs : List (RouteNode α)) : RouteNode α :=
  .mk n.path n.kind n.wildChild n.indices cs n.handler

/-- A node with another handler. -/
def withHandler (n : RouteNode α) (h : Option (α × String)) : RouteNode α :=
  .mk n.path n.kind n.wildChild n.indices n.children h

/-- A node of another kind. -/
def withKind (n : RouteNode α) (k : NodeKind) : RouteNode α :=
  .mk n.path k n.wildChild n.indices n.children n.handler

/-- Adds a child, keeping a parameter child last. -/
def addChild (n : RouteNode α) (c : RouteNode α) : RouteNode α :=
  if n.wildChild && !n.children.isEmpty then
    n.withChildren (n.children.dropLast ++ [c] ++ n.children.drop (n.children.length - 1))
  else n.withChildren (n.children ++ [c])

/-- The length of the common start of two byte strings. -/
def commonPrefix : Bytes → Bytes → Nat
  | a :: as, b :: bs => if a == b then commonPrefix as bs + 1 else 0
  | _, _ => 0

/-- The position of the first parameter in a pattern, with the parameter's text. -/
def findParam (p : Bytes) : Option (Nat × Bytes) :=
  match p.findIdx? (· == byte ':') with
  | some i => some (i, (p.drop i).takeWhile (· != byte '/'))
  | none => none

/-- Puts the rest of a pattern below a node that has no part of it yet: fixed text, then each
    parameter as a node of its own with the text after it as its one child. -/
def insertChild (h : α × String) : Nat → RouteNode α → Bytes → RouteNode α
  | 0, n, _ => n
  | fuel + 1, n, p =>
    match findParam p with
    | none => (n.withPath p).withHandler (some h)
    | some (i, wild) =>
      let n := if i > 0 then n.withPath (p.take i) else n
      let rest := p.drop i
      let child : RouteNode α := .mk wild .param false [] [] none
      let child :=
        if wild.length < rest.length then
          child.withChildren [insertChild h fuel empty (rest.drop wild.length)]
        else child.withHandler (some h)
      let n := n.addChild child
      .mk n.path n.kind true n.indices n.children n.handler

/-- Replaces the `i`-th child. -/
def setChild (n : RouteNode α) (i : Nat) (c : RouteNode α) : RouteNode α :=
  n.withChildren (n.children.set i c)

/-- Adds a pattern below a node; the pattern is what is left of it at this node. -/
def insertAt (h : α × String) : Nat → RouteNode α → Bytes → RouteNode α
  | 0, n, _ => n
  | fuel + 1, n, p =>
    let i := commonPrefix p n.path
    -- split the node where the pattern leaves it
    let n :=
      if i < n.path.length then
        let child : RouteNode α := .mk (n.path.drop i) .static n.wildChild n.indices n.children n.handler
        .mk (p.take i) n.kind false ((n.path.drop i).take 1) [child] none
      else n
    if i < p.length then
      let p := p.drop i
      let c := p.headD 0
      if n.kind == .param && c == byte '/' && n.children.length == 1 then
        n.setChild 0 (insertAt h fuel (n.children.headD empty) p)
      else
        match n.indices.findIdx? (· == c) with
        | some j => n.setChild j (insertAt h fuel (n.children.getD j empty) p)
        | none =>
          if c != byte ':' then
            let child := insertChild h (p.length + 1) empty p
            let n : RouteNode α := .mk n.path n.kind n.wildChild (n.indices ++ [c]) n.children n.handler
            n.addChild child
          else if n.wildChild then
            let last := n.children.length - 1
            n.setChild last (insertAt h fuel (n.children.getD last empty) p)
          else insertChild h (p.length + 1) n p
    else n.withHandler (some h)

/-- Adds a route: its pattern, its handler. -/
def insert (n : RouteNode α) (pattern : String) (a : α) : RouteNode α :=
  let p := Bytes.ofString pattern
  let h := (a, pattern)
  if n.path.isEmpty && n.children.isEmpty then (insertChild h (p.length + 1) n p).withKind .root
  else insertAt h (p.length + 1) n p

/-- What a lookup found: the handler with its pattern, the parameters in order, and whether a
    path with or without a trailing slash is worth suggesting. -/
structure Match (α : Type) where
  handler : Option (α × String) := none
  params : List (String × Bytes) := []
  suggestSlash : Bool := false

/-- A place to come back to: the path left at a node that also had a parameter child, the node
    without its static children, and how many parameters were taken then. -/
structure Fallback (α : Type) where
  path : Bytes
  node : RouteNode α
  taken : Nat

/-- The latest fallback whose path ends with the path left now, and the older ones. -/
def fallBack : List (Fallback α) → Bytes → Option (Fallback α × List (Fallback α))
  | [], _ => none
  | f :: rest, p => if p.isSuffixOf f.path then some (f, rest) else fallBack rest p

/-- Walks the tree for a path. -/
def walk : Nat → RouteNode α → Bytes → List (String × Bytes) → List (Fallback α) → Match α
  | 0, _, _, params, _ => { params }
  | fuel + 1, n, p, params, back =>
    let pre := n.path
    let slash := [byte '/']
    let nothing : Unit → Match α := fun _ =>
      let tsr := p == slash ||
        (pre.length == p.length + 1 && pre.getD p.length 0 == byte '/' && p == pre.dropLast && n.handler.isSome)
      if !tsr && p != slash then
        match fallBack back p with
        | some (f, rest) => walk fuel f.node f.path (params.take f.taken) rest
        | none => { params, suggestSlash := tsr }
      else { params, suggestSlash := tsr }
    if p.length > pre.length then
      if p.take pre.length == pre then
        let p := p.drop pre.length
        let c := p.headD 0
        match n.indices.findIdx? (· == c) with
        | some i =>
          let back := if n.wildChild then
              ⟨pre ++ p, RouteNode.mk n.path n.kind n.wildChild [] n.children n.handler, params.length⟩ :: back
            else back
          walk fuel (n.children.getD i empty) p params back
        | none =>
          if !n.wildChild then
            let retry := if p != slash then fallBack back p else none
            match retry with
            | some (f, rest) => walk fuel f.node f.path (params.take f.taken) rest
            | none => { params, suggestSlash := p == slash && n.handler.isSome }
          else
            let w := n.children.getLastD empty
            let stop := (p.takeWhile (· != byte '/')).length
            let params := params ++ [(Bytes.toStringLossy (w.path.drop 1), p.take stop)]
            if stop < p.length then
              match w.children with
              | c :: _ => walk fuel c (p.drop stop) params back
              | [] => { params, suggestSlash := p.length == stop + 1 }
            else
              match w.handler with
              | some h => { handler := some h, params }
              | none =>
                match w.children with
                | [c] => { params, suggestSlash := (c.path == slash && c.handler.isSome) ||
                    (c.path.isEmpty && c.indices == slash) }
                | _ => { params }
      else nothing ()
    else if p == pre then
      let retry := if n.handler.isNone && p != slash then fallBack back p else none
      match retry with
      | some (f, rest) => walk fuel f.node f.path (params.take f.taken) rest
      | none =>
        match n.handler with
        | some h => { handler := some h, params }
        | none =>
          if p == slash && n.wildChild && n.kind != .root then { params, suggestSlash := true }
          else if p == slash && n.kind == .static then { params, suggestSlash := true }
          else
            match n.indices.findIdx? (· == byte '/') with
            | some i =>
              let c := n.children.getD i empty
              { params, suggestSlash := c.path.length == 1 && c.handler.isSome }
            | none => { params }
    else nothing ()

/-- Looks a path up. Every step consumes path or gives up a fallback, so the fuel is ample. -/
def lookup (n : RouteNode α) (p : Bytes) : Match α :=
  walk (4 * (p.length + 1) * (p.length + 1)) n p [] []

end RouteNode

end BrowserSessions.Http
